import Mathlib.Logic.Relation
import Scriptlet.Heap.Slot
import Scriptlet.Proofs.Heap.Depth

/-!
# Values without cycles

A container holds values, and some of them may be containers again.  A value is
*acyclic* if no container that is come to from it is inside of itself.  What the
scopes of functions bind does not count, since a display does not go into them.

A value is acyclic if and only if all that it holds directly is
(`Heap.acyclic_iff`).  A heap has only so many containers, so this ends somewhere,
and an acyclic value can be gone through by induction (`Heap.Acyclic.induction`).
The values that have a text are just the acyclic ones (`Heap.exists_display_iff`).
A display that comes to an object finds it among what the value holds, and in an
acyclic value it always comes there (`Heap.Acyclic.comesTo_iff`).
-/

namespace Scriptlet

open Relation

/-- All elements of a list have a result if and only if they have one each. -/
theorem exists_mapM_iff {α β : Type} {f : α → Option β} : ∀ {as : List α},
    (∃ bs, as.mapM f = some bs) ↔ ∀ a ∈ as, ∃ b, f a = some b
  | [] => by simp
  | a :: as => by
    have rest := @exists_mapM_iff α β f as
    simp only [List.mapM_cons, Option.bind_eq_bind, Option.bind_eq_some_iff, List.forall_mem_cons,
      ← rest]
    constructor
    · rintro ⟨-, b, first, bs, others, -⟩
      exact ⟨⟨b, first⟩, bs, others⟩
    · rintro ⟨⟨b, first⟩, bs, others⟩
      exact ⟨b :: bs, b, first, bs, others, rfl⟩

section

variable {α : Type} {f : α → Option Bool}

/-- A search that hits has a place where it does. -/
theorem exists_of_anyM : ∀ {as : List α}, as.anyM f = some true → ∃ a ∈ as, f a = some true
  | [], found => nomatch found
  | a :: as, found => by
    rw [List.anyM_cons, Option.bind_eq_bind, Option.bind_eq_some_iff] at found
    obtain ⟨here, first, rest⟩ := found
    cases here with
    | true => exact ⟨a, .head _, first⟩
    | false =>
      obtain ⟨b, inside, later⟩ := exists_of_anyM rest
      exact ⟨b, .tail _ inside, later⟩

/-- A search misses if it does at each place. -/
theorem anyM_eq_false_iff : ∀ {as : List α},
    as.anyM f = some false ↔ ∀ a ∈ as, f a = some false
  | [] => by simp
  | a :: as => by
    rw [List.anyM_cons, Option.bind_eq_bind, Option.bind_eq_some_iff, List.forall_mem_cons,
      ← anyM_eq_false_iff]
    constructor
    · rintro ⟨here, first, rest⟩
      cases here with
      | true => cases rest
      | false => exact ⟨first, rest⟩
    · rintro ⟨first, rest⟩
      exact ⟨false, first, rest⟩

/-- A search ends if it does at each place. -/
theorem exists_anyM : ∀ {as : List α}, (∀ a ∈ as, ∃ b, f a = some b) → ∃ b, as.anyM f = some b
  | [], _ => ⟨false, rfl⟩
  | a :: as, each => by
    obtain ⟨⟨here, first⟩, others⟩ := List.forall_mem_cons.mp each
    rw [List.anyM_cons, first]
    cases here with
    | true => exact ⟨true, rfl⟩
    | false => exact exists_anyM others

end

namespace Heap

variable (h : Heap)

/-! ## What containers hold -/

/-- One value holds another directly. -/
def Holds (v w : Value) : Prop := w ∈ h.inside v

/-- No value that is come to from a given one is inside of itself. -/
def Acyclic (v : Value) : Prop :=
  ∀ w, ReflTransGen h.Holds v w → ¬ TransGen h.Holds w w

variable {h} {v w : Value}

theorem Acyclic.of_holds (acyclic : h.Acyclic v) (holds : h.Holds v w) : h.Acyclic w :=
  fun u reached => acyclic u (.head holds reached)

/-- A value is acyclic if and only if all that it holds is. -/
theorem acyclic_iff : h.Acyclic v ↔ ∀ w ∈ h.inside v, h.Acyclic w := by
  refine ⟨fun acyclic w holds => acyclic.of_holds holds, fun each w reached circle => ?_⟩
  obtain rfl | ⟨u, first, rest⟩ := reached.cases_head
  · -- A way round starts with a step into the value, and comes to it again.
    obtain ⟨u, first, rest⟩ := TransGen.head'_iff.mp circle
    exact each u first v rest circle
  · exact each u first w rest circle

/-! ## Induction -/

open Classical in
/-- The containers on a heap that are somewhere inside of a value. -/
noncomputable def below (h : Heap) (v : Value) : Finset Value :=
  h.containerValues.filter (TransGen h.Holds v)

theorem mem_below : w ∈ h.below v ↔ w ∈ h.containerValues ∧ TransGen h.Holds v w := by
  classical exact Finset.mem_filter

/-- There are fewer containers inside of a container than around it. -/
theorem below_ssubset (acyclic : h.Acyclic v) (holds : h.Holds v w)
    (container : w ∈ h.containerValues) : h.below w ⊂ h.below v := by
  have part : h.below w ⊆ h.below v := by
    intro u inside
    obtain ⟨cell, under⟩ := mem_below.mp inside
    exact mem_below.mpr ⟨cell, .head holds under⟩
  have more : w ∈ h.below v := mem_below.mpr ⟨container, .single holds⟩
  have not_itself : w ∉ h.below w := fun inside =>
    acyclic w (.single holds) (mem_below.mp inside).2
  exact Finset.ssubset_iff_of_subset part |>.mpr ⟨w, more, not_itself⟩

/-- What holds of a value if it holds of all values in it holds of the acyclic ones. -/
theorem Acyclic.induction {motive : Value → Prop}
    (step : ∀ v, (∀ w ∈ h.inside v, motive w) → motive v) (acyclic : h.Acyclic v) :
    motive v := by
  induction size : (h.below v).card using Nat.strong_induction_on generalizing v with
  | _ n smaller =>
    subst size
    refine step v fun w holds => ?_
    by_cases container : w ∈ h.containerValues
    · have fewer := Finset.card_lt_card (below_ssubset acyclic holds container)
      exact smaller _ fewer (acyclic.of_holds holds) rfl
    · refine step w ?_
      rw [h.inside_of_notMem container]
      exact fun _ none_ => absurd none_ List.not_mem_nil

/-! ## Display -/

theorem exists_quoted_iff {text : Value → Option String}
    (strings : ∀ s, text (.string s) = some s) :
    (∃ t, quoted text v = some t) ↔ ∃ t, text v = some t := by
  cases v with
  | string s => exact ⟨fun _ => ⟨s, strings s⟩, fun _ => ⟨_, rfl⟩⟩
  | number | boolean | null | function | array | object => rfl

theorem exists_propertyText_iff {text : Value → Option String} {p : String × Value} :
    (∃ t, propertyText text p = some t) ↔ ∃ t, quoted text p.2 = some t := by
  simp only [propertyText, Option.map_eq_some_iff]
  constructor
  · rintro ⟨-, t, found, -⟩
    exact ⟨t, found⟩
  · rintro ⟨t, found⟩
    exact ⟨_, t, found, rfl⟩

/-- A value has a text if and only if all that it holds has one, a level deeper. -/
theorem exists_displayWithin_iff (n : Nat) :
    (∃ t, h.displayWithin (n + 1) v = some t) ↔
      ∀ w ∈ h.inside v, ∃ t, h.displayWithin n w = some t := by
  have strings : ∀ s, h.displayWithin n (.string s) = some s := fun s => by cases n <;> rfl
  cases v with
  | array ref =>
    simp only [displayWithin_array, Option.map_eq_some_iff, inside]
    rw [exists_comm]
    simp only [exists_and_left, exists_eq', and_true, exists_mapM_iff, exists_quoted_iff strings]
  | object ref =>
    simp only [displayWithin_object, Option.map_eq_some_iff, inside, List.forall_mem_map]
    rw [exists_comm]
    simp only [exists_and_left, exists_eq', and_true, exists_mapM_iff, exists_propertyText_iff,
      exists_quoted_iff strings]
  | number | string | boolean | null | function =>
    exact ⟨fun _ _ none_ => absurd none_ List.not_mem_nil, fun _ => ⟨_, rfl⟩⟩

/-- By induction on the depth: what has a text holds only what has one. -/
theorem acyclic_of_displayWithin {n : Nat} : ∀ {v : Value} {t : String},
    h.displayWithin n v = some t → h.Acyclic v := by
  induction n with
  | zero =>
    intro v t found
    cases v with
    | array | object => cases found
    | number | string | boolean | null | function =>
      exact acyclic_iff.mpr fun _ none_ => absurd none_ List.not_mem_nil
  | succ n ih =>
    intro v t found
    refine acyclic_iff.mpr fun w holds => ?_
    obtain ⟨t', found'⟩ := (exists_displayWithin_iff n).mp ⟨t, found⟩ w holds
    exact ih found'

/-- The values that have a text are the acyclic ones. -/
theorem exists_display_iff : (∃ t, h.display v = some t) ↔ h.Acyclic v := by
  constructor
  · rintro ⟨t, found⟩
    exact acyclic_of_displayWithin found
  · intro acyclic
    refine acyclic.induction (motive := fun v => ∃ t, h.display v = some t) fun v each => ?_
    have deep : h.containers < h.containers + 2 := by omega
    rw [← h.displayWithin_eq_display deep v]
    exact (exists_displayWithin_iff _).mpr each

theorem display_eq_none_iff : h.display v = none ↔ ¬ h.Acyclic v := by
  rw [← exists_display_iff, ← Option.ne_none_iff_exists', not_not]

/-! ## Looking for an object -/

/-- A display goes down from values to what they hold. -/
theorem reached_of_comesToWithin {ref n : Nat} : ∀ {v : Value},
    h.comesToWithin ref n v = some true → ReflTransGen h.Holds v (.object ref) := by
  induction n with
  | zero => nofun
  | succ n ih =>
    intro v found
    rw [comesToWithin] at found
    split at found
    next same => exact same ▸ .refl
    next other =>
      obtain ⟨w, holds, inner⟩ := exists_of_anyM found
      exact .head holds (ih inner)

/-- A display comes only to objects that the value holds. -/
theorem comesTo_ne_of_apart {ref : Nat} (apart : ¬ ReflTransGen h.Holds v (.object ref)) :
    h.comesTo ref v ≠ some true :=
  fun found => apart (reached_of_comesToWithin found)

/-- A display that does not come to an object has gone through all that the value holds. -/
theorem apart_of_comesTo {ref : Nat} (nowhere : h.comesTo ref v = some false) :
    ¬ ReflTransGen h.Holds v (.object ref) := by
  intro reached
  induction reached using ReflTransGen.head_induction_on with
  | refl =>
    rw [comesTo_eq, if_pos rfl] at nowhere
    cases nowhere
  | head holds _ ih =>
    rw [comesTo_eq] at nowhere
    split at nowhere
    next => cases nowhere
    next => exact ih (anyM_eq_false_iff.mp nowhere _ holds)

/-- The display of an acyclic value comes to the objects that the value holds. -/
theorem Acyclic.comesTo_iff {ref : Nat} (acyclic : h.Acyclic v) :
    h.comesTo ref v = some true ↔ ReflTransGen h.Holds v (.object ref) := by
  obtain ⟨b, found⟩ : ∃ b, h.comesTo ref v = some b := by
    refine acyclic.induction (motive := fun v => ∃ b, h.comesTo ref v = some b) fun v each => ?_
    rw [comesTo_eq]
    split
    next => exact ⟨true, rfl⟩
    next => exact exists_anyM each
  refine ⟨reached_of_comesToWithin, fun reached => ?_⟩
  cases b with
  | true => exact found
  | false => exact absurd reached (apart_of_comesTo found)

/-! ## Keys of objects -/

variable {ref : Nat} {span : Span}

/-- An object is written to at the text of the key, unless the key holds the object. -/
theorem slot_of_apart (apart : ¬ ReflTransGen h.Holds v (.object ref)) {text : String}
    (shown : h.display v = some text) : h.slot (.object ref) v span = .ok (.property ref text) := by
  simp only [slot, comesTo_ne_of_apart apart, shown, if_false]

/-- The text of a key with a cycle comes to no end. -/
theorem slot_of_cyclic (apart : ¬ ReflTransGen h.Holds v (.object ref))
    (hidden : h.display v = none) : h.slot (.object ref) v span = .error .endless := by
  simp only [slot, comesTo_ne_of_apart apart, hidden, if_false]

/-- A key with a cycle is no key, whatever it holds. -/
theorem slot_of_not_acyclic (cyclic : ¬ h.Acyclic v) :
    h.slot (.object ref) v span = .error (.crash .borrowed) ∨
      h.slot (.object ref) v span = .error .endless := by
  simp only [slot, display_eq_none_iff.mpr cyclic]
  split
  next => exact .inl rfl
  next => exact .inr rfl

/-- A key that holds the object and has no cycle breaks the machine down. -/
theorem slot_of_reached (acyclic : h.Acyclic v) (reached : ReflTransGen h.Holds v (.object ref)) :
    h.slot (.object ref) v span = .error (.crash .borrowed) := by
  simp only [slot, acyclic.comesTo_iff.mpr reached, if_true]

end Heap

end Scriptlet
