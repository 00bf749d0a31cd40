import Mathlib.Data.Finset.Prod
import Mathlib.Data.Finset.Range
import Mathlib.Order.Monotone.Basic
import Scriptlet.Heap.Display
import Scriptlet.Heap.Equality

/-!
# How deep a heap has to be looked into

Displaying a value, looking for an object in what is displayed and comparing two
values go down into containers, at most to a given depth.  A greater depth gives
the same result or finds one where there was none.  The depths that are used are
deep enough: any greater depth gives the same (`Heap.displayWithin_eq_display`,
`Heap.comesToWithin_eq_comesTo`, `Heap.equalWithin_eq_equal`).

All three follow from one statement (`settles`).  As long as the depth matters, one
more level gives a result for one more key that is on the heap, and there are
only so many keys.  A reference without a cell counts as empty, so it matters
for the first level only.
-/

namespace Scriptlet

/-! ## Results by depth -/

section

variable {α β : Type}

/-- Results that stay once they are found, that do not change any more once a level changes
nothing, and that are settled at the first level outside of a finite set, are settled at the
level after the size of the set. -/
theorem settles_after_card [DecidableEq α] {f : Nat → α → Option β}
    (stays : ∀ {n a b}, f n a = some b → f (n + 1) a = some b)
    (still : ∀ {n}, f n = f (n + 1) → f (n + 1) = f (n + 2)) (keys : Finset α)
    (elsewhere : ∀ {a}, a ∉ keys → ∀ n, f (n + 1) a = f (n + 2) a) {n : Nat}
    (deep : keys.card < n) : f n = f (keys.card + 1) := by
  let found (n : Nat) : Finset α := keys.filter fun a => (f (n + 1) a).isSome
  have grows : ∀ n, found n ⊆ found (n + 1) := by
    intro n a inside
    obtain ⟨key, some_⟩ := Finset.mem_filter.mp inside
    obtain ⟨b, is_b⟩ := Option.isSome_iff_exists.mp some_
    exact Finset.mem_filter.mpr ⟨key, by rw [stays is_b]; rfl⟩
  -- If no key gets a result at a level, then nothing does.
  have full : ∀ n, (found n).card = (found (n + 1)).card → f (n + 1) = f (n + 2) := by
    intro n same
    have equal : found n = found (n + 1) := Finset.eq_of_subset_of_card_le (grows n) same.ge
    funext a
    by_cases key : a ∈ keys
    · cases before : f (n + 1) a with
      | some b => exact (stays before).symm
      | none =>
        have unfound : a ∉ found (n + 1) := by
          rw [← equal]
          simp [found, before]
        cases after : f (n + 2) a with
        | none => rfl
        | some b => exact absurd (Finset.mem_filter.mpr ⟨key, by rw [after]; rfl⟩) unfound
    · exact elsewhere key n
  have bounded : ∀ n, (found n).card ≤ keys.card := fun n => Finset.card_filter_le _ _
  have level : ∀ n, (found n).card = (found (n + 1)).card →
      (found (n + 1)).card = (found (n + 2)).card := by
    intro n same
    have next := still (full n same)
    simp only [found, next]
  have settled : ∀ n, keys.card ≤ n → (found n).card = (found keys.card).card := fun n =>
    Nat.stabilises_of_monotone
      (monotone_nat_of_le_succ fun n => Finset.card_le_card (grows n)) bounded level
  have first : f (keys.card + 1) = f (keys.card + 2) :=
    full _ (settled (keys.card + 1) (Nat.le_succ _)).symm
  induction n, deep using Nat.le_induction with
  | base => rfl
  | succ n deep ih =>
    have on : ∀ k, f (keys.card + 1 + k) = f (keys.card + 1 + k + 1) := by
      intro k
      induction k with
      | zero => exact first
      | succ k ih => exact still ih
    obtain ⟨k, rfl⟩ := Nat.exists_eq_add_of_le deep
    exact (on k).symm.trans ih

/-- The same with a bound on the size in place of the size. -/
theorem settles [DecidableEq α] {f : Nat → α → Option β}
    (stays : ∀ {n a b}, f n a = some b → f (n + 1) a = some b)
    (still : ∀ {n}, f n = f (n + 1) → f (n + 1) = f (n + 2)) {keys : Finset α}
    (elsewhere : ∀ {a}, a ∉ keys → ∀ n, f (n + 1) a = f (n + 2) a) {bound n : Nat}
    (few : keys.card ≤ bound) (deep : bound < n) : f n = f (bound + 1) := by
  have settled : ∀ {n}, bound < n → f n = f (keys.card + 1) := fun deep =>
    settles_after_card (f := f) stays still keys elsewhere (few.trans_lt deep)
  rw [settled deep, settled (Nat.lt_succ_self bound)]

/-- A list of results stays as its parts do. -/
theorem mapM_stays {f g : α → Option β} (stays : ∀ {a b}, f a = some b → g a = some b) :
    ∀ {as : List α} {bs : List β}, as.mapM f = some bs → as.mapM g = some bs
  | [], _, found => found
  | a :: as, bs, found => by
    simp only [List.mapM_cons, Option.bind_eq_bind, Option.bind_eq_some_iff] at found ⊢
    obtain ⟨b, first, rest, others, whole⟩ := found
    exact ⟨b, stays first, rest, mapM_stays stays others, whole⟩

/-- A search that ended stays as well, whatever it did not look at. -/
theorem anyM_stays {f g : α → Option Bool} (stays : ∀ {a b}, f a = some b → g a = some b) :
    ∀ {as : List α} {b : Bool}, as.anyM f = some b → as.anyM g = some b
  | [], _, found => found
  | a :: as, b, found => by
    simp only [List.anyM_cons, Option.bind_eq_bind, Option.bind_eq_some_iff] at found ⊢
    obtain ⟨here, first, rest⟩ := found
    refine ⟨here, stays first, ?_⟩
    cases here with
    | true => exact rest
    | false => exact anyM_stays stays rest

theorem equalLists_stays {eq eq' : α → α → Option Bool}
    (stays : ∀ {a b r}, eq a b = some r → eq' a b = some r) :
    ∀ {as bs : List α} {r : Bool}, equalLists eq as bs = some r → equalLists eq' as bs = some r
  | [], [], _, found | [], _ :: _, _, found | _ :: _, [], _, found => found
  | a :: as, b :: bs, r, found => by
    unfold equalLists at found ⊢
    cases first : eq a b with
    | none =>
      rw [first] at found
      cases found
    | some same =>
      rw [first] at found
      rw [stays first]
      cases same with
      | false => exact found
      | true => exact equalLists_stays stays found

end

namespace Heap

variable (h : Heap)

/-- The references to the containers on a heap. -/
def containerValues : Finset Value :=
  (Finset.range h.arrays.size).image .array ∪ (Finset.range h.objects.size).image .object

/-- Containers with contents are not more than containers. -/
theorem card_containerValues_le : h.containerValues.card ≤ h.containers := by
  refine (Finset.card_union_le _ _).trans (Nat.add_le_add ?_ ?_)
  · exact Finset.card_image_le.trans (Finset.card_range _).le
  · exact Finset.card_image_le.trans (Finset.card_range _).le

theorem elements_of_notMem {ref : Nat} (outside : Value.array ref ∉ h.containerValues) :
    h.elements ref = #[] := by
  have missing : ¬ ref < h.arrays.size := by simpa [containerValues] using outside
  simp [elements, missing]

theorem properties_of_notMem {ref : Nat} (outside : Value.object ref ∉ h.containerValues) :
    h.properties ref = [] := by
  have missing : ¬ ref < h.objects.size := by simpa [containerValues] using outside
  simp [properties, missing]

/-- There is nothing in a container that is not there. -/
theorem inside_of_notMem {v : Value} (outside : v ∉ h.containerValues) : h.inside v = [] := by
  cases v with
  | array ref => rw [inside, h.elements_of_notMem outside]
  | object ref => rw [inside, h.properties_of_notMem outside, List.map_nil]
  | number | string | boolean | null | function => rfl

/-! ## Display -/

/-- The text of a property, given those of values. -/
def propertyText (text : Value → Option String) (p : String × Value) : Option String :=
  (quoted text p.2).map fun t => p.1 ++ ": " ++ t

/-- The text of an array is made of the texts of its elements. -/
theorem displayWithin_array (depth ref : Nat) :
    h.displayWithin (depth + 1) (.array ref) =
      ((h.elements ref).toList.mapM (quoted (h.displayWithin depth))).map fun texts =>
        "[" ++ ", ".intercalate texts ++ "]" := by
  rw [displayWithin, Option.map_eq_bind]
  rfl

theorem displayWithin_object (depth ref : Nat) :
    h.displayWithin (depth + 1) (.object ref) =
      ((h.properties ref).mapM (propertyText (h.displayWithin depth))).map fun texts =>
        "\x7b" ++ ", ".intercalate texts ++ "\x7d" := by
  have same : propertyText (h.displayWithin depth) = fun p =>
      (quoted (h.displayWithin depth) p.2).bind fun t => some (p.1 ++ ": " ++ t) := by
    funext p
    rw [propertyText, Option.map_eq_bind]
    rfl
  rw [displayWithin, same, Option.map_eq_bind]
  rfl

/-- A text that was found stays the same with more depth. -/
theorem displayWithin_stays {n : Nat} : ∀ {v : Value} {text : String},
    h.displayWithin n v = some text → h.displayWithin (n + 1) v = some text := by
  induction n with
  | zero =>
    intro v text found
    cases v with
    | array | object => cases found
    | number | string | boolean | null | function => exact found
  | succ n ih =>
    have element : ∀ {v : Value} {text : String},
        quoted (h.displayWithin n) v = some text →
        quoted (h.displayWithin (n + 1)) v = some text := by
      intro v text found
      cases v with
      | string => exact found
      | number | boolean | null | function | array | object => exact ih found
    intro v text found
    cases v with
    | array ref =>
      rw [displayWithin_array, Option.map_eq_some_iff] at found ⊢
      obtain ⟨texts, inner, whole⟩ := found
      exact ⟨texts, mapM_stays element inner, whole⟩
    | object ref =>
      rw [displayWithin_object, Option.map_eq_some_iff] at found ⊢
      obtain ⟨texts, inner, whole⟩ := found
      refine ⟨texts, mapM_stays ?_ inner, whole⟩
      intro p text found
      rw [propertyText, Option.map_eq_some_iff] at found ⊢
      obtain ⟨text', inner, whole⟩ := found
      exact ⟨text', element inner, whole⟩
    | number | string | boolean | null | function => exact found

/-- If one more level gives no more texts, the next one does not either. -/
theorem displayWithin_still {n : Nat} (same : h.displayWithin n = h.displayWithin (n + 1)) :
    h.displayWithin (n + 1) = h.displayWithin (n + 2) := by
  funext v
  cases v with
  | array ref => rw [displayWithin_array, displayWithin_array, same]
  | object ref => rw [displayWithin_object, displayWithin_object, same]
  | number | string | boolean | null | function => rfl

/-- Any depth that is greater than the number of containers shows the whole value. -/
theorem displayWithin_eq_display {n : Nat} (deep : h.containers < n) (v : Value) :
    h.displayWithin n v = h.display v := by
  have elsewhere : ∀ {v : Value}, v ∉ h.containerValues → ∀ n,
      h.displayWithin (n + 1) v = h.displayWithin (n + 2) v := by
    intro v outside n
    cases v with
    | array ref =>
      rw [displayWithin_array, displayWithin_array, h.elements_of_notMem outside]
      rfl
    | object ref =>
      rw [displayWithin_object, displayWithin_object, h.properties_of_notMem outside]
      rfl
    | number | string | boolean | null | function => rfl
  exact congrFun (settles (f := h.displayWithin) h.displayWithin_stays h.displayWithin_still
    elsewhere h.card_containerValues_le deep) v

/-! ## Looking for an object -/

/-- What a search for an object came to stays the same with more depth. -/
theorem comesToWithin_stays {ref n : Nat} : ∀ {v : Value} {b : Bool},
    h.comesToWithin ref n v = some b → h.comesToWithin ref (n + 1) v = some b := by
  induction n with
  | zero => nofun
  | succ n ih =>
    intro v b found
    rw [comesToWithin] at found ⊢
    split at found
    next same => rwa [if_pos same]
    next other =>
      rw [if_neg other]
      exact anyM_stays ih found

/-- If one more level ends no more searches, the next one does not either. -/
theorem comesToWithin_still {ref n : Nat}
    (same : h.comesToWithin ref n = h.comesToWithin ref (n + 1)) :
    h.comesToWithin ref (n + 1) = h.comesToWithin ref (n + 2) := by
  funext v
  rw [comesToWithin, comesToWithin, same]

/-- Any depth that is greater than the number of containers finds the same. -/
theorem comesToWithin_eq_comesTo {ref n : Nat} (deep : h.containers < n) (v : Value) :
    h.comesToWithin ref n v = h.comesTo ref v := by
  have elsewhere : ∀ {v : Value}, v ∉ h.containerValues → ∀ n,
      h.comesToWithin ref (n + 1) v = h.comesToWithin ref (n + 2) v := by
    intro v outside n
    rw [comesToWithin, comesToWithin, h.inside_of_notMem outside, List.anyM_nil, List.anyM_nil]
  exact congrFun (settles (f := h.comesToWithin ref) h.comesToWithin_stays h.comesToWithin_still
    elsewhere h.card_containerValues_le deep) v

/-- A display comes to an object at once, or in something that the value holds. -/
theorem comesTo_eq (ref : Nat) (v : Value) : h.comesTo ref v =
    if v = .object ref then some true else (h.inside v).anyM (h.comesTo ref) := by
  have deep : h.containers < h.containers + 2 := by omega
  rw [← h.comesToWithin_eq_comesTo deep, comesToWithin]
  rfl

/-! ## Equality -/

/-- How two containers of the same sort compare, given how their contents do. -/
def compareContents {α : Type} (same : Prop) [Decidable same] (as bs : List α)
    (contents : Option Bool) : Option Bool :=
  if same then some true else if as.length ≠ bs.length then some false else contents

/-- How two properties compare, given how values do. -/
def equalProperties (eq : Value → Value → Option Bool) (p q : String × Value) : Option Bool :=
  if p.1 = q.1 then eq p.2 q.2 else some false

theorem equalWithin_arrays (depth a b : Nat) :
    h.equalWithin (depth + 1) (.array a) (.array b) =
      compareContents (a = b) (h.elements a).toList (h.elements b).toList
        (equalLists (h.equalWithin depth) (h.elements a).toList (h.elements b).toList) := rfl

theorem equalWithin_objects (depth a b : Nat) :
    h.equalWithin (depth + 1) (.object a) (.object b) =
      compareContents (a = b) (h.properties a) (h.properties b)
        (equalLists (equalProperties (h.equalWithin depth)) (h.properties a)
          (h.properties b)) := rfl

/-- The depth matters for two arrays and for two objects only. -/
theorem equalWithin_of_shallow (a b : Value) :
    (∃ i j, a = .array i ∧ b = .array j) ∨ (∃ i j, a = .object i ∧ b = .object j) ∨
      ∀ n m, h.equalWithin n a b = h.equalWithin m a b := by
  cases a with
  | array i =>
    cases b with
    | array j => exact .inl ⟨i, j, rfl, rfl⟩
    | _ => exact .inr (.inr fun n m => by cases n <;> cases m <;> rfl)
  | object i =>
    cases b with
    | object j => exact .inr (.inl ⟨i, j, rfl, rfl⟩)
    | _ => exact .inr (.inr fun n m => by cases n <;> cases m <;> rfl)
  | _ =>
    refine .inr (.inr fun n m => ?_)
    cases b <;> cases n <;> cases m <;> rfl

theorem compareContents_stays {α : Type} {same : Prop} [Decidable same] {as bs : List α}
    {contents contents' : Option Bool} (stays : ∀ {r}, contents = some r → contents' = some r)
    {r : Bool} (found : compareContents same as bs contents = some r) :
    compareContents same as bs contents' = some r := by
  unfold compareContents at found ⊢
  split at found
  next equal => rwa [if_pos equal]
  next unequal =>
    rw [if_neg unequal]
    split at found
    next sizes => rwa [if_pos sizes]
    next sizes =>
      rw [if_neg sizes]
      exact stays found

/-- A comparison that ended stays the same with more depth. -/
theorem equalWithin_stays {n : Nat} : ∀ {a b : Value} {r : Bool},
    h.equalWithin n a b = some r → h.equalWithin (n + 1) a b = some r := by
  induction n with
  | zero =>
    intro a b r found
    obtain ⟨i, j, rfl, rfl⟩ | ⟨i, j, rfl, rfl⟩ | shallow := h.equalWithin_of_shallow a b
    · exact compareContents_stays (fun none_ => by cases none_) found
    · exact compareContents_stays (fun none_ => by cases none_) found
    · rwa [shallow 1 0]
  | succ n ih =>
    have property : ∀ {p q : String × Value} {r : Bool},
        equalProperties (h.equalWithin n) p q = some r →
        equalProperties (h.equalWithin (n + 1)) p q = some r := by
      intro p q r found
      unfold equalProperties at found ⊢
      split at found
      next names => rw [if_pos names]; exact ih found
      next names => rwa [if_neg names]
    intro a b r found
    obtain ⟨i, j, rfl, rfl⟩ | ⟨i, j, rfl, rfl⟩ | shallow := h.equalWithin_of_shallow a b
    · exact compareContents_stays (equalLists_stays ih) found
    · exact compareContents_stays (equalLists_stays property) found
    · rwa [shallow (n + 2) (n + 1)]

/-- If one more level ends no more comparisons, the next one does not either. -/
theorem equalWithin_still {n : Nat} (same : h.equalWithin n = h.equalWithin (n + 1)) :
    h.equalWithin (n + 1) = h.equalWithin (n + 2) := by
  funext a b
  obtain ⟨i, j, rfl, rfl⟩ | ⟨i, j, rfl, rfl⟩ | shallow := h.equalWithin_of_shallow a b
  · rw [equalWithin_arrays, equalWithin_arrays, same]
  · rw [equalWithin_objects, equalWithin_objects, same]
  · exact shallow _ _

/-- The comparison of an empty list needs no comparison of elements. -/
theorem compareContents_of_nil {α : Type} {same : Prop} [Decidable same] {as bs : List α}
    (empty : as = [] ∨ bs = []) (eq eq' : α → α → Option Bool) :
    compareContents same as bs (equalLists eq as bs) =
      compareContents same as bs (equalLists eq' as bs) := by
  unfold compareContents
  cases empty with
  | inl empty => cases bs <;> simp [empty, equalLists]
  | inr empty => cases as <;> simp [empty, equalLists]

/-- Any depth that is greater than the number of pairs of containers compares the whole
values. -/
theorem equalWithin_eq_equal {n : Nat} (deep : h.containers * h.containers < n) (a b : Value) :
    h.equalWithin n a b = h.equal a b := by
  have elsewhere : ∀ {p : Value × Value}, p ∉ h.containerValues ×ˢ h.containerValues →
      ∀ n, h.equalWithin (n + 1) p.1 p.2 = h.equalWithin (n + 2) p.1 p.2 := by
    rintro ⟨a, b⟩ outside n
    have missing : a ∉ h.containerValues ∨ b ∉ h.containerValues := by
      rw [← not_and_or]
      exact fun both => outside (Finset.mem_product.mpr both)
    obtain ⟨i, j, rfl, rfl⟩ | ⟨i, j, rfl, rfl⟩ | shallow := h.equalWithin_of_shallow a b
    · refine compareContents_of_nil (missing.imp ?_ ?_) _ _
      · exact fun outside => by rw [h.elements_of_notMem outside]
      · exact fun outside => by rw [h.elements_of_notMem outside]
    · exact compareContents_of_nil
        (missing.imp h.properties_of_notMem h.properties_of_notMem) _ _
    · exact shallow _ _
  let compare (n : Nat) (p : Value × Value) : Option Bool := h.equalWithin n p.1 p.2
  have still : ∀ {n}, compare n = compare (n + 1) → compare (n + 1) = compare (n + 2) := by
    intro n same
    have next := h.equalWithin_still (funext fun a => funext fun b => congrFun same (a, b))
    exact funext fun p => congrFun (congrFun next p.1) p.2
  have few : (h.containerValues ×ˢ h.containerValues).card ≤ h.containers * h.containers := by
    rw [Finset.card_product]
    exact Nat.mul_le_mul h.card_containerValues_le h.card_containerValues_le
  exact congrFun (settles (f := compare) h.equalWithin_stays still elsewhere few deep) (a, b)

end Heap

end Scriptlet
