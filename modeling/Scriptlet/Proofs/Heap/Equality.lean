import Scriptlet.Eval.Evaluate
import Scriptlet.Proofs.Heap.Acyclic
import Scriptlet.Proofs.Heap.Reading

/-!
# Equality as a relation

Two values are equal if the comparison says so (`Heap.Equals`).  It says so of a container
and itself without looking inside, so a container with a number in it that is no number equals
itself.  It does not equal a copy.

On values without cycles the comparison always ends, and equality is symmetric and transitive.
All goes by induction on one of the values: two containers are equal if they are the same or
if what they hold is equal, piece by piece (`Heap.equals_array_iff`,
`Heap.equals_object_iff`), so the case of two references has to be kept apart from that of
two contents in each proof.

Values that are equal have the same text, which follows the same contents.  So nothing that goes
by the text of a value can tell them apart, and neither can truth and types
(`equality_is_seamless`).
-/

namespace Scriptlet

open Relation

/-! ## Numbers -/

namespace Number

variable {x y : Number}

/-- Equal numbers are the same up to the sign of zero. -/
theorem magnitude_eq_of_eq (same : x.eq y = true) :
    x.magnitude = y.magnitude ∧ (x.magnitude = 0 ∨ x.isNegative = y.isNegative) := by
  have keys : x.key = y.key := by
    rw [eq, Bool.and_eq_true] at same
    exact of_decide_eq_true same.2
  unfold key at keys
  rcases left : x.isNegative <;> rcases right : y.isNegative <;>
    simp only [left, right, if_true, Bool.false_eq_true, if_false] at keys
  · exact ⟨by omega, .inr rfl⟩
  · exact ⟨by omega, .inl (by omega)⟩
  · exact ⟨by omega, .inl (by omega)⟩
  · exact ⟨by omega, .inr rfl⟩

theorem isNaN_eq_of_eq (same : x.eq y = true) : x.isNaN = y.isNaN := by
  rw [isNaN, isNaN, (magnitude_eq_of_eq same).1]

/-- The two zeros are equal to each other and to nothing else. -/
theorem isZero_eq_of_eq (same : x.eq y = true) : x.isZero = y.isZero := by
  rw [isZero, isZero, (magnitude_eq_of_eq same).1]

/-- Equal numbers have the same text. -/
theorem text_eq_of_eq (same : x.eq y = true) : x.text = y.text := by
  obtain ⟨magnitude, sign⟩ := magnitude_eq_of_eq same
  have signs : (x.isNegative && !x.isZero) = (y.isNegative && !y.isZero) := by
    rw [← isZero_eq_of_eq same]
    rcases sign with zero | sign
    · have is_zero : x.isZero = true := decide_eq_true zero
      simp [is_zero]
    · rw [sign]
  have infinite : x.isInfinite = y.isInfinite := by rw [isInfinite, isInfinite, magnitude]
  rw [text, text, chars, chars, isNaN_eq_of_eq same, infinite, signs, magnitude]

/-- The order of numbers makes equality transitive. -/
theorem eq_trans {z : Number} (first : x.eq y = true) (second : y.eq z = true) :
    x.eq z = true := by
  simp only [eq, Bool.and_eq_true, decide_eq_true_eq] at first second ⊢
  exact ⟨⟨first.1.1, second.1.2⟩, first.2.trans second.2⟩

/-- A number equals itself unless it is no number. -/
theorem eq_self (x : Number) : x.eq x = !x.isNaN := by simp [eq]

end Number

/-! ## Lists -/

section

variable {α : Type} {eq : α → α → Option Bool}

/-- Lists are equal if they are at each place. -/
theorem equalLists_eq_true_iff : ∀ {as bs : List α},
    equalLists eq as bs = some true ↔ List.Forall₂ (fun a b => eq a b = some true) as bs
  | [], [] => by simp [equalLists]
  | [], _ :: _ | _ :: _, [] => by simp [equalLists]
  | a :: as, b :: bs => by
    rw [equalLists, List.forall₂_cons, ← equalLists_eq_true_iff]
    rcases eq a b with _ | _ | _ <;> simp

/-- The comparison of two lists ends if those of their elements end. -/
theorem exists_equalLists {as : List α} : (∀ a ∈ as, ∀ b, ∃ r, eq a b = some r) →
    ∀ bs, ∃ r, equalLists eq as bs = some r := by
  intro ends
  induction as with
  | nil =>
    rintro (_ | ⟨b, bs⟩)
    · exact ⟨true, rfl⟩
    · exact ⟨false, rfl⟩
  | cons a as ih =>
    rintro (_ | ⟨b, bs⟩)
    · exact ⟨false, rfl⟩
    · obtain ⟨r, first⟩ := ends a (.head _) b
      rw [equalLists, first]
      cases r with
      | false => exact ⟨false, rfl⟩
      | true => exact ih (fun a inside => ends a (.tail _ inside)) bs

end

section

variable {α β γ : Type} {R S : α → β → Prop} {T : β → γ → Prop} {U : α → γ → Prop}

/-- A relation between lists goes over to another one that follows for the elements of the first. -/
theorem forall₂_of_mem {as : List α} {bs : List β}
    (follows : ∀ a ∈ as, ∀ b, R a b → S a b) (each : List.Forall₂ R as bs) :
    List.Forall₂ S as bs :=
  ((List.forall₂_and_left (p := (· ∈ as)) as bs).mpr ⟨fun _ inside => inside, each⟩).imp
    fun a b related => follows a related.1 b related.2

/-- Relations between lists in a row, composed for the elements of the first one. -/
theorem forall₂_comp_of_mem {as : List α} {bs : List β} {cs : List γ}
    (follows : ∀ a ∈ as, ∀ b c, R a b → T b c → U a c) (first : List.Forall₂ R as bs)
    (second : List.Forall₂ T bs cs) : List.Forall₂ U as cs := by
  induction first generalizing cs with
  | nil =>
    cases second
    exact .nil
  | cons here _ ih =>
    cases second with
    | cons here' others =>
      refine .cons (follows _ (.head _) _ _ here here') (ih ?_ others)
      exact fun a inside => follows a (.tail _ inside)

end

/-- Two properties of the same name with values that are related. -/
def SameProperty (R : Value → Value → Prop) (p q : String × Value) : Prop :=
  p.1 = q.1 ∧ R p.2 q.2

namespace Heap

/-- Containers of one length are equal if they are the same or their contents are equal. -/
theorem compareContents_eq_true_iff {α : Type} {same : Prop} [Decidable same] {as bs : List α}
    {contents : Option Bool} (lengths : contents = some true → as.length = bs.length) :
    compareContents same as bs contents = some true ↔ same ∨ contents = some true := by
  unfold compareContents
  by_cases equal : same
  · simp [equal]
  · by_cases sizes : as.length = bs.length
    · simp [equal, sizes]
    · simp only [equal, sizes, if_false, ne_eq, not_false_iff, if_true, false_or]
      exact iff_of_false (by simp) fun found => sizes (lengths found)

theorem exists_compareContents {α : Type} {same : Prop} [Decidable same] {as bs : List α}
    {contents : Option Bool} (ends : ∃ r, contents = some r) :
    ∃ r, compareContents same as bs contents = some r := by
  unfold compareContents
  split
  · exact ⟨true, rfl⟩
  · split
    · exact ⟨false, rfl⟩
    · exact ends

variable (h : Heap)

/-! ## One level -/

/-- Two values are equal: the comparison ends and finds no difference. -/
def Equals (a b : Value) : Prop := h.equal a b = some true

/-- One level of comparing two values by what they are and hold, given how what they hold is to be
related.  Which containers they are does not matter. -/
inductive Matches (R : Value → Value → Prop) : Value → Value → Prop
  | number {x y : Number} : x.eq y = true → Matches R (.number x) (.number y)
  | string (s : String) : Matches R (.string s) (.string s)
  | boolean (b : Bool) : Matches R (.boolean b) (.boolean b)
  | null : Matches R .null .null
  | function (ref : Nat) : Matches R (.function ref) (.function ref)
  | array {i j : Nat} : List.Forall₂ R (h.elements i).toList (h.elements j).toList →
    Matches R (.array i) (.array j)
  | object {i j : Nat} : List.Forall₂ (SameProperty R) (h.properties i) (h.properties j) →
    Matches R (.object i) (.object j)

/-- Comparing takes one level less for what containers hold, which does not matter. -/
theorem equal_eq_equalWithin (a b : Value) :
    h.equal a b = h.equalWithin (h.containers * h.containers + 2) a b :=
  (h.equalWithin_eq_equal (by omega) a b).symm

/-- One level of the comparison of two arrays. -/
theorem equal_arrays (i j : Nat) : h.equal (.array i) (.array j) =
    compareContents (i = j) (h.elements i).toList (h.elements j).toList
      (equalLists h.equal (h.elements i).toList (h.elements j).toList) := by
  rw [equal_eq_equalWithin, equalWithin_arrays]
  rfl

theorem equal_objects (i j : Nat) : h.equal (.object i) (.object j) =
    compareContents (i = j) (h.properties i) (h.properties j)
      (equalLists (equalProperties h.equal) (h.properties i) (h.properties j)) := by
  rw [equal_eq_equalWithin, equalWithin_objects]
  rfl

variable {h} {a b c : Value}

/-- Two arrays are equal if they are the same or hold equal elements. -/
theorem equals_array_iff {i j : Nat} : h.Equals (.array i) (.array j) ↔
    i = j ∨ List.Forall₂ h.Equals (h.elements i).toList (h.elements j).toList := by
  rw [Equals, equal_arrays, compareContents_eq_true_iff, equalLists_eq_true_iff]
  · rfl
  · exact fun same => (equalLists_eq_true_iff.mp same).length_eq

/-- Two objects are equal if they are the same or have equal properties. -/
theorem equals_object_iff {i j : Nat} : h.Equals (.object i) (.object j) ↔
    i = j ∨ List.Forall₂ (SameProperty h.Equals) (h.properties i) (h.properties j) := by
  have one (p q : String × Value) :
      equalProperties h.equal p q = some true ↔ SameProperty h.Equals p q := by
    unfold equalProperties SameProperty Equals
    split <;> simp_all
  rw [Equals, equal_objects, compareContents_eq_true_iff, equalLists_eq_true_iff]
  · simp only [one]
  · exact fun same => (equalLists_eq_true_iff.mp same).length_eq

/-- Values that match with equality inside are equal. -/
theorem equals_of_matches (matching : h.Matches h.Equals a b) : h.Equals a b := by
  cases matching with
  | number same => exact congrArg some same
  | string | boolean | function => exact congrArg some (decide_eq_true rfl)
  | null => rfl
  | array each => exact equals_array_iff.mpr (.inr each)
  | object each => exact equals_object_iff.mpr (.inr each)

/-- Equal values match with equality inside, unless they are the same container. -/
theorem Equals.matches (equal : h.Equals a b) :
    ((a.tag = .array ∨ a.tag = .object) ∧ a = b) ∨ h.Matches h.Equals a b := by
  cases a with
  | array i =>
    cases b with
    | array j =>
      exact (equals_array_iff.mp equal).imp (fun same => ⟨.inl rfl, congrArg _ same⟩) .array
    | number | string | boolean | null | object | function => cases equal
  | object i =>
    cases b with
    | object j =>
      exact (equals_object_iff.mp equal).imp (fun same => ⟨.inr rfl, congrArg _ same⟩) .object
    | number | string | boolean | null | array | function => cases equal
  | number x =>
    cases b with
    | number y => exact .inr (.number (Option.some.inj equal))
    | string | boolean | null | array | object | function => cases equal
  | string x =>
    cases b with
    | string y =>
      obtain rfl := of_decide_eq_true (Option.some.inj equal)
      exact .inr (.string x)
    | number | boolean | null | array | object | function => cases equal
  | boolean x =>
    cases b with
    | boolean y =>
      obtain rfl := of_decide_eq_true (Option.some.inj equal)
      exact .inr (.boolean x)
    | number | string | null | array | object | function => cases equal
  | null =>
    cases b with
    | null => exact .inr .null
    | number | string | boolean | array | object | function => cases equal
  | function x =>
    cases b with
    | function y =>
      obtain rfl := of_decide_eq_true (Option.some.inj equal)
      exact .inr (.function x)
    | number | string | boolean | null | array | object => cases equal

/-! ## Matching -/

namespace Matches

variable {R S : Value → Value → Prop}

/-- The relation between what the values hold may be replaced by one that follows from it. -/
theorem of_inside (follows : ∀ v ∈ h.inside a, ∀ w, R v w → S v w) (matching : h.Matches R a b) :
    h.Matches S a b := by
  cases matching with
  | number same => exact .number same
  | string s => exact .string s
  | boolean x => exact .boolean x
  | null => exact .null
  | function ref => exact .function ref
  | array each => exact .array (forall₂_of_mem follows each)
  | object each =>
    refine .object (forall₂_of_mem (fun p inside q related => ?_) each)
    exact ⟨related.1, follows p.2 (List.mem_map_of_mem inside) q.2 related.2⟩

/-- What matches can be turned around. -/
theorem symm (matching : h.Matches R a b) : h.Matches (flip R) b a := by
  cases matching with
  | number same => exact .number ((Number.eq_comm _ _).trans same)
  | string s => exact .string s
  | boolean x => exact .boolean x
  | null => exact .null
  | function ref => exact .function ref
  | array each => exact .array each.flip
  | object each => exact .object (each.flip.imp fun _ _ related => ⟨related.1.symm, related.2⟩)

/-- What matches can be followed through, where what it is made of can. -/
theorem trans (follows : ∀ v ∈ h.inside a, ∀ w u, R v w → R w u → R v u)
    (first : h.Matches R a b) (second : h.Matches R b c) : h.Matches R a c := by
  cases first with
  | number same =>
    cases second with
    | number same' => exact .number (Number.eq_trans same same')
  | string => exact second
  | boolean => exact second
  | null => exact second
  | function => exact second
  | array each =>
    cases second with
    | array each' => exact .array (forall₂_comp_of_mem follows each each')
  | object each =>
    cases second with
    | object each' =>
      refine .object (forall₂_comp_of_mem (fun p inside q r related related' => ?_) each each')
      exact ⟨related.1.trans related'.1,
        follows p.2 (List.mem_map_of_mem inside) q.2 r.2 related.2 related'.2⟩

/-- A container matches with itself if what it holds is related to itself. -/
theorem self (container : a.tag = .array ∨ a.tag = .object) (each : ∀ v ∈ h.inside a, R v v) :
    h.Matches R a a := by
  cases a with
  | array ref => exact .array (List.forall₂_same.mpr each)
  | object ref =>
    refine .object (List.forall₂_same.mpr fun p inside => ⟨rfl, ?_⟩)
    exact each p.2 (List.mem_map_of_mem inside)
  | number | string | boolean | null | function => simp [Value.tag] at container

/-- Values that match are of the same kind. -/
theorem tag_eq (matching : h.Matches R a b) : a.tag = b.tag := by
  cases matching <;> rfl

end Matches

/-! ## The laws of equality -/

/-- A value equals itself unless it is the number that is no number. -/
theorem equals_self_iff : h.Equals a a ↔ ∀ n, a = .number n → n.isNaN = false := by
  cases a with
  | number n =>
    have compared : h.equal (.number n) (.number n) = some (!n.isNaN) :=
      congrArg some n.eq_self
    simp [Equals, compared]
  | array ref => exact iff_of_true (equals_array_iff.mpr (.inl rfl)) nofun
  | object ref => exact iff_of_true (equals_object_iff.mpr (.inl rfl)) nofun
  | string s => exact iff_of_true (equals_of_matches (.string s)) nofun
  | boolean x => exact iff_of_true (equals_of_matches (.boolean x)) nofun
  | null => exact iff_of_true (equals_of_matches .null) nofun
  | function ref => exact iff_of_true (equals_of_matches (.function ref)) nofun

/-- By induction on what the left value holds.  What is inside of it is equal the other way round. -/
theorem Equals.symm (acyclic : h.Acyclic a) (equal : h.Equals a b) : h.Equals b a := by
  refine acyclic.induction (motive := fun a => ∀ b, h.Equals a b → h.Equals b a) ?_ b equal
  intro a ih b equal
  rcases equal.matches with ⟨-, rfl⟩ | matching
  · exact equal
  · exact equals_of_matches (matching.of_inside (S := flip h.Equals) ih).symm

/-- By induction on what the left value holds, again. -/
theorem Equals.trans (acyclic : h.Acyclic a) (first : h.Equals a b) (second : h.Equals b c) :
    h.Equals a c := by
  refine acyclic.induction
    (motive := fun a => ∀ b c, h.Equals a b → h.Equals b c → h.Equals a c) ?_ b c first second
  intro a ih b c first second
  rcases first.matches with ⟨-, rfl⟩ | matching
  · exact second
  rcases second.matches with ⟨-, rfl⟩ | matching'
  · exact first
  · exact equals_of_matches (matching.trans ih matching')

/-- The comparison of a value without cycles comes to an end. -/
theorem Acyclic.exists_equal (acyclic : h.Acyclic a) (b : Value) : ∃ r, h.equal a b = some r := by
  refine acyclic.induction (motive := fun a => ∀ b, ∃ r, h.equal a b = some r) ?_ b
  intro a ih b
  cases a with
  | array i =>
    cases b with
    | array j =>
      rw [equal_arrays]
      exact exists_compareContents (exists_equalLists ih _)
    | number | string | boolean | null | object | function => exact ⟨false, rfl⟩
  | object i =>
    cases b with
    | object j =>
      rw [equal_objects]
      refine exists_compareContents (exists_equalLists (fun p inside q => ?_) _)
      unfold equalProperties
      split
      · exact ih p.2 (List.mem_map_of_mem inside) q.2
      · exact ⟨false, rfl⟩
    | number | string | boolean | null | array | function => exact ⟨false, rfl⟩
  | number | string | boolean | null | function => cases b <;> exact ⟨_, rfl⟩

/-- Equality does not depend on the order, also where it does not hold. -/
theorem Acyclic.equal_comm (left : h.Acyclic a) (right : h.Acyclic b) :
    h.equal a b = h.equal b a := by
  obtain ⟨r, found⟩ := left.exists_equal b
  obtain ⟨r', found'⟩ := right.exists_equal a
  have forth : r = true → r' = true := by
    rintro rfl
    exact Option.some.inj (found'.symm.trans (Equals.symm left found))
  have back : r' = true → r = true := by
    rintro rfl
    exact Option.some.inj (found.symm.trans (Equals.symm right found'))
  rw [found, found', Bool.eq_iff_iff.mpr ⟨forth, back⟩]

/-! ## Comparing contents alone -/

/-- Two values have the same structure: the least relation that holds of values that match with
it inside.  It never asks whether two containers are the same one. -/
def SameStructure (h : Heap) (a b : Value) : Prop :=
  ∀ R : Value → Value → Prop, (∀ v w, h.Matches R v w → R v w) → R a b

/-- Values have the same structure just if they match with the same structure inside. -/
theorem sameStructure_iff : h.SameStructure a b ↔ h.Matches h.SameStructure a b := by
  have step : ∀ {v w}, h.Matches h.SameStructure v w → h.SameStructure v w :=
    fun {v w} matching R closed => closed v w (matching.of_inside fun _ _ _ same => same R closed)
  refine ⟨fun same => ?_, step⟩
  exact same (h.Matches h.SameStructure) fun v w matching =>
    matching.of_inside fun _ _ _ inner => step inner

/-- The relation that says so is turned around with it. -/
theorem SameStructure.symm (same : h.SameStructure a b) : h.SameStructure b a :=
  fun R closed => same (flip R) fun v w matching => closed w v matching.symm

/-- Values of the same structure are equal. -/
theorem SameStructure.equals (same : h.SameStructure a b) : h.Equals a b :=
  same h.Equals fun _ _ => equals_of_matches

/-- What is no number is nowhere inside of a value. -/
def Numeric (h : Heap) (v : Value) : Prop :=
  ∀ n, TransGen h.Holds v (.number n) → n.isNaN = false

/-- What is held by a value without NaN is one. -/
theorem Numeric.of_holds {v w : Value} (numeric : h.Numeric v) (holds : h.Holds v w) :
    h.Numeric w :=
  fun n reached => numeric n (.head holds reached)

/-- Equal values have the same structure, if all numbers inside of the first are numbers. -/
theorem Equals.sameStructure (acyclic : h.Acyclic a) (numeric : h.Numeric a)
    (equal : h.Equals a b) : h.SameStructure a b := by
  intro R closed
  refine acyclic.induction
    (motive := fun a => h.Numeric a → ∀ b, h.Equals a b → R a b) ?_ numeric b equal
  intro a ih numeric b equal
  have inside : ∀ v ∈ h.inside a, ∀ w, h.Equals v w → R v w :=
    fun v holds => ih v holds (numeric.of_holds holds)
  rcases equal.matches with ⟨container, rfl⟩ | matching
  · -- The comparison takes a container for itself, and the structure has to be gone through.
    refine closed a a (.self container fun v holds => inside v holds v ?_)
    refine equals_self_iff.mpr ?_
    rintro n rfl
    exact numeric n (.single holds)
  · exact closed a b (matching.of_inside inside)

/-- Where one of two values without cycles holds numbers only that are numbers, comparing contents
alone comes to the same as comparing. -/
theorem equal_iff_sameStructure (left : h.Acyclic a) (right : h.Acyclic b)
    (numeric : h.Numeric a ∨ h.Numeric b) :
    (h.equal a b = some true ↔ h.SameStructure a b) ∧
      (h.equal a b = some false ↔ ¬ h.SameStructure a b) := by
  have whole : h.equal a b = some true ↔ h.SameStructure a b := by
    refine ⟨fun equal => ?_, SameStructure.equals⟩
    rcases numeric with numeric | numeric
    · exact Equals.sameStructure left numeric equal
    · exact (Equals.sameStructure right numeric (Equals.symm left equal)).symm
  refine ⟨whole, ?_⟩
  obtain ⟨r, found⟩ := left.exists_equal b
  rw [← whole, found]
  cases r <;> simp

/-! ## What equal values share -/

/-- The text of an array, from those of its elements. -/
theorem display_array (ref : Nat) : h.display (.array ref) =
    ((h.elements ref).toList.mapM (quoted h.display)).map fun texts =>
      "[" ++ ", ".intercalate texts ++ "]" := by
  have deep : h.containers < h.containers + 2 := by omega
  rw [← h.displayWithin_eq_display deep, displayWithin_array]
  rfl

/-- The text of an object, from those of its properties. -/
theorem display_object (ref : Nat) : h.display (.object ref) =
    ((h.properties ref).mapM (propertyText h.display)).map fun texts =>
      "\x7b" ++ ", ".intercalate texts ++ "\x7d" := by
  have deep : h.containers < h.containers + 2 := by omega
  rw [← h.displayWithin_eq_display deep, displayWithin_object]
  rfl

/-- Values that match in their texts have the same text, and so they have inside of a container. -/
theorem Matches.display_eq
    (matching : h.Matches (fun v w => quoted h.display v = quoted h.display w) a b) :
    h.display a = h.display b ∧ quoted h.display a = quoted h.display b := by
  cases matching with
  | @number x y same =>
    have texts : h.display (.number x) = h.display (.number y) :=
      congrArg some (Number.text_eq_of_eq same)
    exact ⟨texts, texts⟩
  | string | boolean | null | function => exact ⟨rfl, rfl⟩
  | @array i j each =>
    have texts : h.display (.array i) = h.display (.array j) := by
      rw [display_array, display_array, mapM_eq_of_forall₂ each id]
    exact ⟨texts, texts⟩
  | @object i j each =>
    have texts : h.display (.object i) = h.display (.object j) := by
      rw [display_object, display_object, mapM_eq_of_forall₂ each]
      rintro p q ⟨name, value⟩
      rw [propertyText, propertyText, name, value]
    exact ⟨texts, texts⟩

/-- Equal values have the same text. -/
theorem Equals.display_eq (acyclic : h.Acyclic a) (equal : h.Equals a b) :
    h.display a = h.display b := by
  refine (acyclic.induction (motive := fun a => ∀ b, h.Equals a b →
    h.display a = h.display b ∧ quoted h.display a = quoted h.display b) ?_ b equal).1
  intro a ih b equal
  rcases equal.matches with ⟨-, rfl⟩ | matching
  · exact ⟨rfl, rfl⟩
  · exact (matching.of_inside fun v holds w same => (ih v holds w same).2).display_eq

/-- Equal values are of the same sort. -/
theorem Equals.tag_eq (equal : h.Equals a b) : a.tag = b.tag := by
  rcases equal.matches with ⟨-, rfl⟩ | matching
  · rfl
  · exact matching.tag_eq

/-- Equal values are true or false together. -/
theorem Equals.isTruthy_eq (equal : h.Equals a b) : a.isTruthy = b.isTruthy := by
  rcases equal.matches with ⟨-, rfl⟩ | matching
  · rfl
  · cases matching with
    | number same =>
      rw [Value.isTruthy, Value.isTruthy, Number.isZero_eq_of_eq same, Number.isNaN_eq_of_eq same]
    | string | boolean | null | function | array | object => rfl

theorem satisfies_eq_of_tag_eq (same : a.tag = b.tag) (type : TypeName) :
    a.satisfies type = b.satisfies type := by
  cases type <;> cases a <;> cases b <;> first | rfl | cases same

end Heap

/-! ## Equality from outside -/

/-- Only a change to what they hold tells the two values apart.  They are of the same sort, true
together and of the same types.  They have the same text, so they name the same property of every
object for reading, and of every object that neither of them holds for writing, and they print the
same. -/
structure Heap.Interchangeable (h : Heap) (a b : Value) : Prop where
  tag : a.tag = b.tag
  isTruthy : a.isTruthy = b.isTruthy
  satisfies : ∀ type, a.satisfies type = b.satisfies type
  display : h.display a = h.display b
  readSlot : ∀ ref, h.readSlot (.object ref) a = h.readSlot (.object ref) b
  slot : ∀ ref span, ¬ ReflTransGen h.Holds a (.object ref) →
    ¬ ReflTransGen h.Holds b (.object ref) →
    h.slot (.object ref) a span = h.slot (.object ref) b span
  print : ∀ m : Machine, m.heap = h →
    Evaluate.callBuiltin .print [a] m = Evaluate.callBuiltin .print [b] m

/-- What follows two actions with the same outcome has the same outcome. -/
theorem bind_eq_of_eq {α β : Type} {a b : Action α} {m : Machine} (same : a m = b m)
    (f : α → Action β) : (a >>= f) m = (b >>= f) m := by
  change EStateM.bind a f m = EStateM.bind b f m
  simp only [EStateM.bind, same]

/-- Equal values are of one kind and have one text, and nothing else of them is asked for. -/
theorem Heap.Equals.interchangeable {h : Heap} {a b : Value} (acyclic : h.Acyclic a)
    (equal : h.Equals a b) : h.Interchangeable a b where
  tag := equal.tag_eq
  isTruthy := equal.isTruthy_eq
  satisfies := Heap.satisfies_eq_of_tag_eq equal.tag_eq
  display := equal.display_eq acyclic
  readSlot ref := by rw [Heap.readSlot, Heap.readSlot, equal.display_eq acyclic]
  slot ref span apart apart' := by
    obtain ⟨text, shown⟩ := Heap.exists_display_iff.mpr acyclic
    have shown' : h.display b = some text := (equal.display_eq acyclic).symm.trans shown
    rw [Heap.slot_of_apart apart shown, Heap.slot_of_apart apart' shown']
  print m on_heap := by
    subst on_heap
    have shown : Action.display a m = Action.display b m := by
      rw [Action.display, Action.display, Action.query, Action.query, equal.display_eq acyclic]
    have line : Action.emitValue a m = Action.emitValue b m := bind_eq_of_eq shown _
    exact bind_eq_of_eq (bind_eq_of_eq line fun _ => pure ()) fun _ => pure Value.null

/-- A value equals itself unless it is the number that is no number.  On values without cycles the
comparison ends, in either order with the same result, and equality is transitive.  If all numbers
inside of one of the two are numbers, it is the same as having the same structure, which goes by
the contents of containers alone.  Equal values are interchangeable. -/
theorem equality_is_seamless (h : Heap) :
    (∀ a, h.equal a a = some true ↔ ∀ n, a = .number n → n.isNaN = false) ∧
    (∀ a b, h.Acyclic a → h.Acyclic b → ∃ r, h.equal a b = some r ∧ h.equal b a = some r) ∧
    (∀ a b c, h.Acyclic a → h.equal a b = some true → h.equal b c = some true →
      h.equal a c = some true) ∧
    (∀ a b, h.SameStructure a b ↔ h.Matches h.SameStructure a b) ∧
    (∀ a b, h.Acyclic a → h.Acyclic b → h.Numeric a ∨ h.Numeric b →
      (h.equal a b = some true ↔ h.SameStructure a b) ∧
        (h.equal a b = some false ↔ ¬ h.SameStructure a b)) ∧
    ∀ a b, h.Acyclic a → h.equal a b = some true → h.Interchangeable a b := by
  refine ⟨fun a => Heap.equals_self_iff, fun a b left right => ?_,
    fun a b c acyclic => Heap.Equals.trans acyclic, fun a b => Heap.sameStructure_iff,
    fun a b left right => Heap.equal_iff_sameStructure left right,
    fun a b acyclic equal => Heap.Equals.interchangeable acyclic equal⟩
  obtain ⟨r, found⟩ := left.exists_equal b
  exact ⟨r, found, (Heap.Acyclic.equal_comm right left).trans found⟩

/-- Two arrays with a zero each, of which one is negative. -/
theorem equality_is_seamless_zeros :
    let h : Heap := ⟨#[], #[#[.number .zero], #[.number Number.zero.neg]], #[], #[]⟩
    h.Acyclic (.array 0) ∧ h.Acyclic (.array 1) ∧ h.Numeric (.array 0) ∧
      h.equal (.array 0) (.array 1) = some true ∧ h.equal (.array 1) (.array 0) = some true ∧
      h.equal (.array 0) (.array 0) = some true ∧ h.SameStructure (.array 0) (.array 1) ∧
      h.Interchangeable (.array 0) (.array 1) := by
  intro h
  obtain ⟨-, comm, trans, -, structural, interchangeable⟩ := equality_is_seamless h
  have left : h.Acyclic (.array 0) := Heap.exists_display_iff.mp ⟨"[0]", by decide +kernel⟩
  have right : h.Acyclic (.array 1) := Heap.exists_display_iff.mp ⟨"[0]", by decide +kernel⟩
  have equal : h.equal (.array 0) (.array 1) = some true := by decide
  have numeric : h.Numeric (.array 0) := by
    intro n reached
    obtain ⟨v, first, rest⟩ := Relation.TransGen.head'_iff.mp reached
    obtain rfl : v = .number .zero := List.mem_singleton.mp first
    obtain same | ⟨w, holds, -⟩ := rest.cases_head
    · cases same
      decide
    · exact absurd holds List.not_mem_nil
  obtain ⟨r, forth, back⟩ := comm _ _ left right
  obtain rfl : r = true := Option.some.inj (forth.symm.trans equal)
  exact ⟨left, right, numeric, equal, back, trans _ _ _ left equal back,
    (structural _ _ left right (.inl numeric)).1.mp equal, interchangeable _ _ left equal⟩

end Scriptlet
