import Scriptlet.Proofs.Heap.Equality
import Scriptlet.Proofs.Heap.Writing
import Scriptlet.Proofs.Number.Natural

/-!
# Reading what was written

Reading and writing go by the sort of the container and by the sort of the key, each in a case
analysis of its own.  They agree.  An array is written to at the index that a number denotes, and
an object at the text of the key.  What is read afterwards at the same index or the same text
is the value, and elsewhere it is what was read before.

A key must not hold the object that is written to.  Such a key breaks the machine down, and so
does an index from `2 ^ 64` on.  A write may change the text of keys that hold the object.  All
other keys keep their text (`Heap.display_eq_of_puts`).
-/

namespace Scriptlet

open Relation

namespace Heap

variable {h h₁ : Heap} {ref i : Nat} {n : Number} {key v : Value} {x : Contents}

/-! ## Reading by case -/

/-- An array is read at the index that a number denotes. -/
theorem readSlot_element (denotes : n.Denotes i) :
    h.readSlot (.array ref) (.number n) = some ((h.elements ref)[i]?.getD .null) := by
  rw [readSlot, Number.toNat?_eq_some_iff.mpr denotes, Option.bind_some]

/-- Where a number denotes no index, nothing is in an array. -/
theorem readSlot_no_element (nothing : ∀ i, ¬ n.Denotes i) :
    h.readSlot (.array ref) (.number n) = some .null := by
  rw [readSlot, Number.toNat?_eq_none nothing, Option.bind_none, Option.getD_none]

theorem readSlot_length : h.readSlot (.array ref) (.string "length") =
    some (.number (Number.ofNat (h.elements ref).size)) := by
  rw [readSlot, if_pos rfl]

/-- An array has no other keys. -/
theorem readSlot_array_other (sort : key.tag ≠ .number) (other : key ≠ .string "length") :
    h.readSlot (.array ref) key = some .null := by
  cases key with
  | number => exact absurd rfl sort
  | string s =>
    have unlike : s ≠ "length" := fun same => other (congrArg _ same)
    rw [readSlot, if_neg unlike]
  | boolean | null | array | object | function => rfl

/-- An object is read at the text of the key. -/
theorem readSlot_object : h.readSlot (.object ref) key =
    (h.display key).map fun text => (Properties.get? text (h.properties ref)).getD .null := by
  cases key <;> rfl

/-! ## Keys that keep their text -/

/-- A cell that nothing is put into holds the same. -/
theorem Puts.elements {c : Cell} (puts : h.Puts c x h₁) (other : (⟨.array, i⟩ : Cell) ≠ c) :
    (h₁.elements i).toList = (h.elements i).toList :=
  Contents.array.inj (puts.sameAt other).2.symm

theorem Puts.properties {c : Cell} (puts : h.Puts c x h₁) (other : (⟨.object, i⟩ : Cell) ≠ c) :
    h₁.properties i = h.properties i :=
  Contents.object.inj (puts.sameAt other).2.symm

theorem Puts.callable {c : Cell} (puts : h.Puts c x h₁) (other : (⟨.function, i⟩ : Cell) ≠ c) :
    h₁.callable i = h.callable i :=
  Contents.function.inj (puts.sameAt other).2.symm

theorem mapM_congr {α β : Type} {f g : α → Option β} {as : List α}
    (same : ∀ a ∈ as, f a = g a) : as.mapM f = as.mapM g :=
  mapM_eq_of_forall₂ (List.forall₂_same.mpr same) id

theorem quoted_congr {f g : Value → Option String} (same : f v = g v) :
    quoted f v = quoted g v := by
  cases v with
  | string => rfl
  | number | boolean | null | array | object | function => exact same

theorem displayWithin_eq_of_puts (puts : h.Puts ⟨.object, ref⟩ x h₁) (depth : Nat) :
    ∀ {v : Value}, ¬ ReflTransGen h.Holds v (.object ref) →
      h₁.displayWithin depth v = h.displayWithin depth v := by
  have functions (i : Nat) (depth : Nat) :
      h₁.displayWithin depth (.function i) = h.displayWithin depth (.function i) := by
    have same : h₁.callable i = h.callable i := puts.callable nofun
    cases depth <;> exact congrArg (some ∘ Callable.text) same
  induction depth with
  | zero =>
    intro v apart
    cases v with
    | function i => exact functions i 0
    | number | string | boolean | null | array | object => rfl
  | succ depth ih =>
    intro v apart
    have inner : ∀ w ∈ h.inside v,
        quoted (h₁.displayWithin depth) w = quoted (h.displayWithin depth) w :=
      fun w holds => quoted_congr (ih fun reached => apart (.head holds reached))
    cases v with
    | array i =>
      have texts : (h.elements i).toList.mapM (quoted (h₁.displayWithin depth)) =
          (h.elements i).toList.mapM (quoted (h.displayWithin depth)) := mapM_congr inner
      rw [displayWithin_array, displayWithin_array, puts.elements nofun, texts]
    | object i =>
      have unlike : (⟨.object, i⟩ : Cell) ≠ ⟨.object, ref⟩ := by
        intro same
        obtain rfl : i = ref := congrArg Cell.ref same
        exact apart .refl
      rw [displayWithin_object, displayWithin_object, puts.properties unlike,
        mapM_congr fun p inside => ?_]
      rw [propertyText, propertyText, inner p.2 (List.mem_map_of_mem inside)]
    | function i => exact functions i _
    | number | string | boolean | null => rfl

/-- A value keeps its text when something is put into an object that it does not hold. -/
theorem display_eq_of_puts (puts : h.Puts ⟨.object, ref⟩ x h₁)
    (apart : ¬ ReflTransGen h.Holds v (.object ref)) : h₁.display v = h.display v := by
  have deep : h₁.containers < h.containers + h₁.containers + 1 := by omega
  have deep' : h.containers < h.containers + h₁.containers + 1 := by omega
  rw [← h₁.displayWithin_eq_display deep, ← h.displayWithin_eq_display deep',
    displayWithin_eq_of_puts puts _ apart]

/-! ## Strings -/

/-- What a string is as a container: its length, and its characters. -/
structure ReadsCharacters (h : Heap) (s : String) : Prop where
  length : h.readSlot (.string s) (.string "length") = some (.number (Number.ofNat s.length))
  /-- Up to that length, numbers tell all lengths and indexes apart. -/
  numbers : ∀ i, i ≤ s.length → s.length ≤ 2 ^ 53 → (Number.ofNat i).Denotes i
  /-- The pieces that are read in order, one character each, make up the string. -/
  pieces : ∀ ns, List.Forall₂ Number.Denotes ns (List.range s.length) → ∃ pieces,
    List.Forall₂ (fun n piece => h.readSlot (.string s) (.number n) = some (.string piece))
      ns pieces ∧ (∀ piece ∈ pieces, piece.length = 1) ∧ String.join pieces = s
  outside : ∀ n : Number, (∀ i < s.length, ¬ n.Denotes i) →
    h.readSlot (.string s) (.number n) = some .null

/-- A string is read at the index that a number denotes. -/
theorem readSlot_character {s : String} {c : Char} (denotes : n.Denotes i)
    (there : s.toList[i]? = some c) :
    h.readSlot (.string s) (.number n) = some (.string (String.ofList [c])) := by
  rw [readSlot, Number.toNat?_eq_some_iff.mpr denotes, Option.bind_some, there]
  rfl

theorem readSlot_no_character {s : String} (outside : ∀ i < s.length, ¬ n.Denotes i) :
    h.readSlot (.string s) (.number n) = some .null := by
  have nothing : n.toNat?.bind (fun i => s.toList[i]?) = none := by
    refine Option.bind_eq_none_iff.mpr fun i found => List.getElem?_eq_none ?_
    have beyond := mt (outside i) (not_not_intro (Number.toNat?_eq_some_iff.mp found))
    rw [String.length_toList]
    exact Nat.le_of_not_lt beyond
  rw [readSlot, nothing]
  rfl

theorem readsCharacters (h : Heap) (s : String) : h.ReadsCharacters s where
  length := by rw [readSlot, if_pos rfl]
  numbers i inside bound := Number.denotes_ofNat (Nat.le_trans inside bound)
  pieces ns denote := by
    refine ⟨s.toList.map fun c => String.ofList [c], ?_, ?_, ?_⟩
    · have lengths : ns.length = s.toList.length := by
        rw [denote.length_eq, List.length_range, String.length_toList]
      refine List.forall₂_iff_get.mpr ⟨by rw [lengths, List.length_map], fun i first second => ?_⟩
      have there : i < s.toList.length := lengths ▸ first
      have denotes := denote.get first (denote.length_eq ▸ first)
      rw [List.get_eq_getElem, List.get_eq_getElem, List.getElem_range] at denotes
      rw [List.get_eq_getElem, List.get_eq_getElem, List.getElem_map]
      exact readSlot_character denotes (List.getElem?_eq_getElem there)
    · intro piece inside
      obtain ⟨c, -, rfl⟩ := List.mem_map.mp inside
      rw [String.length_ofList, List.length_singleton]
    · refine String.toList_inj.mp ?_
      simp [String.toList_join, List.flatMap_map]
  outside n := readSlot_no_character

end Heap

/-! ## Writing -/

namespace Machine

/-- The second machine is the first one with something else in one cell. -/
structure Changes (m : Machine) (c : Cell) (m' : Machine) : Prop where
  cells : ∀ d, d ≠ c → m.heap.SameAt m'.heap d
  has : m'.heap.Has c
  scope : m'.scope = m.scope
  depth : m'.depth = m.depth
  output : m'.output = m.output

/-- An array is given an element, and grows if it has to.  Reading at the index gives the value, and
reading at another one what it gave before. -/
structure WritesElement (m : Machine) (ref i : Nat) (v : Value) (m' : Machine) : Prop
    extends m.Changes ⟨.array, ref⟩ m' where
  size : (m'.heap.elements ref).size = max (m.heap.elements ref).size (i + 1)
  elements : ∀ j, (m'.heap.elements ref)[j]? =
    if j = i then some v
    else if j < (m.heap.elements ref).size then (m.heap.elements ref)[j]?
    else if j < i then some .null
    else none
  read_at : ∀ n : Number, n.Denotes i → m'.heap.readSlot (.array ref) (.number n) = some v
  read_other : ∀ n : Number, ¬ n.Denotes i →
    m'.heap.readSlot (.array ref) (.number n) = m.heap.readSlot (.array ref) (.number n)
  read_length : m'.heap.readSlot (.array ref) (.string "length") =
    some (.number (Number.ofNat (max (m.heap.elements ref).size (i + 1))))
  read_rest : ∀ key : Value, key.tag ≠ .number → key ≠ .string "length" →
    m'.heap.readSlot (.array ref) key = m.heap.readSlot (.array ref) key

/-- An object is given a property.  Reading at a key with the name for its text gives the value, and
reading at another one what it gave before. -/
structure WritesProperty (m : Machine) (ref : Nat) (name : String) (v : Value) (m' : Machine) :
    Prop extends m.Changes ⟨.object, ref⟩ m' where
  properties : ∀ name', Properties.get? name' (m'.heap.properties ref) =
    if name' = name then some v else Properties.get? name' (m.heap.properties ref)
  /-- Any key counts by the text that it has then. -/
  read : ∀ key, m'.heap.readSlot (.object ref) key = (m'.heap.display key).map fun text =>
    if text = name then v else (Properties.get? text (m.heap.properties ref)).getD .null
  /-- A key that does not hold the object has the text that it had. -/
  display : ∀ key, ¬ ReflTransGen m.heap.Holds key (.object ref) →
    m'.heap.display key = m.heap.display key
  read_at : ∀ key, ¬ ReflTransGen m.heap.Holds key (.object ref) →
    m.heap.display key = some name → m'.heap.readSlot (.object ref) key = some v
  read_other : ∀ key, ¬ ReflTransGen m.heap.Holds key (.object ref) →
    m.heap.display key ≠ some name →
    m'.heap.readSlot (.object ref) key = m.heap.readSlot (.object ref) key

variable {m : Machine} {ref : Nat} {v : Value}

theorem changes_of_puts {c : Cell} {x : Contents} {heap : Heap} (puts : m.heap.Puts c x heap) :
    m.Changes c { m with heap := heap } where
  cells _ other := puts.sameAt other
  has := (puts.has c).mpr (.inr rfl)
  scope := rfl
  depth := rfl
  output := rfl

/-- Setting an element is a write to the array. -/
theorem writesElement (there : m.heap.Has ⟨.array, ref⟩) (i : Nat) (v : Value) :
    m.WritesElement ref i v { m with heap := m.heap.setSlot (.element ref i) v } := by
  have puts := m.heap.puts_element there i v
  have set : (m.heap.setSlot (.element ref i) v).elements ref =
      setElement (m.heap.elements ref) i v := by
    have put := puts.contents ⟨.array, ref⟩
    rw [if_pos rfl] at put
    exact Array.toList_inj.mp (Contents.array.inj put)
  refine
    { toChanges := changes_of_puts puts
      size := by rw [set, size_setElement]
      elements := fun j => by rw [set, getElem?_setElement]
      read_at := fun n denotes => ?_
      read_other := fun n unlike => ?_
      read_length := by rw [Heap.readSlot_length, set, size_setElement]
      read_rest := fun key sort other => ?_ }
  · rw [Heap.readSlot_element denotes, set, getElem?_setElement, if_pos rfl, Option.getD_some]
  · by_cases somewhere : ∃ j, n.Denotes j
    · obtain ⟨j, denotes⟩ := somewhere
      have other : j ≠ i := fun same => unlike (same ▸ denotes)
      rw [Heap.readSlot_element denotes, Heap.readSlot_element denotes, set, getElem?_setElement,
        if_neg other]
      -- What is beyond the end reads as null, and a gap is filled with null.
      by_cases inside : j < (m.heap.elements ref).size
      · rw [if_pos inside]
      · rw [if_neg inside, Array.getElem?_eq_none (Nat.le_of_not_lt inside)]
        split <;> rfl
    · have nothing : ∀ j, ¬ n.Denotes j := not_exists.mp somewhere
      rw [Heap.readSlot_no_element nothing, Heap.readSlot_no_element nothing]
  · rw [Heap.readSlot_array_other sort other, Heap.readSlot_array_other sort other]

/-- Setting a property is a write to the object. -/
theorem writesProperty (there : m.heap.Has ⟨.object, ref⟩) (name : String) (v : Value) :
    m.WritesProperty ref name v { m with heap := m.heap.setSlot (.property ref name) v } := by
  have puts := m.heap.puts_property there name v
  have set : (m.heap.setSlot (.property ref name) v).properties ref =
      (m.heap.properties ref).insert name v := by
    have put := puts.contents ⟨.object, ref⟩
    rw [if_pos rfl] at put
    exact Contents.object.inj put
  have read (key : Value) :
      (m.heap.setSlot (.property ref name) v).readSlot (.object ref) key =
        ((m.heap.setSlot (.property ref name) v).display key).map fun text =>
          if text = name then v else (Properties.get? text (m.heap.properties ref)).getD .null := by
    rw [Heap.readSlot_object, set]
    congr 1
    funext text
    rw [Properties.get?_insert]
    split <;> rfl
  refine
    { toChanges := changes_of_puts puts
      properties := fun name' => by rw [set, Properties.get?_insert]
      read := read
      display := fun key apart => Heap.display_eq_of_puts puts apart
      read_at := fun key apart text => ?_
      read_other := fun key apart other => ?_ }
  · rw [read, Heap.display_eq_of_puts puts apart, text, Option.map_some, if_pos rfl]
  · rw [read, Heap.display_eq_of_puts puts apart, Heap.readSlot_object]
    cases text : m.heap.display key with
    | none => rfl
    | some name' =>
      have unlike : name' ≠ name := fun same => other (text.trans (congrArg some same))
      rw [Option.map_some, Option.map_some, if_neg unlike]

end Machine

open Scriptlet.Action

section

variable {m : Machine} {v : Value} {span : Span}

/-- A write that asks for a slot that there is. -/
theorem writeSlot_eq_ok {container key : Value} {s : Slot}
    (found : m.heap.slot container key span = .ok s) :
    writeSlot container key v span m = .ok () { m with heap := m.heap.setSlot s v } := by
  rw [writeSlot, found]

/-- A write that is refused changes nothing. -/
theorem writeSlot_eq_error {container key : Value} {e : Halt}
    (refused : m.heap.slot container key span = .error e) :
    writeSlot container key v span m = .error e m := by
  rw [writeSlot, refused]

/-- A refusal mentions the text of the key, if there is one. -/
theorem exists_refusal {slot : Except Halt Slot} {fault : String → TypeFault}
    {text : Option String}
    (shown : ∀ k, text = some k → slot = .error (.fault (.type (fault k) span)))
    (hidden : text = none → slot = .error .endless) :
    ∃ e, slot = .error e ∧ ∀ k, text = some k → e = .fault (.type (fault k) span) := by
  cases text with
  | none => exact ⟨_, hidden rfl, nofun⟩
  | some text =>
    refine ⟨_, shown text rfl, ?_⟩
    rintro _ ⟨⟩
    rfl

/-- An array has a slot for a number that denotes an index. -/
theorem Heap.slot_element {h : Heap} {ref i : Nat} {n : Number} (denotes : n.Denotes i)
    (small : i < 2 ^ 64) : h.slot (.array ref) (.number n) span = .ok (.element ref i) := by
  have bounded : i < indexBound := small
  simp only [slot, Number.toNat?_eq_some_iff.mpr denotes, if_pos bounded]

/-- The indexes end somewhere. -/
theorem Heap.slot_beyond {h : Heap} {ref i : Nat} {n : Number} (denotes : n.Denotes i)
    (large : 2 ^ 64 ≤ i) :
    h.slot (.array ref) (.number n) span = .error (.crash .capacity) := by
  have unbounded : ¬ i < indexBound := Nat.not_lt.mpr large
  simp only [slot, Number.toNat?_eq_some_iff.mpr denotes, if_neg unbounded]

/-- An array has no slot for a key that denotes no index. -/
theorem slot_array_eq_error {ref : Nat} {key : Value}
    (nothing : ∀ n i, key = .number n → ¬ n.Denotes i) :
    ∃ e, m.heap.slot (.array ref) key span = .error e ∧
      ∀ text, m.heap.display key = some text →
        e = .fault (.type (.arrayIndex text) span) := by
  refine exists_refusal (fun text shown => ?_) fun hidden => ?_
  all_goals
    cases key with
    | number n =>
      have has_none : n.toNat? = none := Number.toNat?_eq_none fun i => nothing n i rfl
      simp only [Heap.slot, *]
    | string | boolean | null | array | object | function => simp only [Heap.slot, *]

/-- What is no container has no slots. -/
theorem slot_other_eq_error {container key : Value} (array : container.tag ≠ .array)
    (object : container.tag ≠ .object) :
    ∃ e, m.heap.slot container key span = .error e ∧
      ∀ text, m.heap.display key = some text →
        e = .fault (.type (.container text container.tag) span) := by
  refine exists_refusal (fun text shown => ?_) fun hidden => ?_
  all_goals
    cases container with
    | array => exact absurd rfl array
    | object => exact absurd rfl object
    | number | string | boolean | null | function => simp only [Heap.slot, *]

end

/-- An array is written to at the numbers that denote an index.  From `2 ^ 64` on they break the
machine down, and all other keys are refused.  An object is written to at every key that does not
hold it, unless the text of the key has no end, and nothing else than the two is written to.  A
write does what it should and only that, and one that gives no result changes nothing.  Strings are
read by their characters. -/
theorem slots_keep_what_is_written (m : Machine) (v : Value) (span : Span) :
    (∀ ref key, m.heap.Has ⟨.array, ref⟩ →
      (∀ n i, key = .number n → n.Denotes i →
        (i < 2 ^ 64 → ∃ m',
          writeSlot (.array ref) key v span m = .ok () m' ∧ m.WritesElement ref i v m') ∧
        (2 ^ 64 ≤ i → writeSlot (.array ref) key v span m = .error (.crash .capacity) m)) ∧
      ((∀ n i, key = .number n → ¬ n.Denotes i) → ∃ e,
        writeSlot (.array ref) key v span m = .error e m ∧
          ∀ text, m.heap.display key = some text →
            e = .fault (.type (.arrayIndex text) span))) ∧
    (∀ ref key, m.heap.Has ⟨.object, ref⟩ →
      (¬ ReflTransGen m.heap.Holds key (.object ref) →
        (∃ text m', m.heap.display key = some text ∧
          writeSlot (.object ref) key v span m = .ok () m' ∧ m.WritesProperty ref text v m') ∨
        writeSlot (.object ref) key v span m = .error .endless m ∧ ¬ m.heap.Acyclic key) ∧
      (ReflTransGen m.heap.Holds key (.object ref) →
        writeSlot (.object ref) key v span m = .error (.crash .borrowed) m ∨
        writeSlot (.object ref) key v span m = .error .endless m ∧ ¬ m.heap.Acyclic key)) ∧
    (∀ container key, container.tag ≠ .array → container.tag ≠ .object → ∃ e,
      writeSlot container key v span m = .error e m ∧
        ∀ text, m.heap.display key = some text →
          e = .fault (.type (.container text container.tag) span)) ∧
    (∀ container key e m', writeSlot container key v span m = .error e m' → m' = m) ∧
    ∀ s, m.heap.ReadsCharacters s := by
  refine ⟨fun ref key there => ⟨?_, fun nothing => ?_⟩,
    fun ref key there => ⟨fun apart => ?_, fun reached => ?_⟩,
    fun container key array object => ?_, fun container key e m' failed => ?_,
    m.heap.readsCharacters⟩
  · rintro n i rfl denotes
    refine ⟨fun small => ?_, fun large => ?_⟩
    · exact ⟨_, writeSlot_eq_ok (Heap.slot_element denotes small), Machine.writesElement there i v⟩
    · exact writeSlot_eq_error (Heap.slot_beyond denotes large)
  · obtain ⟨e, refused, blame⟩ := slot_array_eq_error nothing
    exact ⟨e, writeSlot_eq_error refused, blame⟩
  · rcases shown : m.heap.display key with _ | text
    · exact .inr ⟨writeSlot_eq_error (Heap.slot_of_cyclic apart shown),
        Heap.display_eq_none_iff.mp shown⟩
    · exact .inl ⟨text, _, rfl, writeSlot_eq_ok (Heap.slot_of_apart apart shown),
        Machine.writesProperty there text v⟩
  · by_cases acyclic : m.heap.Acyclic key
    · exact .inl (writeSlot_eq_error (Heap.slot_of_reached acyclic reached))
    · exact (Heap.slot_of_not_acyclic acyclic).imp writeSlot_eq_error
        fun endless => ⟨writeSlot_eq_error endless, acyclic⟩
  · obtain ⟨e, refused, blame⟩ := slot_other_eq_error array object
    exact ⟨e, writeSlot_eq_error refused, blame⟩
  · unfold writeSlot at failed
    split at failed
    · cases failed
      rfl
    · cases failed

/-- An array is written to behind its end, and an object at a number, whose text reads back.  The
object is no key of its own, and the array has no element at `2 ^ 64`. -/
theorem slots_keep_what_is_written_gap :
    let m : Machine := ⟨⟨#[], #[#[.null]], #[[("a", .null)]], #[]⟩, Machine.globals, 0, #[]⟩
    let three : Value := .number (Number.ofNat 3)
    let one : Value := .number (Number.ofNat 1)
    (∃ m', writeSlot (.array 0) three (.boolean true) default m = .ok () m' ∧
      (m'.heap.elements 0).size = 4 ∧ (m'.heap.elements 0)[2]? = some .null ∧
      m'.heap.readSlot (.array 0) three = some (.boolean true)) ∧
    writeSlot (.array 0) (.number (Number.ofNat (2 ^ 64))) (.boolean true) default m =
      .error (.crash .capacity) m ∧
    writeSlot (.array 0) .null (.boolean true) default m =
      .error (.fault (.type (.arrayIndex "null") default)) m ∧
    (∃ m', writeSlot (.object 0) one (.boolean true) default m = .ok () m' ∧
      m'.heap.readSlot (.object 0) (.string "1") = some (.boolean true) ∧
      m.heap.SameAt m'.heap ⟨.array, 0⟩) ∧
    writeSlot (.object 0) (.object 0) (.boolean true) default m = .error (.crash .borrowed) m ∧
    writeSlot .null one (.boolean true) default m =
      .error (.fault (.type (.container "1" .null) default)) m := by
  intro m three one
  obtain ⟨arrays, objects, others, -, -⟩ := slots_keep_what_is_written m (.boolean true) default
  have shown : m.heap.display one = some "1" := by decide +kernel
  have leaf {key : Value} (none_ : m.heap.inside key = []) (other : key ≠ .object 0) :
      ¬ ReflTransGen m.heap.Holds key (.object 0) := by
    intro reached
    obtain same | ⟨w, holds, -⟩ := reached.cases_head
    · exact other same
    · rw [Heap.Holds, none_] at holds
      exact List.not_mem_nil holds
  refine ⟨?_, ?_, ?_, ?_, ?_, ?_⟩
  · have denotes : (Number.ofNat 3).Denotes 3 := Number.denotes_ofNat (by decide)
    obtain ⟨m', written, writes⟩ := ((arrays 0 three Nat.zero_lt_one).1 _ 3 rfl denotes).1
      (by decide)
    exact ⟨m', written, writes.size, writes.elements 2, writes.read_at _ denotes⟩
  · have denotes : (Number.ofNat (2 ^ 64)).Denotes (2 ^ 64) :=
      ⟨by decide +kernel, by decide +kernel⟩
    exact ((arrays 0 _ Nat.zero_lt_one).1 _ _ rfl denotes).2 (Nat.le_refl _)
  · obtain ⟨e, refused, blame⟩ := (arrays 0 .null Nat.zero_lt_one).2 nofun
    rw [refused, blame "null" rfl]
  · have acyclic : m.heap.Acyclic one := Heap.exists_display_iff.mp ⟨_, shown⟩
    obtain ⟨text, m', named, written, writes⟩ | ⟨-, cyclic⟩ :=
      (objects 0 one Nat.zero_lt_one).1 (leaf rfl nofun)
    · obtain rfl : text = "1" := Option.some.inj (named.symm.trans shown)
      exact ⟨m', written, writes.read_at _ (leaf rfl nofun) rfl, writes.cells _ nofun⟩
    · exact absurd acyclic cyclic
  · have acyclic : m.heap.Acyclic (.object 0) :=
      Heap.exists_display_iff.mp ⟨"\x7ba: null\x7d", by decide +kernel⟩
    exact ((objects 0 _ Nat.zero_lt_one).2 .refl).resolve_right fun endless => endless.2 acyclic
  · obtain ⟨e, refused, blame⟩ := others .null one nofun nofun
    rw [refused, blame "1" shown]
    rfl

end Scriptlet
