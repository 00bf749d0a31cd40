import Scriptlet.Proofs.Heap.Slot
import Scriptlet.Proofs.Number.Text

/-!
# Arrays as names

An object takes any key by its text, so two arrays name the same property if they have the same
text.  For *plain* arrays, made of numbers, strings, truth values, null and plain arrays, that is so
just if they *coincide*: of the same shape with equal leaves, where what is no number counts as
equal to itself (`array_names_collide_iff`).  The two may lie on different heaps, as an array does
before and after a change.

A plain value is *written* in one of three forms inside of an array: characters that no bracket,
comma or quote is among, an escaped text in quotes, or written values in brackets.  The first
character tells which.  Each form tells where it ends, as long as a comma or a closing bracket
follows, so what is written is read back in one way only (`Written.append_inj`).
-/

namespace Scriptlet

open Relation

namespace Heap

/-! ## Plain values -/

/-- A value that is made of numbers, strings, truth values, null and arrays, to any depth. -/
structure Plain (h : Heap) (v : Value) : Prop where
  acyclic : h.Acyclic v
  sorts : ∀ w, ReflTransGen h.Holds v w → w.tag ≠ .object ∧ w.tag ≠ .function

/-- Values of the same shape with equal leaves, each on a heap of its own. -/
inductive Coincide (h h' : Heap) : Value → Value → Prop
  | number {x y : Number} : x.Same y → Coincide h h' (.number x) (.number y)
  | string (s : String) : Coincide h h' (.string s) (.string s)
  | boolean (b : Bool) : Coincide h h' (.boolean b) (.boolean b)
  | null : Coincide h h' .null .null
  | array {i j : Nat} : List.Forall₂ (Coincide h h') (h.elements i).toList (h'.elements j).toList →
    Coincide h h' (.array i) (.array j)

variable {h h' : Heap} {v w : Value}

namespace Plain

theorem of_holds (plain : h.Plain v) (holds : h.Holds v w) : h.Plain w where
  acyclic := plain.acyclic.of_holds holds
  sorts u reached := plain.sorts u (.head holds reached)

/-- A value is plain if it is no object and no function and if what it holds is plain. -/
theorem of_inside (no_object : v.tag ≠ .object) (no_function : v.tag ≠ .function)
    (inside : ∀ w ∈ h.inside v, h.Plain w) : h.Plain v where
  acyclic := acyclic_iff.mpr fun w holds => (inside w holds).acyclic
  sorts w reached := by
    obtain rfl | ⟨u, holds, rest⟩ := reached.cases_head
    · exact ⟨no_object, no_function⟩
    · exact (inside u holds).sorts w rest

/-- No object is inside of a plain value. -/
theorem apart (plain : h.Plain v) (ref : Nat) : ¬ ReflTransGen h.Holds v (.object ref) :=
  fun reached => (plain.sorts _ reached).1 rfl

theorem exists_display (plain : h.Plain v) : ∃ s, h.display v = some s :=
  exists_display_iff.mpr plain.acyclic

end Plain

/-! ## Written values -/

/-- The values that are written without brackets and quotes. -/
inductive Atom : Value → List Char → Prop
  | number (n : Number) : Atom (.number n) n.chars
  | true_ : Atom (.boolean true) ['t', 'r', 'u', 'e']
  | false_ : Atom (.boolean false) ['f', 'a', 'l', 's', 'e']
  | null : Atom .null ['n', 'u', 'l', 'l']

mutual

/-- How a plain value is written inside of an array. -/
inductive Written (h : Heap) : Value → List Char → Prop
  | atom {v : Value} {cs : List Char} : Atom v cs → Written h v cs
  | string {s : String} {cs : List Char} :
    Text.EscapedText s.toList cs → Written h (.string s) ('"' :: cs ++ ['"'])
  | array {i : Nat} {cs : List Char} :
    WrittenElements h (h.elements i).toList cs → Written h (.array i) ('[' :: cs)

/-- How the elements of an array are written, up to the bracket that closes it. -/
inductive WrittenElements (h : Heap) : List Value → List Char → Prop
  | nil : WrittenElements h [] [']']
  | one {v : Value} {cs : List Char} : Written h v cs → WrittenElements h [v] (cs ++ [']'])
  | cons {v w : Value} {vs : List Value} {cs ds : List Char} :
    Written h v cs → WrittenElements h (w :: vs) ds →
    WrittenElements h (v :: w :: vs) (cs ++ ',' :: ' ' :: ds)

end

/-- A text that an element of an array ends in front of. -/
def Delimited (rest : List Char) : Prop := ∀ c ∈ rest.head?, c = ',' ∨ c = ']'

/-- The characters of numbers, truth values and null. -/
def isAtomic (c : Char) : Bool := Number.isNumeral c || c ∈ ['u', 'r', 'e', 'l', 's']

namespace Atom

variable {cs ds : List Char}

theorem isAtomic_of_mem (atom : Atom v cs) : cs ≠ [] ∧ ∀ c ∈ cs, isAtomic c = true := by
  cases atom with
  | number n =>
    obtain ⟨some_, numeral⟩ := n.isNumeral_of_mem_chars
    refine ⟨some_, fun c inside => ?_⟩
    rw [isAtomic, numeral c inside, Bool.true_or]
  | true_ | false_ | null => exact ⟨by decide, List.all_eq_true.mp rfl⟩

/-- An atom starts with none of the other characters. -/
theorem head_ne (atom : Atom v cs) {c : Char} (other : isAtomic c = false) {rest rest' : List Char}
    (same : cs ++ rest = c :: rest') : False := by
  obtain ⟨some_, atomic⟩ := atom.isAtomic_of_mem
  cases cs with
  | nil => exact some_ rfl
  | cons d ds =>
    have here := atomic d (.head _)
    rw [(List.cons.inj same).1, other] at here
    cases here

/-- Atoms that are written the same coincide. -/
theorem coincide (first : Atom v cs) (second : Atom w cs) : Coincide h h' v w := by
  have letter {n : Number} {c : Char} (other : Number.isNumeral c = false) : c ∉ n.chars :=
    fun inside => by
      have numeral := n.isNumeral_of_mem_chars.2 c inside
      rw [other] at numeral
      cases numeral
  generalize same : cs = ds at second
  cases first with
  | number n =>
    cases second with
    | number n' => exact .number (Number.text_eq_iff.mp (congrArg String.ofList same))
    | true_ => exact absurd (same ▸ by decide) (letter (n := n) (c := 'r') (by decide))
    | false_ => exact absurd (same ▸ by decide) (letter (n := n) (c := 'l') (by decide))
    | null => exact absurd (same ▸ by decide) (letter (n := n) (c := 'u') (by decide))
  | true_ =>
    cases second with
    | number n => exact absurd (same ▸ by decide) (letter (n := n) (c := 'r') (by decide))
    | true_ => exact .boolean true
    | false_ | null => cases same
  | false_ =>
    cases second with
    | number n => exact absurd (same ▸ by decide) (letter (n := n) (c := 'l') (by decide))
    | false_ => exact .boolean false
    | true_ | null => cases same
  | null =>
    cases second with
    | number n => exact absurd (same ▸ by decide) (letter (n := n) (c := 'u') (by decide))
    | null => exact .null
    | true_ | false_ => cases same

/-- An atom says where it ends. -/
theorem append_inj (first : Atom v cs) (second : Atom w ds) {rest rest' : List Char}
    (ends : Delimited rest) (ends' : Delimited rest') (same : cs ++ rest = ds ++ rest') :
    Coincide h h' v w ∧ rest = rest' := by
  have stops {text : List Char} (ends : Delimited text) : ∀ c ∈ text.head?, isAtomic c = false := by
    intro c inside
    rcases ends c inside with rfl | rfl <;> decide
  obtain ⟨rfl, rests⟩ := Text.append_inj_of_class first.isAtomic_of_mem.2 second.isAtomic_of_mem.2
    (stops ends) (stops ends') same
  exact ⟨first.coincide second, rests⟩

end Atom

theorem delimited_comma (rest : List Char) : Delimited (',' :: rest) := by
  rintro c ⟨⟩
  exact .inl rfl

theorem delimited_bracket (rest : List Char) : Delimited (']' :: rest) := by
  rintro c ⟨⟩
  exact .inr rfl

/-- No value starts with the bracket that closes an array. -/
theorem Written.ne_bracket {cs rest rest' : List Char} (written : h.Written v cs)
    (same : cs ++ rest = ']' :: rest') : False := by
  cases written with
  | atom atom => exact atom.head_ne (by decide) same
  | string => cases same
  | array => cases same

mutual

/-- What is written says what it is and where it ends. -/
theorem Written.append_inj : ∀ {v w : Value} {cs ds rest rest' : List Char},
    h.Written v cs → h'.Written w ds → Delimited rest → Delimited rest' →
    cs ++ rest = ds ++ rest' → Coincide h h' v w ∧ rest = rest'
  | _, _, _, _, _, _, .atom first, .atom second, ends, ends', same =>
    first.append_inj second ends ends' same
  | _, _, _, _, _, _, .atom first, .string _, _, _, same
  | _, _, _, _, _, _, .atom first, .array _, _, _, same => (first.head_ne (by decide) same).elim
  | _, _, _, _, _, _, .string _, .atom second, _, _, same
  | _, _, _, _, _, _, .array _, .atom second, _, _, same =>
    (second.head_ne (by decide) same.symm).elim
  | _, _, _, _, _, _, .string first, .string second, _, _, same => by
    simp only [List.cons_append, List.append_assoc, List.nil_append, List.cons.injEq,
      true_and] at same
    obtain ⟨text, rests⟩ := first.append_inj second same
    obtain rfl := String.toList_inj.mp text
    exact ⟨.string _, rests⟩
  | _, _, _, _, _, _, .array first, .array second, _, _, same => by
    obtain ⟨elements, rests⟩ := first.append_inj second (List.cons.inj same).2
    exact ⟨.array elements, rests⟩

theorem WrittenElements.append_inj : ∀ {vs ws : List Value} {cs ds rest rest' : List Char},
    h.WrittenElements vs cs → h'.WrittenElements ws ds → cs ++ rest = ds ++ rest' →
    List.Forall₂ (Coincide h h') vs ws ∧ rest = rest'
  | _, _, _, _, _, _, .nil, .nil, same => ⟨.nil, (List.cons.inj same).2⟩
  | _, _, _, _, _, _, .nil, .one second, same
  | _, _, _, _, _, _, .nil, .cons second _, same => by
    rw [List.append_assoc] at same
    exact (second.ne_bracket same.symm).elim
  | _, _, _, _, _, _, .one first, .nil, same
  | _, _, _, _, _, _, .cons first _, .nil, same => by
    rw [List.append_assoc] at same
    exact (first.ne_bracket same).elim
  | _, _, _, _, _, _, .one first, .one second, same => by
    rw [List.append_assoc, List.append_assoc] at same
    obtain ⟨coincide, rests⟩ :=
      first.append_inj second (delimited_bracket _) (delimited_bracket _) same
    exact ⟨.cons coincide .nil, (List.cons.inj rests).2⟩
  | _, _, _, _, _, _, .one first, .cons second _, same => by
    rw [List.append_assoc, List.append_assoc] at same
    obtain ⟨-, rests⟩ := first.append_inj second (delimited_bracket _) (delimited_comma _) same
    cases rests
  | _, _, _, _, _, _, .cons first _, .one second, same => by
    rw [List.append_assoc, List.append_assoc] at same
    obtain ⟨-, rests⟩ := first.append_inj second (delimited_comma _) (delimited_bracket _) same
    cases rests
  | _, _, _, _, _, _, .cons first others, .cons second others', same => by
    rw [List.append_assoc, List.append_assoc] at same
    obtain ⟨coincide, rests⟩ := first.append_inj second (delimited_comma _) (delimited_comma _) same
    obtain ⟨elements, rests⟩ :=
      others.append_inj others' (List.cons.inj (List.cons.inj rests).2).2
    exact ⟨.cons coincide elements, rests⟩

end

/-! ## Texts of plain values -/

/-- Written values are the elements of an array with the separators between them. -/
theorem writtenElements_of_mapM {vs : List Value} {texts : List String}
    (written : ∀ v ∈ vs, ∀ s, quoted h.display v = some s → h.Written v s.toList)
    (found : vs.mapM (quoted h.display) = some texts) :
    h.WrittenElements vs ((", ".intercalate texts).toList ++ [']']) := by
  rw [String.toList_intercalate]
  induction vs generalizing texts with
  | nil =>
    obtain rfl : [] = texts := Option.some.inj found
    exact .nil
  | cons v vs ih =>
    simp only [List.mapM_cons, Option.bind_eq_bind, Option.bind_eq_some_iff] at found
    obtain ⟨s, first, ts, others, made⟩ := found
    obtain rfl : s :: ts = texts := Option.some.inj made
    obtain ⟨here, written⟩ := List.forall_mem_cons.mp written
    have behind := ih written others
    cases vs with
    | nil =>
      obtain rfl : [] = ts := Option.some.inj others
      simpa using WrittenElements.one (here s first)
    | cons w vs =>
      simp only [List.mapM_cons, Option.bind_eq_bind, Option.bind_eq_some_iff] at others
      obtain ⟨t, -, us, -, made⟩ := others
      obtain rfl : t :: us = ts := Option.some.inj made
      have joined := WrittenElements.cons (here s first) behind
      simpa [List.intercalate_cons_cons] using joined

/-- The text of a plain value inside of an array is what is written for it. -/
theorem Plain.written (plain : h.Plain v) {s : String} (shown : quoted h.display v = some s) :
    h.Written v s.toList := by
  refine plain.acyclic.induction (motive := fun v => h.Plain v → ∀ s,
    quoted h.display v = some s → h.Written v s.toList) ?_ plain s shown
  intro v ih plain s shown
  cases v with
  | number n =>
    obtain rfl : n.text = s := Option.some.inj shown
    rw [Number.text, String.toList_ofList]
    exact .atom (.number n)
  | boolean b =>
    obtain rfl : boolText b = s := Option.some.inj shown
    cases b with
    | true => exact .atom .true_
    | false => exact .atom .false_
  | null =>
    obtain rfl : "null" = s := Option.some.inj shown
    exact .atom .null
  | string t =>
    obtain rfl : String.ofList (Text.Style.element.quote t.toList) = s := Option.some.inj shown
    rw [String.toList_ofList]
    exact .string (Text.escapedText_escape ..)
  | array i =>
    change h.display (.array i) = some s at shown
    rw [display_array] at shown
    obtain ⟨texts, found, rfl⟩ := Option.map_eq_some_iff.mp shown
    have elements := writtenElements_of_mapM
      (fun w holds t shown => ih w holds (plain.of_holds holds) t shown) found
    simpa using Written.array elements
  | object i => exact absurd rfl (plain.sorts _ .refl).1
  | function i => exact absurd rfl (plain.sorts _ .refl).2

/-- Values that coincide have the same text, and so they have inside of an array. -/
theorem Plain.display_eq_of_coincide (plain : h.Plain v) (coincide : Coincide h h' v w) :
    h.display v = h'.display w ∧ quoted h.display v = quoted h'.display w := by
  refine plain.acyclic.induction (motive := fun v => ∀ w, Coincide h h' v w →
    h.display v = h'.display w ∧ quoted h.display v = quoted h'.display w) ?_ w coincide
  intro v ih w coincide
  cases coincide with
  | @number x y same =>
    have texts : h.display (.number x) = h'.display (.number y) :=
      congrArg some (Number.text_eq_iff.mpr same)
    exact ⟨texts, texts⟩
  | string | boolean | null => exact ⟨rfl, rfl⟩
  | @array i j each =>
    have inner : List.Forall₂ (fun v w => quoted h.display v = quoted h'.display w)
        (h.elements i).toList (h'.elements j).toList :=
      forall₂_of_mem (fun v inside w coincide => (ih v inside w coincide).2) each
    have texts : h.display (.array i) = h'.display (.array j) := by
      rw [display_array, display_array, mapM_eq_of_forall₂ inner id]
    exact ⟨texts, texts⟩

/-- Two plain arrays have the same text just if they coincide. -/
theorem Plain.display_eq_iff {i j : Nat} (plain : h.Plain (.array i))
    (plain' : h'.Plain (.array j)) :
    h.display (.array i) = h'.display (.array j) ↔ Coincide h h' (.array i) (.array j) := by
  refine ⟨fun same => ?_, fun coincide => (plain.display_eq_of_coincide coincide).1⟩
  obtain ⟨s, shown⟩ := plain.exists_display
  have shown' : h'.display (.array j) = some s := same.symm.trans shown
  have ends : Delimited [] := nofun
  exact ((plain.written shown).append_inj (plain'.written shown') ends ends rfl).1

end Heap

/-! ## Names of properties -/

/-- A plain array has a text, which is the name of a property of every object.  Two of them name
the same property just if they coincide, on one heap or on two.  So what an object is given at one
array is read at another one if the two coincide, and otherwise what it had there before. -/
theorem array_names_collide_iff :
    (∀ (h h' : Heap) (i j : Nat), h.Plain (.array i) → h'.Plain (.array j) →
      ∃ s t, h.display (.array i) = some s ∧ h'.display (.array j) = some t ∧
        (∀ ref span, h.slot (.object ref) (.array i) span = .ok (.property ref s) ∧
          h'.slot (.object ref) (.array j) span = .ok (.property ref t)) ∧
        (s = t ↔ Heap.Coincide h h' (.array i) (.array j))) ∧
    ∀ (m : Machine) (i j : Nat), m.heap.Plain (.array i) → m.heap.Plain (.array j) →
      ∀ ref v span, m.heap.Has ⟨.object, ref⟩ → ∃ m',
        Action.writeSlot (.object ref) (.array i) v span m = .ok () m' ∧
        (Heap.Coincide m.heap m.heap (.array i) (.array j) →
          m'.heap.readSlot (.object ref) (.array j) = some v) ∧
        (¬ Heap.Coincide m.heap m.heap (.array i) (.array j) →
          m'.heap.readSlot (.object ref) (.array j) =
            m.heap.readSlot (.object ref) (.array j)) := by
  refine ⟨fun h h' i j plain plain' => ?_, fun m i j plain plain' ref v span there => ?_⟩
  · obtain ⟨s, shown⟩ := plain.exists_display
    obtain ⟨t, shown'⟩ := plain'.exists_display
    refine ⟨s, t, shown, shown', fun ref span => ⟨Heap.slot_of_apart (plain.apart ref) shown,
      Heap.slot_of_apart (plain'.apart ref) shown'⟩, ?_⟩
    rw [← plain.display_eq_iff plain', shown, shown', Option.some.injEq]
  · obtain ⟨s, shown⟩ := plain.exists_display
    have writes := Machine.writesProperty there s v
    have slot : m.heap.slot (.object ref) (.array i) span = .ok (.property ref s) :=
      Heap.slot_of_apart (plain.apart ref) shown
    refine ⟨_, writeSlot_eq_ok slot, fun coincide => ?_, fun unlike => ?_⟩
    · refine writes.read_at _ (plain'.apart ref) ?_
      exact ((plain.display_eq_iff plain').mpr coincide).symm.trans shown
    · refine writes.read_other _ (plain'.apart ref) fun same => unlike ?_
      exact (plain.display_eq_iff plain').mp (shown.trans same.symm)

/-- A string that looks like two of them is an element of its own.  A zero and what is no number
are found again by their texts. -/
theorem array_names_collide_iff_quoting :
    let h : Heap := ⟨#[], #[#[.string "a", .string "b"], #[.string "a\", \"b"],
      #[.number .nan, .number Number.zero.neg, .array 0],
      #[.number .nan, .number .zero, .array 4], #[.string "a", .string "b"]], #[[]], #[]⟩
    let m : Machine := ⟨h, Machine.globals, 0, #[]⟩
    (∃ s t, h.Plain (.array 0) ∧ h.Plain (.array 1) ∧ h.display (.array 0) = some s ∧
      h.display (.array 1) = some t ∧ s ≠ t) ∧
    ∃ m', h.Plain (.array 2) ∧ h.Plain (.array 3) ∧ h.Has ⟨.object, 0⟩ ∧
      Action.writeSlot (.object 0) (.array 2) (.boolean true) default m = .ok () m' ∧
      m'.heap.readSlot (.object 0) (.array 3) = some (.boolean true) := by
  intro h m
  have leaf {v : Value} (no_object : v.tag ≠ .object) (no_function : v.tag ≠ .function)
      (empty : h.inside v = []) : h.Plain v :=
    .of_inside no_object no_function (by rw [empty]; exact fun _ none_ => nomatch none_)
  have strings (s : String) : h.Plain (.string s) := leaf nofun nofun rfl
  have numbers (n : Number) : h.Plain (.number n) := leaf nofun nofun rfl
  have two (i : Nat) (elements : h.inside (.array i) = [.string "a", .string "b"]) :
      h.Plain (.array i) :=
    .of_inside nofun nofun (by rw [elements]; simp [strings])
  have one : h.Plain (.array 1) :=
    .of_inside nofun nofun (List.forall_mem_singleton.mpr (strings _))
  have outer (i j : Nat) (x : Number)
      (elements : h.inside (.array i) = [.number .nan, .number x, .array j])
      (inner : h.Plain (.array j)) : h.Plain (.array i) :=
    .of_inside nofun nofun (by rw [elements]; simp [numbers, inner])
  have left : h.Plain (.array 2) := outer 2 0 _ rfl (two 0 rfl)
  have right : h.Plain (.array 3) := outer 3 4 _ rfl (two 4 rfl)
  have unlike : ¬ h.Coincide h (.array 0) (.array 1) := by
    rintro (_ | _ | _ | _ | each)
    exact absurd each.length_eq (by decide)
  have coincide : h.Coincide h (.array 2) (.array 3) :=
    .array (.cons (.number (.inr ⟨by decide, by decide⟩)) (.cons (.number (.inl (by decide)))
      (.cons (.array (.cons (.string "a") (.cons (.string "b") .nil))) .nil)))
  obtain ⟨s, t, shown, shown', -, same⟩ := array_names_collide_iff.1 h h 0 1 (two 0 rfl) one
  obtain ⟨m', written, found, -⟩ := array_names_collide_iff.2 m 2 3 left right 0 (.boolean true)
    default Nat.zero_lt_one
  exact ⟨⟨s, t, two 0 rfl, one, shown, shown', mt same.mp unlike⟩,
    m', left, right, Nat.zero_lt_one, written, found coincide⟩

end Scriptlet
