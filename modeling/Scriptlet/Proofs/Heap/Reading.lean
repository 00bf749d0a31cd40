import Scriptlet.Heap.Operator
import Scriptlet.Heap.Scope
import Scriptlet.Heap.Slot
import Scriptlet.Proofs.Heap.Cell
import Scriptlet.Proofs.Heap.Depth

/-!
# Reading heaps that are alike

On heaps whose cells stand for each other, values that are alike have the same
text and compare in the same way, names resolve to bindings that are alike, and
slots hold what is alike.  What is refused on one heap is refused on the other
one, for the same reason.

Text, comparison and slots do not ask where a function was made, so they need less:
arrays and objects that are alike, and functions of the same names
(`Heap.Readable`).

Comparing two references asks whether they are the same, and so does looking for
the object that is written to in a key.  For both the pairing has to be
one-to-one.  The two heaps may be of different sizes.  Text and equality do not
depend on that, since the depth that a heap is looked into is always enough
(`Heap.displayWithin_eq_display`, `Heap.equalWithin_eq_equal`).
-/

namespace Scriptlet

/-! ## Outcomes -/

/-- Results that are related, or the same refusal, which may blame another span. -/
inductive Checked (σ : Span → Span → Prop) {α β : Type} (Q : α → β → Prop) :
    Except Halt α → Except Halt β → Prop
  | ok {a : α} {b : β} : Q a b → Checked σ Q (.ok a) (.ok b)
  | fault (f : Fault) {s : Span} : f.isEscape = false → σ f.span s →
    Checked σ Q (.error (.fault f)) (.error (.fault (f.at s)))
  | crash (c : Crash) : Checked σ Q (.error (.crash c)) (.error (.crash c))
  | endless : Checked σ Q (.error .endless) (.error .endless)

/-- No result but a refusal, if there is one. -/
def Halt.ofRefusal : Option Fault → Except Halt Unit
  | some f => .error (.fault f)
  | none => .ok ()

/-- No refusal means that nothing is refused. -/
theorem eq_none_of_ofRefusal {o : Option Fault} {u : Unit} (h : Halt.ofRefusal o = .ok u) :
    o = none := by
  cases o with
  | none => rfl
  | some f => cases h

theorem eq_ok_of_ofExcept {α : Type} {e : Except Fault α} {a : α} (h : Halt.ofExcept e = .ok a) :
    e = .ok a := by
  cases e with
  | error f => cases h
  | ok b =>
    cases h
    rfl

theorem Checked.ofOption {σ : Span → Span → Prop} {α β : Type} {Q : α → β → Prop}
    {o : Option α} {o' : Option β} (h : Option.Rel Q o o') :
    Checked σ Q (Halt.ofOption o) (Halt.ofOption o') := by
  cases h with
  | none => exact .endless
  | some related => exact .ok related

/-! ## Lists that are related -/

section

variable {α β γ : Type} {R : α → β → Prop}

/-- Lists are related if they are at each place. -/
theorem forall₂_iff_getElem? {as : List α} {bs : List β} :
    List.Forall₂ R as bs ↔ ∀ i : Nat, Option.Rel R as[i]? bs[i]? := by
  constructor
  · intro h
    induction h with
    | nil => exact fun _ => .none
    | cons first _ ih =>
      rintro (_ | i)
      · exact .some first
      · exact ih i
  · intro h
    induction as generalizing bs with
    | nil =>
      cases bs with
      | nil => exact .nil
      | cons => nomatch h 0
    | cons a as ih =>
      cases bs with
      | nil => nomatch h 0
      | cons b bs =>
        have first : Option.Rel R (some a) (some b) := h 0
        cases first with
        | some related => exact .cons related (ih fun i => h (i + 1))

/-- A traversal by functions that agree on what is related. -/
theorem mapM_eq_of_forall₂ {f : α → Option γ} {g : β → Option γ} {as : List α} {bs : List β}
    (h : List.Forall₂ R as bs) (same : ∀ {a b}, R a b → f a = g b) : as.mapM f = bs.mapM g := by
  induction h with
  | nil => rfl
  | cons related _ ih => rw [List.mapM_cons, List.mapM_cons, same related, ih]

/-- A search goes through lists that are related alike. -/
theorem anyM_eq_of_forall₂ {f : α → Option Bool} {g : β → Option Bool} {as : List α} {bs : List β}
    (h : List.Forall₂ R as bs) (same : ∀ {a b}, R a b → f a = g b) : as.anyM f = bs.anyM g := by
  induction h with
  | nil => rfl
  | cons related _ ih => rw [List.anyM_cons, List.anyM_cons, same related, ih]

/-- Lists that are related compare alike. -/
theorem equalLists_eq_of_forall₂ {f : α → α → Option Bool} {g : β → β → Option Bool}
    (same : ∀ {a a' b b'}, R a b → R a' b' → f a a' = g b b') {as as' : List α}
    {bs bs' : List β} (h : List.Forall₂ R as bs) (h' : List.Forall₂ R as' bs') :
    equalLists f as as' = equalLists g bs bs' := by
  induction h generalizing as' bs' with
  | nil => cases h' <;> rfl
  | cons related _ ih =>
    cases h' with
    | nil => rfl
    | cons related' rest' => rw [equalLists, equalLists, same related related', ih rest']

end

/-- Properties with the same names are found together. -/
theorem lookup_alike {ρ : Pairing} {ps ps' : Properties}
    (h : List.Forall₂ (Property.Alike ρ) ps ps') (key : String) :
    Option.Rel (Value.Alike ρ) (Properties.get? key ps) (Properties.get? key ps') := by
  unfold Properties.get?
  induction h with
  | nil => exact .none
  | @cons p p' _ _ same _ ih =>
    obtain ⟨name, v⟩ := p
    obtain ⟨name', v'⟩ := p'
    obtain ⟨rfl, alike⟩ := same
    rw [lookup_cons_ite, lookup_cons_ite]
    split
    next => exact .some alike
    next => exact ih

theorem Value.Alike.getD {ρ : Pairing} {o o' : Option Value}
    (h : Option.Rel (Value.Alike ρ) o o') : (o.getD .null).Alike ρ (o'.getD .null) := by
  cases h with
  | none => exact .null
  | some alike => exact alike

namespace Heap

variable {F : Function → Function → Prop} {ρ : Pairing} {h h' : Heap}

/-- References that stand for each other lead to arrays and objects that are alike, and to
functions of the same name. -/
structure Readable (ρ : Pairing) (h h' : Heap) : Prop where
  arrays : ∀ {i j : Nat}, ρ ⟨.array, i⟩ ⟨.array, j⟩ →
    List.Forall₂ (Value.Alike ρ) (h.elements i).toList (h'.elements j).toList
  objects : ∀ {i j : Nat}, ρ ⟨.object, i⟩ ⟨.object, j⟩ →
    List.Forall₂ (Property.Alike ρ) (h.properties i) (h'.properties j)
  names : ∀ {i j : Nat}, ρ ⟨.function, i⟩ ⟨.function, j⟩ →
    (h.callable i).name = (h'.callable j).name

/-- What can be read on one heap can be read on the other one. -/
theorem Paired.readable (names : ∀ {f f'}, F f f' → f.name = f'.name)
    (alike : h.Paired F ρ h') : h.Readable ρ h' where
  arrays := alike.arrays
  objects := alike.objects
  names related := (alike.functions related).related.name_eq names

/-! ## Text -/

section

variable (alike : h.Readable ρ h')

include alike

/-- Values that are alike have the same text to any depth. -/
theorem displayWithin_eq (n : Nat) : ∀ {v v' : Value}, v.Alike ρ v' →
    h.displayWithin n v = h'.displayWithin n v' := by
  have text : ∀ {i j : Nat}, ρ ⟨.function, i⟩ ⟨.function, j⟩ →
      (h.functions.getD i default).text = (h'.functions.getD j default).text := by
    intro i j related
    unfold Callable.text
    rw [← callable, ← callable, alike.names related]
  induction n with
  | zero =>
    intro v v' related
    cases related with
    | function related => exact congrArg some (text related)
    | number | string | boolean | null | array | object => rfl
  | succ n ih =>
    have element : ∀ {v v' : Value}, v.Alike ρ v' →
        quoted (h.displayWithin n) v = quoted (h'.displayWithin n) v' := by
      intro v v' related
      cases related with
      | string => rfl
      | number n => exact ih (.number n)
      | boolean b => exact ih (.boolean b)
      | null => exact ih .null
      | array related => exact ih (.array related)
      | object related => exact ih (.object related)
      | function related => exact ih (.function related)
    intro v v' related
    cases related with
    | array related =>
      rw [displayWithin_array, displayWithin_array,
        mapM_eq_of_forall₂ (alike.arrays related) element]
    | object related =>
      rw [displayWithin_object, displayWithin_object,
        mapM_eq_of_forall₂ (alike.objects related) ?_]
      rintro p p' ⟨same, inner⟩
      rw [propertyText, propertyText, same, element inner]
    | function related => exact congrArg some (text related)
    | number | string | boolean | null => rfl

/-- Values that are alike have the same text, or both have none. -/
theorem display_eq {v v' : Value} (related : v.Alike ρ v') : h.display v = h'.display v' := by
  have deep : h.containers < h.containers + h'.containers + 1 := by omega
  have deep' : h'.containers < h.containers + h'.containers + 1 := by omega
  rw [← h.displayWithin_eq_display deep, ← h'.displayWithin_eq_display deep']
  exact displayWithin_eq alike _ related

end

section

variable (one : ρ.OneToOne) (alike : h.Readable ρ h')

include alike

/-! ## Looking for an object -/

/-- Values that are alike hold values that are alike. -/
theorem inside_alike {v v' : Value} (related : v.Alike ρ v') :
    List.Forall₂ (Value.Alike ρ) (h.inside v) (h'.inside v') := by
  cases related with
  | array related => exact alike.arrays related
  | object related =>
    refine List.forall₂_map_left_iff.mpr (List.forall₂_map_right_iff.mpr ?_)
    exact (alike.objects related).imp fun _ _ same => same.2
  | number | string | boolean | null | function => exact .nil

include one

/-- Values that are alike come to objects that are paired alike, to any depth. -/
theorem comesToWithin_eq {i j : Nat} (objects : ρ ⟨.object, i⟩ ⟨.object, j⟩) (n : Nat) :
    ∀ {v v' : Value}, v.Alike ρ v' → h.comesToWithin i n v = h'.comesToWithin j n v' := by
  induction n with
  | zero => exact fun _ => rfl
  | succ n ih =>
    intro v v' related
    have there : v = .object i ↔ v' = .object j := by
      cases related with
      | object related => simp only [Value.object.injEq, one.ref_eq_iff related objects]
      | number | string | boolean | null | array | function => exact ⟨nofun, nofun⟩
    rw [comesToWithin, comesToWithin, anyM_eq_of_forall₂ (inside_alike alike related) ih]
    simp only [there]

/-- Displays of values that are alike come to the same objects. -/
theorem comesTo_eq_of_alike {i j : Nat} (objects : ρ ⟨.object, i⟩ ⟨.object, j⟩) {v v' : Value}
    (related : v.Alike ρ v') : h.comesTo i v = h'.comesTo j v' := by
  have deep : h.containers < h.containers + h'.containers + 1 := by omega
  have deep' : h'.containers < h.containers + h'.containers + 1 := by omega
  rw [← h.comesToWithin_eq_comesTo deep, ← h'.comesToWithin_eq_comesTo deep']
  exact comesToWithin_eq one alike objects _ related

/-! ## Equality -/

omit alike in
/-- Lists that are related compare by their lengths and by whether they are the same. -/
theorem compareContents_eq {α β : Type} {R : α → β → Prop} {s : CellSort} {i i' j j' : Nat}
    (related : ρ ⟨s, i⟩ ⟨s, j⟩) (related' : ρ ⟨s, i'⟩ ⟨s, j'⟩) {as as' : List α} {bs bs' : List β}
    (contents : List.Forall₂ R as bs) (contents' : List.Forall₂ R as' bs')
    {c d : Option Bool} (same : c = d) :
    compareContents (i = i') as as' c = compareContents (j = j') bs bs' d := by
  unfold compareContents
  rw [same, contents.length_eq, contents'.length_eq]
  simp only [one.ref_eq_iff related related']

/-- Values that are alike compare alike to any depth. -/
theorem equalWithin_eq (n : Nat) : ∀ {a a' b b' : Value}, a.Alike ρ b → a'.Alike ρ b' →
    h.equalWithin n a a' = h'.equalWithin n b b' := by
  induction n with
  | zero =>
    intro a a' b b' related related'
    cases related with
    | array r =>
      cases related' with
      | array r' =>
        exact compareContents_eq one r r' (alike.arrays r) (alike.arrays r') rfl
      | _ => rfl
    | object r =>
      cases related' with
      | object r' =>
        exact compareContents_eq one r r' (alike.objects r) (alike.objects r') rfl
      | _ => rfl
    | function r =>
      cases related' with
      | function r' =>
        exact congrArg some (decide_eq_decide.mpr (one.ref_eq_iff r r'))
      | _ => rfl
    | _ => cases related' <;> rfl
  | succ n ih =>
    have property : ∀ {p p' q q' : String × Value}, Property.Alike ρ p q → Property.Alike ρ p' q' →
        equalProperties (h.equalWithin n) p p' = equalProperties (h'.equalWithin n) q q' := by
      rintro p p' q q' ⟨name, value⟩ ⟨name', value'⟩
      rw [equalProperties, equalProperties, name, name', ih value value']
    intro a a' b b' related related'
    cases related with
    | array r =>
      cases related' with
      | array r' =>
        have contents :=
          equalLists_eq_of_forall₂ (R := Value.Alike ρ) ih (alike.arrays r) (alike.arrays r')
        exact compareContents_eq one r r' (alike.arrays r) (alike.arrays r') contents
      | _ => rfl
    | object r =>
      cases related' with
      | object r' =>
        have contents := equalLists_eq_of_forall₂ (R := Property.Alike ρ) property
          (alike.objects r) (alike.objects r')
        exact compareContents_eq one r r' (alike.objects r) (alike.objects r') contents
      | _ => rfl
    | function r =>
      cases related' with
      | function r' =>
        exact congrArg some (decide_eq_decide.mpr (one.ref_eq_iff r r'))
      | _ => rfl
    | _ => cases related' <;> rfl

/-- Values that are alike compare in the same way. -/
theorem equal_eq {a a' b b' : Value} (related : a.Alike ρ b) (related' : a'.Alike ρ b') :
    h.equal a a' = h'.equal b b' := by
  let depth := h.containers * h.containers + h'.containers * h'.containers + 1
  have deep : h.containers * h.containers < depth := by omega
  have deep' : h'.containers * h'.containers < depth := by omega
  rw [← h.equalWithin_eq_equal deep, ← h'.equalWithin_eq_equal deep']
  exact equalWithin_eq one alike _ related related'

end

/-! ## Names -/

/-- Frames that are related in a given way, with bindings that are alike. -/
def FoundAlike (W : Nat → Nat → Prop) (ρ : Pairing) (p q : Nat × Binding) : Prop :=
  W p.1 q.1 ∧ p.2.Alike ρ q.2

/-- A name resolves to frames that stand for each other and bindings that are alike. -/
theorem resolve_alike (alike : h.Paired F ρ h') {s s' : Scope} (scopes : s.Alike ρ s')
    (name : String) :
    Option.Rel (FoundAlike (fun i j => ρ ⟨.frame, i⟩ ⟨.frame, j⟩) ρ) (h.resolve s name)
      (h'.resolve s' name) := by
  unfold resolve
  unfold Scope.Alike at scopes
  generalize s.frames = frames at scopes ⊢
  generalize s'.frames = frames' at scopes ⊢
  induction scopes with
  | nil => exact .none
  | @cons i j _ _ related _ ih =>
    have first := alike.frames related name
    simp only [resolveIn]
    revert first
    generalize h.bindingIn? i name = left
    generalize h'.bindingIn? j name = right
    intro first
    cases first with
    | none => exact ih
    | some binding => exact .some ⟨related, binding⟩

section

variable {σ : Span → Span → Prop} {t t' : Span} (spans : σ t t')

include spans

/-- A type takes both values or neither. -/
theorem checkType_checked (name : String) (type : Option TypeName) {v v' : Value}
    (values : v.Alike ρ v') :
    Checked σ (fun _ _ => True) (Halt.ofExcept (checkType name type v t))
      (Halt.ofExcept (checkType name type v' t')) := by
  unfold checkType
  cases type with
  | none => exact .ok trivial
  | some expected =>
    simp only [values.satisfies_eq, values.tag_eq]
    split
    next => exact .ok trivial
    next => exact .fault (.mismatch name expected v'.tag t) rfl spans

/-- A name may be declared in both frames or in neither. -/
theorem declareFault?_checked {s s' : Scope} {name : String}
    (bound : Option.Rel (Binding.Alike ρ) (h.bindingIn? s.own name) (h'.bindingIn? s'.own name)) :
    Checked σ (fun _ _ => True) (Halt.ofRefusal (h.declareFault? s name t))
      (Halt.ofRefusal (h'.declareFault? s' name t')) := by
  unfold declareFault?
  split
  next => exact .fault (.reserved name t) rfl spans
  next =>
    revert bound
    generalize h.bindingIn? s.own name = left
    generalize h'.bindingIn? s'.own name = right
    intro bound
    cases bound with
    | none => exact .ok trivial
    | some => exact .fault (.duplicate name t) rfl spans

variable {W : Nat → Nat → Prop} {s s' : Scope} {name : String}
  (resolved : Option.Rel (FoundAlike W ρ) (h.resolve s name) (h'.resolve s' name))

include resolved

/-- Names that mean bindings that are alike are looked up alike. -/
theorem lookup_checked :
    Checked σ (Value.Alike ρ) (Halt.ofExcept (h.lookup s name t))
      (Halt.ofExcept (h'.lookup s' name t')) := by
  unfold Heap.lookup
  revert resolved
  generalize h.resolve s name = left
  generalize h'.resolve s' name = right
  intro resolved
  cases resolved with
  | none => exact .fault (.undeclared name t) rfl spans
  | some found => exact .ok found.2.value

/-- Names are assigned to in frames that are related, or on neither side. -/
theorem assignFrame_checked {v v' : Value} (values : v.Alike ρ v') :
    Checked σ W (Halt.ofExcept (h.assignFrame s name v t))
      (Halt.ofExcept (h'.assignFrame s' name v' t')) := by
  unfold assignFrame
  revert resolved
  generalize h.resolve s name = left
  generalize h'.resolve s' name = right
  intro resolved
  cases resolved with
  | none => exact .fault (.undeclared name t) rfl spans
  | @some p q found =>
    obtain ⟨i, b⟩ := p
    obtain ⟨j, b'⟩ := q
    obtain ⟨related, binding⟩ : W i j ∧ b.Alike ρ b' := found
    have accepted := checkType_checked spans name b'.type values
    simp only [binding.isConstant, binding.type]
    by_cases constant : b'.isConstant = true
    · simp only [if_pos constant]
      exact .fault (.constant name t) rfl spans
    · simp only [if_neg constant]
      revert accepted
      generalize checkType name b'.type v t = left
      generalize checkType name b'.type v' t' = right
      intro accepted
      cases left with
      | ok =>
        cases right with
        | ok => exact .ok related
        | error => nomatch accepted
      | error e =>
        cases right with
        | ok => nomatch accepted
        | error e' =>
          cases accepted with
          | fault _ plain spans => exact .fault e plain spans

end

/-! ## Slots -/

/-- The same place in containers that stand for each other. -/
inductive SlotAlike (ρ : Pairing) : Slot → Slot → Prop
  | element {i j : Nat} (index : Nat) :
    ρ ⟨.array, i⟩ ⟨.array, j⟩ → SlotAlike ρ (.element i index) (.element j index)
  | property {i j : Nat} (name : String) :
    ρ ⟨.object, i⟩ ⟨.object, j⟩ → SlotAlike ρ (.property i name) (.property j name)

theorem SlotAlike.eq {s s' : Slot} (h : SlotAlike Eq s s') : s = s' := by
  cases h with
  | element _ same | property _ same =>
    cases same
    rfl

section

variable (alike : h.Readable ρ h') {c c' k k' : Value} (containers : c.Alike ρ c')
  (keys : k.Alike ρ k')

include alike containers keys

/-- Slots of containers that are paired read as values that are alike. -/
theorem readSlot_alike :
    Option.Rel (Value.Alike ρ) (h.readSlot c k) (h'.readSlot c' k') := by
  cases containers with
  | @array i j related =>
    have elements := alike.arrays related
    cases keys with
    | number n =>
      refine .some (Value.Alike.getD ?_)
      cases n.toNat? with
      | none => exact .none
      | some place =>
        have at_place := forall₂_iff_getElem?.mp elements place
        rwa [Array.getElem?_toList, Array.getElem?_toList] at at_place
    | string key =>
      have size : (h.elements i).size = (h'.elements j).size := elements.length_eq
      simp only [readSlot, size]
      split
      next => exact .some (.number _)
      next => exact .some .null
    | boolean | null | array | object | function => exact .some .null
  | object related =>
    simp only [readSlot, display_eq alike keys]
    cases h'.display k' with
    | none => exact .none
    | some key => exact .some (Value.Alike.getD (lookup_alike (alike.objects related) key))
  | string text =>
    cases keys with
    | number n =>
      simp only [readSlot]
      cases n.toNat? with
      | none => exact .some .null
      | some place =>
        simp only [Option.bind_some]
        cases text.toList[place]? with
        | none => exact .some .null
        | some c => exact .some (.string _)
    | string key =>
      simp only [readSlot]
      split
      next => exact .some (.number _)
      next => exact .some .null
    | boolean | null | array | object | function => exact .some .null
  | number | boolean | null | function => exact .some .null

variable {σ : Span → Span → Prop} {t t' : Span} (spans : σ t t')

include spans

/-- Containers that are paired have slots that are alike for keys that are.  Of an object this
needs a pairing that is one to one: a key holds the object on one side just if it does on the
other one. -/
theorem slot_checked (one : ρ.OneToOne) :
    Checked σ (SlotAlike ρ) (h.slot c k t) (h'.slot c' k' t') := by
  have shows := display_eq alike keys
  have place {i j : Nat} (related : ρ ⟨.array, i⟩ ⟨.array, j⟩) (index : Nat) :
      Checked σ (SlotAlike ρ)
        (if index < indexBound then .ok (.element i index) else .error (.crash .capacity))
        (if index < indexBound then .ok (.element j index) else .error (.crash .capacity)) := by
    split
    next => exact .ok (.element index related)
    next => exact .crash .capacity
  cases containers with
  | @array i j related =>
    cases keys with
    | number n =>
      simp only [slot]
      cases n.toNat? with
      | none => exact .fault (.type (.arrayIndex _) t) rfl spans
      | some index => exact place related index
    | string | boolean | null | array | object | function =>
      simp only [slot, shows]
      cases h'.display _ with
      | none => exact .endless
      | some text => exact .fault (.type (.arrayIndex text) t) rfl spans
  | object related =>
    simp only [slot, comesTo_eq_of_alike one alike related keys, shows]
    split
    next => exact .crash .borrowed
    next =>
      cases h'.display k' with
      | none => exact .endless
      | some text => exact .ok (.property text related)
  | number | string | boolean | null | function =>
    simp only [slot, shows]
    cases h'.display k' with
    | none => exact .endless
    | some text => exact .fault (.type (.container text _) t) rfl spans

end

/-! ## Operators -/

/-- An operator takes both pairs of operands or neither. -/
theorem applyBinary_checked (one : ρ.OneToOne) (alike : h.Readable ρ h') (op : BinaryOp)
    {l l' r r' : Value} (left : l.Alike ρ l') (right : r.Alike ρ r') {σ : Span → Span → Prop}
    {t t' : Span} (spans : σ t t') :
    Checked σ (Value.Alike ρ) (h.applyBinary op l r t) (h'.applyBinary op l' r' t') := by
  have refused : ∀ fault : TypeFault, Checked σ (Value.Alike ρ)
      (.error (.fault (.type fault t))) (.error (.fault (.type fault t'))) :=
    fun fault => .fault (.type fault t) rfl spans
  cases op with
  | add =>
    have shows := display_eq alike left
    have shows' := display_eq alike right
    simp only [applyBinary, shows, shows']
    cases left with
    | number =>
      cases right with
      | number => exact .ok (.number _)
      | string =>
        dsimp only
        split
        next => exact .ok (.string _)
        next => exact .endless
      | boolean | null | array | object | function => exact refused _
    | string =>
      dsimp only
      split
      next => exact .ok (.string _)
      next => exact .endless
    | boolean | null | array | object | function =>
      cases right with
      | string =>
        dsimp only
        split
        next => exact .ok (.string _)
        next => exact .endless
      | number | boolean | null | array | object | function => exact refused _
  | sub | mul | div | rem =>
    cases left with
    | number =>
      cases right with
      | number => exact .ok (.number _)
      | string | boolean | null | array | object | function => exact refused _
    | string | boolean | null | array | object | function =>
      simp only [applyBinary, right.tag_eq]
      exact refused _
  | eq | ne =>
    simp only [applyBinary, equal_eq one alike left right]
    cases h'.equal l' r' with
    | none => exact .endless
    | some => exact .ok (.boolean _)
  | lt | le | gt | ge =>
    cases left with
    | number =>
      cases right with
      | number => exact .ok (.boolean _)
      | string | boolean | null | array | object | function => exact refused _
    | string =>
      cases right with
      | string => exact .ok (.boolean _)
      | number | boolean | null | array | object | function => exact refused _
    | boolean | null | array | object | function =>
      simp only [applyBinary, right.tag_eq]
      exact refused _
  | and =>
    simp only [applyBinary, left.isTruthy_eq]
    split
    next => exact .ok right
    next => exact .ok left
  | or =>
    simp only [applyBinary, left.isTruthy_eq]
    split
    next => exact .ok left
    next => exact .ok right

end Heap

end Scriptlet
