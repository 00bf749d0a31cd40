import Scriptlet.Proofs.Eval.Simulation
import Scriptlet.Proofs.Eval.Typing
import Scriptlet.Proofs.Heap.Writing

/-!
# Machines side by side

Two machines that start out alike stay alike (`simulation_twin`), for any pairing
of their cells that is one-to-one.  Beyond that, they print the same lines, and a
cell that stands for no other one, and that no other one stands for, stays as it
was at the start.

The scopes have to be alike where names are looked up.  Outside of a call they
may be related in any other way (`callers_twin`).
-/

open Scriptlet.Action Scriptlet.Evaluate

namespace Scriptlet

/-! ## The function that prints -/

namespace Heap

/-- The first function ever made prints, and the root scope binds `print` to it for good. -/
structure Prints (h : Heap) : Prop where
  binding : h.bindingIn? 0 Builtin.print.name = some ⟨.function 0, true, none⟩
  builtin : h.functions[0]? = some (.builtin .print)

namespace Prints

variable {h h' : Heap}

/-- The function that prints stays where it is as long as its binding may only evolve. -/
theorem evolves (prints : h.Prints) (evolves : h.Evolves h')
    (functions : h'.functions[0]? = h.functions[0]?) : h'.Prints where
  binding := by
    obtain ⟨⟨v, isConstant, type⟩, found, becomes⟩ := evolves _ _ _ prints.binding
    have same_value := becomes.constant rfl
    have same_constant := becomes.isConstant
    have same_type := becomes.type
    simp only at same_value same_constant same_type
    subst same_value same_constant same_type
    exact found
  builtin := functions.trans prints.builtin

theorem has (prints : h.Prints) : h.Has ⟨.function, 0⟩ :=
  (Array.getElem?_eq_some_iff.mp prints.builtin).1

theorem contents (prints : h.Prints) :
    h.contents ⟨.function, 0⟩ = .function (.builtin .print) := by
  simp only [Heap.contents, callable, Array.getD_eq_getD_getElem?, prints.builtin]
  rfl

/-- More functions change nothing. -/
theorem getElem?_append (prints : h.Prints) (new : Array Callable) :
    (h.functions ++ new)[0]? = h.functions[0]? :=
  Array.getElem?_append_left prints.has

/-- The name of the function that prints means it in the outermost scope. -/
theorem lookup (prints : h.Prints) (span : Span) :
    h.lookup Machine.globals Builtin.print.name span = .ok (.function 0) := by
  simp only [Heap.lookup, resolve, Scope.frames, Machine.globals, resolveIn, prints.binding]

end Prints

theorem prints_initial : Machine.initial.heap.Prints := ⟨rfl, rfl⟩

/-- No change to a heap loses the function that prints. -/
theorem lasting_prints : Lasting Prints where
  bind prints free sound := prints.evolves ((lasting_evolves _).bind (.refl _) free sound) rfl
  rebind prints found := prints.evolves ((lasting_evolves _).rebind (.refl _) found) rfl
  newArray _ prints := prints.evolves (.congr rfl (.refl _)) rfl
  newObject _ prints := prints.evolves (.congr rfl (.refl _)) rfl
  newClosure _ _ prints := prints.evolves (.congr rfl (.refl _)) (prints.getElem?_append #[_])
  setSlot := by
    intro h container key span s v prints _
    exact prints.evolves (.congr (frames_setSlot h s v) (.refl _)) (by cases s <;> rfl)
  newEnclosed outer prints := prints.evolves (evolves_newEnclosed _ outer) rfl

theorem Prints.supplies {h h' : Heap} (prints : h.Prints) (supplies : h.Supplies h') :
    h'.Prints := by
  obtain ⟨new, functions⟩ := supplies.functions
  refine prints.evolves (.congr supplies.frames (.refl _)) ?_
  rw [functions]
  exact prints.getElem?_append new

end Heap

/-- The function that prints is there in all of a session. -/
theorem Machine.Reached.prints {m : Machine} (reached : m.Reached) : m.heap.Prints := by
  induction reached with
  | refl => exact Heap.prints_initial
  | serve fuel r _ ih => exact Heap.lasting_prints.after_serve fuel r ih
  | supply _ supplies ih => exact ih.supplies supplies

/-! ## Twins -/

/-- Two heaps that are alike, with all cells that stand for no others as they were at the
start. -/
structure Heap.Twin (F : Function → Function → Prop) (ρ : Pairing) (h₀ h₀' h h' : Heap) :
    Prop where
  alike : h.Alike F ρ h'
  kept : ∀ c, (∀ d, ¬ ρ c d) → h₀.SameAt h c
  kept' : ∀ d, (∀ c, ¬ ρ c d) → h₀'.SameAt h' d
  prints : h.Prints
  prints' : h'.Prints

/-- Two machines on twin heaps that have printed the same lines since the start, in scopes
that are related in a given way. -/
structure Machine.Twin (K : Likeness) (ρ : Pairing) (S : Scope → Scope → Prop)
    (m₀ m₀' m m' : Machine) : Prop where
  heap : Heap.Twin K.function ρ m₀.heap m₀'.heap m.heap m'.heap
  scope : S m.scope m'.scope
  depth : m.depth = m'.depth
  output : ∃ lines, m.output = m₀.output ++ lines ∧ m'.output = m₀'.output ++ lines

/-- A machine is a twin of itself if its functions are like themselves. -/
theorem Machine.twin_self {K : Likeness} {m : Machine}
    (alike : m.heap.Alike K.function Eq m.heap) (prints : m.heap.Prints) :
    m.Twin K Eq (Scope.Alike Eq) m m m where
  heap := ⟨alike, fun c alone => absurd rfl (alone c), fun c alone => absurd rfl (alone c),
    prints, prints⟩
  scope := .refl m.scope
  depth := rfl
  output := ⟨#[], by simp, by simp⟩

namespace Heap.Twin

variable {F : Function → Function → Prop} {ρ : Pairing} {h₀ h₀' h h' h₁ h₁' : Heap}

/-- Twins are read alike. -/
theorem readable {K : Likeness} (twin : Heap.Twin K.function ρ h₀ h₀' h h') : h.Readable ρ h' :=
  twin.alike.toPaired.readable fun related => (K.function_parallel related).name

/-- Putting what is alike into cells that stand for each other. -/
theorem put (one : ρ.OneToOne) (twin : Heap.Twin F ρ h₀ h₀' h h') {c d : Cell}
    (related : ρ c d) {x y : Contents} (contents : x.Alike F ρ y) (left : h.Puts c x h₁)
    (right : h'.Puts d y h₁') (prints : h₁.Prints) (prints' : h₁'.Prints) :
    Heap.Twin F ρ h₀ h₀' h₁ h₁' where
  alike := twin.alike.put one related contents left right
  kept e alone := by
    have other : e ≠ c := by
      rintro rfl
      exact alone d related
    exact (twin.kept e alone).trans (left.sameAt other)
  kept' e alone := by
    have other : e ≠ d := by
      rintro rfl
      exact alone c related
    exact (twin.kept' e alone).trans (right.sameAt other)
  prints := prints
  prints' := prints'

variable (one : ρ.OneToOne) (twin : Heap.Twin F ρ h₀ h₀' h h')

include one twin

theorem newArray {vs vs' : List Value} (values : List.Forall₂ (Value.Alike ρ) vs vs') :
    Heap.Twin F ρ h₀ h₀' (h.newArray vs.toArray).2 (h'.newArray vs'.toArray).2 :=
  twin.put one (twin.alike.fresh .array 0) (.array values) (h.puts_newArray vs)
    (h'.puts_newArray vs') (lasting_prints.newArray _ twin.prints)
    (lasting_prints.newArray _ twin.prints')

theorem newObject {ps ps' : Properties} (properties : List.Forall₂ (Property.Alike ρ) ps ps') :
    Heap.Twin F ρ h₀ h₀' (h.newObject ps).2 (h'.newObject ps').2 :=
  twin.put one (twin.alike.fresh .object 0) (.object properties) (h.puts_newObject ps)
    (h'.puts_newObject ps') (lasting_prints.newObject _ twin.prints)
    (lasting_prints.newObject _ twin.prints')

theorem newClosure {f f' : Function} {s s' : Scope} (functions : F f f') (scopes : s.Alike ρ s') :
    Heap.Twin F ρ h₀ h₀' (h.newFunction (.closure f s)).2 (h'.newFunction (.closure f' s')).2 :=
  twin.put one (twin.alike.fresh .function 0) (.function (.closure functions scopes))
    (h.puts_newFunction _) (h'.puts_newFunction _) (lasting_prints.newClosure f s twin.prints)
    (lasting_prints.newClosure f' s' twin.prints')

/-- Twins stay twins if each gets a new frame.  So they do with anything else that is new. -/
theorem newEnclosed (outer outer' : Scope) :
    Heap.Twin F ρ h₀ h₀' (h.newEnclosed outer).2 (h'.newEnclosed outer').2 :=
  twin.put one (twin.alike.fresh .frame 0) (.frame fun _ => .none) (h.puts_newEnclosed outer)
    (h'.puts_newEnclosed outer') (lasting_prints.newEnclosed outer twin.prints)
    (lasting_prints.newEnclosed outer' twin.prints')

/-- A name that is free in frames that are paired may be bound in both. -/
theorem bind {i j : Nat} (related : ρ ⟨.frame, i⟩ ⟨.frame, j⟩) (name : String) {b b' : Binding}
    (bindings : b.Alike ρ b') (unbound : h.bindingIn? i name = none)
    (unbound' : h'.bindingIn? j name = none) :
    Heap.Twin F ρ h₀ h₀' (h.bind i name b) (h'.bind j name b') := by
  by_cases inside : h.Has ⟨.frame, i⟩
  · have inside' : h'.Has ⟨.frame, j⟩ := (twin.alike.has related).mp inside
    refine twin.put one related (.frame fun n => ?_) (puts_bind inside name b)
      (puts_bind inside' name b') (twin.prints.evolves (evolves_bind b unbound) rfl)
      (twin.prints'.evolves (evolves_bind b' unbound') rfl)
    split
    next => exact .some bindings
    next => exact twin.alike.frames related n
  · have outside' : ¬ h'.Has ⟨.frame, j⟩ := mt (twin.alike.has related).mpr inside
    rw [bind_of_not_has inside, bind_of_not_has outside']
    exact twin

/-- A binding may be changed in frames that are paired if both changes are allowed. -/
theorem rebind {i j : Nat} (related : ρ ⟨.frame, i⟩ ⟨.frame, j⟩) (name : String) {v v' : Value}
    (values : v.Alike ρ v') (evolves : h.Evolves (h.rebind i name v))
    (evolves' : h'.Evolves (h'.rebind j name v')) :
    Heap.Twin F ρ h₀ h₀' (h.rebind i name v) (h'.rebind j name v') := by
  by_cases inside : h.Has ⟨.frame, i⟩
  · have inside' : h'.Has ⟨.frame, j⟩ := (twin.alike.has related).mp inside
    refine twin.put one related (.frame fun n => ?_) (puts_rebind inside name v)
      (puts_rebind inside' name v') (twin.prints.evolves evolves rfl)
      (twin.prints'.evolves evolves' rfl)
    have same := twin.alike.frames related n
    split
    next => exact rebind_alike same values
    next => exact same
  · have outside' : ¬ h'.Has ⟨.frame, j⟩ := mt (twin.alike.has related).mpr inside
    rw [rebind_of_not_has inside, rebind_of_not_has outside']
    exact twin

/-- Slots that are alike may be set to values that are alike. -/
theorem setSlot {s s' : Slot} (slots : SlotAlike ρ s s') {v v' : Value} (values : v.Alike ρ v') :
    Heap.Twin F ρ h₀ h₀' (h.setSlot s v) (h'.setSlot s' v') := by
  cases slots with
  | @element i j index related =>
    by_cases inside : h.Has ⟨.array, i⟩
    · have inside' : h'.Has ⟨.array, j⟩ := (twin.alike.has related).mp inside
      exact twin.put one related
        (.array (setElement_alike (twin.alike.arrays related) index values))
        (puts_element inside index v) (puts_element inside' index v')
        (twin.prints.evolves (.congr rfl (.refl _)) rfl)
        (twin.prints'.evolves (.congr rfl (.refl _)) rfl)
    · have outside' : ¬ h'.Has ⟨.array, j⟩ := mt (twin.alike.has related).mpr inside
      rw [setSlot_element_of_not_has inside, setSlot_element_of_not_has outside']
      exact twin
  | @property i j key related =>
    by_cases inside : h.Has ⟨.object, i⟩
    · have inside' : h'.Has ⟨.object, j⟩ := (twin.alike.has related).mp inside
      exact twin.put one related (.object (insert_alike (twin.alike.objects related) values))
        (puts_property inside key v) (puts_property inside' key v')
        (twin.prints.evolves (.congr rfl (.refl _)) rfl)
        (twin.prints'.evolves (.congr rfl (.refl _)) rfl)
    · have outside' : ¬ h'.Has ⟨.object, j⟩ := mt (twin.alike.has related).mpr inside
      rw [setSlot_property_of_not_has inside, setSlot_property_of_not_has outside']
      exact twin

end Heap.Twin

/-! ## Actions -/

section

variable {K : Likeness} {R : Machine → Machine → Prop} {α β γ δ : Type} {Q : α → β → Prop}

/-- Reading what is related. -/
theorem acts_query {f : Heap → Scope → Except Halt α} {g : Heap → Scope → Except Halt β}
    (same : ∀ m m' : Machine, R m m' →
      Checked K.span Q (f m.heap m.scope) (g m'.heap m'.scope)) :
    Acts K R Q (query f) (query g) := by
  intro m m' related
  have outcome := same m m' related
  unfold query
  revert outcome
  generalize f m.heap m.scope = left
  generalize g m'.heap m'.scope = right
  intro outcome
  cases outcome with
  | ok alike => exact .ok alike related
  | fault f plain spans => exact .error (.fault (K.fails_of_not_isEscape plain) spans) related
  | crash c => exact .error (.crash c) related
  | endless => exact .error .endless related

/-- A change that is made where a check lets it through. -/
def guarded (check : Heap → Scope → Except Halt γ) (change : Machine → γ → Machine) :
    Action Unit := fun m =>
  match check m.heap m.scope with
  | .error e => .error e m
  | .ok x => .ok () (change m x)

/-- A change behind a check.  Twins pass it together, and are twins after the change. -/
theorem acts_guarded {P : γ → δ → Prop} {check : Heap → Scope → Except Halt γ}
    {check' : Heap → Scope → Except Halt δ} {change : Machine → γ → Machine}
    {change' : Machine → δ → Machine}
    (same : ∀ m m' : Machine, R m m' →
      Checked K.span P (check m.heap m.scope) (check' m'.heap m'.scope))
    (keeps : ∀ m m' : Machine, R m m' → ∀ x y, check m.heap m.scope = .ok x →
      check' m'.heap m'.scope = .ok y → P x y → R (change m x) (change' m' y)) :
    Acts K R Anyway (guarded check change) (guarded check' change') := by
  intro m m' related
  have outcome := same m m' related
  have kept := keeps m m' related
  unfold guarded
  revert outcome kept
  generalize check m.heap m.scope = left
  generalize check' m'.heap m'.scope = right
  intro outcome kept
  cases outcome with
  | ok alike => exact .ok trivial (kept _ _ rfl rfl alike)
  | fault f plain spans => exact .error (.fault (K.fails_of_not_isEscape plain) spans) related
  | crash c => exact .error (.crash c) related
  | endless => exact .error .endless related

end

/-- A declaration is such a change. -/
theorem declare_eq_guarded (name : String) (b : Binding) (span : Span) :
    Action.declare name b span =
      guarded (fun h s => Halt.ofRefusal (h.declareFault? s name span))
        fun m _ => { m with heap := m.heap.bind m.scope.own name b } := by
  funext m
  simp only [Action.declare, guarded]
  cases m.heap.declareFault? m.scope name span <;> rfl

theorem assign_eq_guarded (name : String) (v : Value) (span : Span) :
    Action.assign name v span =
      guarded (fun h s => Halt.ofExcept (h.assignFrame s name v span))
        fun m frame => { m with heap := m.heap.rebind frame name v } := by
  funext m
  simp only [Action.assign, guarded]
  cases m.heap.assignFrame m.scope name v span <;> rfl

theorem writeSlot_eq_guarded (container key v : Value) (span : Span) :
    Action.writeSlot container key v span =
      guarded (fun h _ => h.slot container key span)
        fun m s => { m with heap := m.heap.setSlot s v } := by
  funext m
  simp only [Action.writeSlot, guarded]
  cases m.heap.slot container key span <;> rfl

/-! ## Twins as a simulation -/

section

variable {K : Likeness} {ρ : Pairing} (one : ρ.OneToOne) (m₀ m₀' : Machine)

include one

/-- The steps of a call keep machines twins, whatever their scopes. -/
theorem callers_twin (S : Scope → Scope → Prop) :
    Callers K ρ (Scope.Alike ρ) (Machine.Twin K ρ (Scope.Alike ρ) m₀ m₀')
      (Machine.Twin K ρ S m₀ m₀') where
  callable related := acts_query fun m m' twin => .ok (twin.heap.alike.functions related).related
  emitValue value := by
    refine .bind (acts_query (Q := Eq) fun m m' twin => ?_) fun {text _} same => ?_
    · rw [Heap.display_eq twin.heap.readable value]
      cases m'.heap.display _ with
      | none => exact .endless
      | some text => exact .ok rfl
    · subst same
      intro m m' twin
      obtain ⟨lines, output, output'⟩ := twin.output
      refine .ok trivial ⟨twin.heap, twin.scope, twin.depth, lines.push text, ?_, ?_⟩
      · change m.output.push text = _
        rw [output, Array.append_push]
      · change m'.output.push text = _
        rw [output', Array.append_push]
  enclosed := by
    intro α β Q s s' a b scopes acts
    have make : Acts K (Machine.Twin K ρ S m₀ m₀') (Scope.Alike ρ) (newEnclosed s)
        (newEnclosed s') :=
      fun m m' twin => .ok (.cons (twin.heap.alike.fresh .frame 0) scopes)
        ⟨twin.heap.newEnclosed one s s', twin.scope, twin.depth, twin.output⟩
    refine .bind make fun inner => .within ?_ ?_ acts
    · exact fun twin => ⟨twin.heap, inner, twin.depth, twin.output⟩
    · exact fun outside twin => ⟨twin.heap, outside.scope, twin.depth, twin.output⟩
  nested spans acts :=
    .nested spans (fun twin => twin.depth)
      (fun g twin => ⟨twin.heap, twin.scope, congrArg g twin.depth, twin.output⟩) acts

/-- All steps of the machine keep machines twins in scopes that are alike. -/
theorem simulation_twin (print : ρ ⟨.function, 0⟩ ⟨.function, 0⟩) :
    Simulation K ρ (Scope.Alike ρ) (Machine.Twin K ρ (Scope.Alike ρ) m₀ m₀') :=
  { callers_twin one m₀ m₀' (Scope.Alike ρ) with
    lookup := fun name spans => acts_query fun m m' twin =>
      Heap.lookup_checked spans (Heap.resolve_alike twin.heap.alike.toPaired twin.scope name)
    lookupPrint := fun spans => acts_query fun m m' twin => by
      rw [twin.heap.prints.lookup, twin.heap.prints'.lookup]
      exact .ok (.function print)
    declare := by
      intro b b' s s' name bindings spans
      rw [declare_eq_guarded, declare_eq_guarded]
      refine acts_guarded (fun m m' twin =>
        Heap.declareFault?_checked spans (twin.heap.alike.frames twin.scope.own name)) ?_
      intro m m' twin _ _ free free' _
      have unbound := Heap.bindingIn?_of_declareFault? (eq_none_of_ofRefusal free)
      have unbound' := Heap.bindingIn?_of_declareFault? (eq_none_of_ofRefusal free')
      exact ⟨twin.heap.bind one twin.scope.own name bindings unbound unbound', twin.scope,
        twin.depth, twin.output⟩
    assign := by
      intro v v' s s' name values spans
      rw [assign_eq_guarded, assign_eq_guarded]
      refine acts_guarded (fun m m' twin =>
        Heap.assignFrame_checked spans
          (Heap.resolve_alike twin.heap.alike.toPaired twin.scope name) values) ?_
      intro m m' twin i j found found' related
      obtain ⟨b, bound, accepts⟩ := Heap.accepts_of_assignFrame (eq_ok_of_ofExcept found)
      obtain ⟨b', bound', accepts'⟩ := Heap.accepts_of_assignFrame (eq_ok_of_ofExcept found')
      exact ⟨twin.heap.rebind one related name values (Heap.evolves_rebind bound accepts)
        (Heap.evolves_rebind bound' accepts'), twin.scope, twin.depth, twin.output⟩
    newArray := fun values m m' twin => .ok (.array (twin.heap.alike.fresh .array 0))
      ⟨twin.heap.newArray one values, twin.scope, twin.depth, twin.output⟩
    newObject := fun properties m m' twin => .ok (.object (twin.heap.alike.fresh .object 0))
      ⟨twin.heap.newObject one properties, twin.scope, twin.depth, twin.output⟩
    newClosure := fun related m m' twin => .ok (.function (twin.heap.alike.fresh .function 0))
      ⟨twin.heap.newClosure one related twin.scope, twin.scope, twin.depth,
        twin.output⟩
    readSlot := fun containers keys => acts_query fun m m' twin =>
      .ofOption (Heap.readSlot_alike twin.heap.readable containers keys)
    writeSlot := by
      intro c c' k k' v v' s s' containers keys values spans
      rw [writeSlot_eq_guarded, writeSlot_eq_guarded]
      refine acts_guarded (fun m m' twin =>
        Heap.slot_checked twin.heap.readable containers keys spans one) ?_
      intro m m' twin _ _ _ _ slots
      exact ⟨twin.heap.setSlot one slots values, twin.scope, twin.depth, twin.output⟩
    applyBinary := fun op left right spans => acts_query fun m m' twin =>
      Heap.applyBinary_checked one twin.heap.readable op left right spans
    scope := acts_query fun m m' twin => .ok twin.scope }

end

end Scriptlet
