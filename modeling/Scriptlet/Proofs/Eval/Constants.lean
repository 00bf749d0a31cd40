import Scriptlet.Proofs.Eval.Declaring
import Scriptlet.Proofs.Eval.Grounding

/-!
# Assignments to constants

An assignment to a constant always fails, and the constant keeps its value
(`constants_refuse_assignment`).  How it fails depends on the form of the assignment.  A plain
one fails because the name is constant.  One with an operator first applies the operator to the
value of the constant, and a step first asks for a number there.  If the operator does not take
its operands, that is what is reported, and not that the name is constant.

The right side of an assignment may run any code.  It declares nothing in the frames that are
there, so on a machine whose scope is there the name resolves to the constant afterwards too
(`resolves_after_evaluate`).
-/

open Scriptlet.Action Scriptlet.Evaluate

namespace Scriptlet

/-! ## Names that stay resolved -/

theorem Binding.Becomes.eq_of_constant {b b' : Binding} (becomes : b.Becomes b')
    (constant : b.isConstant = true) : b' = b := by
  obtain ⟨v, c, t⟩ := b'
  obtain rfl : c = b.isConstant := becomes.isConstant
  obtain rfl : t = b.type := becomes.type
  obtain rfl : v = b.value := becomes.constant constant
  rfl

namespace Heap

theorem bindingIn?_eq_none_iff {h : Heap} {frame : Nat} {name : String} :
    h.bindingIn? frame name = none ↔ name ∉ h.namesIn frame := by
  simp only [bindingIn?, namesIn, List.lookup_eq_none_iff, List.mem_map, bne_iff_ne, not_exists,
    not_and]
  exact ⟨fun other p inside same => other p inside same.symm,
    fun other p inside same => other p inside same.symm⟩

/-- In frames that are there a name stays resolved to what becomes of its binding. -/
theorem resolveIn_stays {h h' : Heap} (same : h.SameNames h') (evolves : h.Evolves h')
    {name : String} {frame : Nat} {b : Binding} {frames : List Nat}
    (there : ∀ f ∈ frames, f < h.frames.size)
    (found : h.resolveIn name frames = some (frame, b)) :
    ∃ b', h'.resolveIn name frames = some (frame, b') ∧ b.Becomes b' := by
  induction frames with
  | nil => cases found
  | cons first rest ih =>
    rw [resolveIn] at found ⊢
    rcases here : h.bindingIn? first name with _ | b₁
    · have still : h'.bindingIn? first name = none := by
        rw [bindingIn?_eq_none_iff] at here ⊢
        rwa [same.2 first (there first (.head _))]
      rw [here] at found
      rw [still]
      exact ih (fun f inside => there f (.tail _ inside)) found
    · obtain ⟨b₂, here', becomes⟩ := evolves first name b₁ here
      rw [here] at found
      cases found
      rw [here']
      exact ⟨b₂, rfl, becomes⟩

end Heap

/-- Evaluating an expression leaves the constant that a name resolves to. -/
theorem resolves_after_evaluate {m m' : Machine} (grounded : m.Grounded) {name : String}
    {frame : Nat} {b : Binding} (found : m.heap.resolve m.scope name = some (frame, b))
    (constant : b.isConstant = true) {fuel : Nat} {e : Expr} {v : Value}
    (evaluated : (perform fuel).evaluate e m = .ok v m') :
    m'.heap.resolve m'.scope name = some (frame, b) := by
  have left : (perform fuel (.evaluate e)).after m = m' := by
    unfold Performer.evaluate at evaluated
    rw [after, evaluated]
  have restores : m'.scope = m.scope :=
    left ▸ (perform_restores fuel (t := .evaluate e) trivial).1
  have same : m.heap.SameNames m'.heap := left ▸ (perform_adds fuel (.evaluate e) m).sameNames
  have evolves : m.heap.Evolves m'.heap := by
    have L := (Heap.lasting_evolves m.heap).upheld fun _ => True
    exact left ▸ L.after_perform (t := .evaluate e) (scoped_true _) fuel trivial trivial (.refl _)
  obtain ⟨b', found', becomes⟩ := Heap.resolveIn_stays same evolves grounded.scope found
  rw [Heap.resolve, restores, found', becomes.eq_of_constant constant]

/-! ## What an operator asks of the old value -/

namespace Heap

variable {h : Heap} {l r : Value} {span : Span}

/-- Addition takes two numbers, or a string and a text. -/
theorem exists_add_iff : (∃ w, h.applyBinary .add l r span = .ok w) ↔
    (l.tag = .number ∧ r.tag = .number) ∨
      ((l.tag = .string ∨ r.tag = .string) ∧ (h.display l).isSome ∧ (h.display r).isSome) := by
  unfold applyBinary
  rcases shown : h.display l with _ | a <;> rcases shown' : h.display r with _ | a' <;>
    cases l <;> cases r <;> simp_all [Value.tag]

/-- The rest of arithmetic takes two numbers. -/
theorem exists_arithmetic_iff {op : BinaryOp} (arithmetic : op ∈ [.sub, .mul, .div, .rem]) :
    (∃ w, h.applyBinary op l r span = .ok w) ↔ l.tag = .number ∧ r.tag = .number := by
  simp only [List.mem_cons, List.not_mem_nil, or_false] at arithmetic
  unfold applyBinary
  rcases arithmetic with rfl | rfl | rfl | rfl <;> cases l <;> cases r <;> simp [Value.tag]

/-- An operator that fails fails because of the types of its operands. -/
theorem type_of_applyBinary {op : BinaryOp} {f : Fault}
    (failed : h.applyBinary op l r span = .error (.fault f)) : ∃ t, f = .type t span := by
  unfold applyBinary at failed
  grind

end Heap

/-- The operands that the operator of an assignment takes: any for a plain assignment, a string
and a text or two numbers for addition, and two numbers for the others. -/
def AssignOp.Takes (h : Heap) (op : AssignOp) (old v : Value) : Prop :=
  match op with
  | .set => True
  | .add => (old.tag = .number ∧ v.tag = .number) ∨
      ((old.tag = .string ∨ v.tag = .string) ∧ (h.display old).isSome ∧ (h.display v).isSome)
  | .sub | .mul | .div | .rem => old.tag = .number ∧ v.tag = .number

/-- How an assignment to a constant halts: as its operator does, if that does not take the value
of the constant and the one of the right side, and otherwise because the name is constant. -/
def AssignOp.refusal (h : Heap) (op : AssignOp) (name : String) (old v : Value) (span : Span) :
    Halt :=
  match op.binary? with
  | none => .fault (.constant name span)
  | some binary =>
    match h.applyBinary binary old v span with
    | .ok _ => .fault (.constant name span)
    | .error e => e

/-- How a step of a constant fails: for the type of its value, if that is no number, and
otherwise because the name is constant. -/
def StepOp.refusal (op : StepOp) (name : String) (old : Value) (span : Span) : Fault :=
  match old with
  | .number _ => .constant name span
  | v => .type (.stepOperand op v.tag) span

namespace AssignOp

variable {h : Heap} {op : AssignOp} {binary : BinaryOp} {name : String} {old v : Value}
  {span : Span}

theorem refusal_plain (plain : op.binary? = none) :
    op.refusal h name old v span = .fault (.constant name span) := by
  rw [refusal, plain]

theorem refusal_of_ok {w : Value} (compound : op.binary? = some binary)
    (combined : h.applyBinary binary old v span = .ok w) :
    op.refusal h name old v span = .fault (.constant name span) := by
  simp only [refusal, compound, combined]

theorem refusal_of_error {e : Halt} (compound : op.binary? = some binary)
    (failed : h.applyBinary binary old v span = .error e) : op.refusal h name old v span = e := by
  simp only [refusal, compound, failed]

theorem takes_iff (span : Span) (compound : op.binary? = some binary) :
    op.Takes h old v ↔ ∃ w, h.applyBinary binary old v span = .ok w := by
  cases op with
  | set => cases compound
  | add =>
    cases compound
    exact Heap.exists_add_iff.symm
  | sub | mul | div | rem =>
    cases compound
    exact (Heap.exists_arithmetic_iff (by simp)).symm

/-- An assignment fails for the constant just if its operator takes the operands. -/
theorem refusal_eq_constant_iff :
    op.refusal h name old v span = .fault (.constant name span) ↔ op.Takes h old v := by
  rcases compound : op.binary? with _ | binary
  · obtain rfl : op = .set := by cases op <;> first | rfl | cases compound
    exact iff_of_true (refusal_plain compound) trivial
  · rw [takes_iff span compound]
    rcases outcome : h.applyBinary binary old v span with e | w
    · rw [refusal_of_error compound outcome]
      refine ⟨?_, nofun⟩
      rintro rfl
      obtain ⟨t, same⟩ := Heap.type_of_applyBinary outcome
      cases same
    · exact iff_of_true (refusal_of_ok compound outcome) ⟨w, rfl⟩

end AssignOp

theorem StepOp.refusal_eq_constant_iff {op : StepOp} {name : String} {old : Value}
    {span : Span} :
    op.refusal name old span = .constant name span ↔ old.tag = .number := by
  cases old <;> simp [refusal, Value.tag]

/-! ## Single steps -/

section

variable {m : Machine} {name : String} {frame : Nat} {b : Binding}
  (found : m.heap.resolve m.scope name = some (frame, b))

include found

theorem lookup_of_resolve (span : Span) : lookup name span m = .ok b.value m :=
  query_of_ok (by rw [Heap.lookup, found]; rfl)

theorem current_of_resolve (op : AssignOp) (span : Span) :
    current op (lookup name span) m = .ok (op.binary?.map fun _ => b.value) m := by
  unfold current
  rcases op.binary? with _ | binary
  · rfl
  · exact bind_of_ok (lookup_of_resolve found span) _

variable (constant : b.isConstant = true)

include constant

theorem assign_constant (v : Value) (span : Span) :
    Action.assign name v span m = .error (.fault (.constant name span)) m := by
  have refused : m.heap.assignFrame m.scope name v span = .error (.constant name span) := by
    rw [Heap.assignFrame, found]
    exact if_pos constant
  rw [Action.assign, refused]

/-- Counting a constant up or down. -/
theorem count_constant (op : StepOp) (s : Span) (inFront : Bool) (span : Span) :
    count op (.identifier name s) inFront span m =
      .error (.fault (op.refusal name b.value span)) m := by
  refine (bind_of_ok (lookup_of_resolve found s) _).trans ?_
  rcases b.value with n | _ | _ | _ | _ | _ | _
  · exact bind_of_error (assign_constant found constant _ span) _
  all_goals rfl

/-- Combining the value of a constant with another one, and assigning the result. -/
theorem assign_combined (op : AssignOp) (v : Value) (span : Span) :
    (do
      let new ← combine op (op.binary?.map fun _ => b.value) v span
      Action.assign name new span
      return new : Action Value) m = .error (op.refusal m.heap name b.value v span) m := by
  unfold combine
  rcases compound : op.binary? with _ | binary
  · rw [op.refusal_plain compound]
    exact bind_of_error (assign_constant found constant v span) _
  · rcases outcome : m.heap.applyBinary binary b.value v span with e | w
    · have halted : applyBinary binary b.value v span m = .error e m := by
        rw [applyBinary, query, outcome]
      rw [op.refusal_of_error compound outcome]
      exact bind_of_error halted _
    · have combined : applyBinary binary b.value v span m = .ok w m := query_of_ok outcome
      rw [op.refusal_of_ok compound outcome]
      exact (bind_of_ok combined _).trans (bind_of_error (assign_constant found constant w span) _)

end

/-! ## Assignments -/

/-- Where a name resolves to a constant, every assignment to it fails, once its right side has
been evaluated, and the name still resolves to the constant with its value.  It fails because
the name is constant if and only if it is plain or its operator takes the operands.  A step
fails because the name is constant if and only if the constant is a number.  In all other
cases the types of the operands are blamed. -/
theorem constants_refuse_assignment (m : Machine) (visited : m.VisitedGrounded) (name : String)
    (frame : Nat) (b : Binding) (found : m.heap.resolve m.scope name = some (frame, b))
    (constant : b.isConstant = true) :
    (∀ (fuel : Nat) (op : AssignOp) (value : Expr) (v : Value) (m' : Machine) (s span : Span),
      (perform fuel).evaluate value m = .ok v m' →
      m'.heap.resolve m'.scope name = some (frame, b) ∧
      (perform (fuel + 1)).evaluate (.assign op (.identifier name s) value span) m =
        .error (op.refusal m'.heap name b.value v span) m' ∧
      (op.refusal m'.heap name b.value v span = .fault (.constant name span) ↔
        op.Takes m'.heap b.value v)) ∧
    ∀ (fuel : Nat) (op : StepOp) (s span : Span),
      (perform (fuel + 1)).evaluate (.unary (.step op) (.identifier name s) span) m =
        .error (.fault (op.refusal name b.value span)) m ∧
      (perform (fuel + 1)).evaluate (.stepAfter op (.identifier name s) span) m =
        .error (.fault (op.refusal name b.value span)) m ∧
      (op.refusal name b.value span = .constant name span ↔ b.value.tag = .number) := by
  refine ⟨fun fuel op value v m' s span evaluated => ?_, fun fuel op s span => ?_⟩
  · have found' := resolves_after_evaluate visited.grounded found constant evaluated
    refine ⟨found', ?_, AssignOp.refusal_eq_constant_iff⟩
    show assignTo (perform fuel) op (.identifier name s) value span m = _
    refine (bind_of_ok (current_of_resolve found op s) _).trans ?_
    refine (bind_of_ok evaluated _).trans ?_
    exact assign_combined found' constant op v span
  · exact ⟨count_constant found constant op s true span,
      count_constant found constant op s false span, StepOp.refusal_eq_constant_iff⟩

/-- The machine after a string has been bound to `s` as a constant. -/
def Machine.withConstant : Machine :=
  ((Request.run ⟨[.constant "s" none (.string "a" default) default]⟩).serve (perform 3)).after
    Machine.initial

/-- A session comes to that machine. -/
theorem Machine.visited_withConstant : Machine.withConstant.VisitedGrounded :=
  .reached (.serve 3 _ .initial)

/-- The constant keeps its string.  What adds to it fails for the constant, and what subtracts
from it or counts it down fails for the string. -/
theorem constants_refuse_assignment_string :
    ∃ m : Machine, m.VisitedGrounded ∧
      m.heap.resolve m.scope "s" = some (0, ⟨.string "a", true, none⟩) ∧
      (perform 2).evaluate (.assign .set (.identifier "s" default) (.boolean true default) default)
        m = .error (.fault (.constant "s" default)) m ∧
      (perform 2).evaluate (.assign .add (.identifier "s" default) (.boolean true default) default)
        m = .error (.fault (.constant "s" default)) m ∧
      (perform 2).evaluate (.assign .sub (.identifier "s" default) (.boolean true default) default)
        m = .error (.fault (.type (.arithmetic .sub .string .boolean) default)) m ∧
      (perform 1).evaluate (.unary (.step .decrement) (.identifier "s" default) default) m =
        .error (.fault (.type (.stepOperand .decrement .string) default)) m := by
  let m := Machine.withConstant
  have found : m.heap.resolve m.scope "s" = some (0, ⟨.string "a", true, none⟩) := by decide
  have evaluated : (perform 1).evaluate (.boolean true default) m = .ok (.boolean true) m := rfl
  obtain ⟨assigned, stepped⟩ :=
    constants_refuse_assignment m Machine.visited_withConstant "s" 0 _ found rfl
  refine ⟨m, Machine.visited_withConstant, found, ?_, ?_, ?_, ?_⟩
  · exact (assigned 1 .set _ _ m default default evaluated).2.1
  · exact (assigned 1 .add _ _ m default default evaluated).2.1
  · exact (assigned 1 .sub _ _ m default default evaluated).2.1
  · exact (stepped 0 .decrement default default).1

/-- A step of a constant and an assignment with an operator to it fail for other reasons than
that it is constant. -/
theorem constants_fail_for_types :
    ∃ (m : Machine) (b : Binding), m.VisitedGrounded ∧
      m.heap.resolve m.scope "s" = some (0, b) ∧ b.isConstant = true ∧
      (perform 1).evaluate (.boolean true default) m = .ok (.boolean true) m ∧
      (perform 2).evaluate (.assign .sub (.identifier "s" default) (.boolean true default) default)
        m ≠ .error (.fault (.constant "s" default)) m ∧
      (perform 1).evaluate (.stepAfter .increment (.identifier "s" default) default) m ≠
        .error (.fault (.constant "s" default)) m := by
  refine ⟨Machine.withConstant, ⟨.string "a", true, none⟩, Machine.visited_withConstant, by decide,
    rfl, rfl, fun same => ?_, fun same => ?_⟩
  · cases same
  · cases same

end Scriptlet
