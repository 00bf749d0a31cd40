import Scriptlet.Proofs.Eval.Fuel
import Scriptlet.Proofs.Eval.Printing

/-!
# What short forms of assignment stand for

An assignment with an operator is short for a plain one whose right side applies the operator
to the target, and a step of a variable is short for adding one to it or subtracting one
(`short_forms_expand`).  The long form evaluates the target twice, and the right side, which
may run any code, stands between reading the target and writing it in both forms.  So the two
agree where evaluating the target changes nothing.

A *plain* expression is made of names and literals with groupings, members and indexes.
With enough fuel to come down to its names it is a query of the machine
(`exists_query_of_isPlain`), and asking the same query twice is the same as asking it once.
-/

open Scriptlet.Action Scriptlet.Evaluate

namespace Scriptlet

/-! ## Plain expressions -/

/-- Names and literals, and groupings, members and indexes of plain expressions. -/
def Expr.isPlain : Expr → Bool
  | .number _ _ | .string _ _ | .boolean _ _ | .null _ | .identifier _ _ => true
  | .group e _ => e.isPlain
  | .member o _ _ => o.isPlain
  | .index o k _ => o.isPlain && k.isPlain
  | _ => false

/-- How many levels evaluation goes down in a plain expression. -/
def Expr.height : Expr → Nat
  | .group e _ => e.height + 1
  | .member o _ _ => o.height + 1
  | .index o k _ => max o.height k.height + 1
  | _ => 1

namespace Action

/-- Queries one after the other are a query. -/
theorem query_bind {α β : Type} (f : Heap → Scope → Except Halt α)
    (g : α → Heap → Scope → Except Halt β) :
    (query f >>= fun v => query (g v)) = query fun h s => f h s >>= fun v => g v h s := by
  funext m
  cases asked : f m.heap m.scope with
  | error e =>
    have halted : query f m = .error e m := by rw [query, asked]
    rw [bind_of_error halted, query, asked]
    rfl
  | ok v =>
    rw [bind_of_ok (query_of_ok asked), query, query, asked]
    rfl

/-- To ask twice is to ask once. -/
theorem query_twice {α β : Type} (f : Heap → Scope → Except Halt α) (k : α → α → Action β) :
    (query f >>= fun v => query f >>= k v) = query f >>= fun v => k v v := by
  funext m
  cases asked : f m.heap m.scope with
  | error e =>
    have halted : query f m = .error e m := by rw [query, asked]
    rw [bind_of_error halted, bind_of_error halted]
  | ok v =>
    have answered : query f m = .ok v m := query_of_ok asked
    rw [bind_of_ok answered, bind_of_ok answered, bind_of_ok answered]

/-- Two queries are one for a pair. -/
theorem query_pair {α β γ : Type} (f : Heap → Scope → Except Halt α)
    (g : Heap → Scope → Except Halt β) (k : α × β → Action γ) :
    (query f >>= fun v => query g >>= fun w => k (v, w)) =
      query (fun h s => f h s >>= fun v => g h s >>= fun w => .ok (v, w)) >>= k := by
  have paired (v : α) : (query g >>= fun w => (pure (v, w) : Action (α × β))) =
      query fun h s => g h s >>= fun w => .ok (v, w) :=
    query_bind g fun w _ _ => .ok (v, w)
  rw [← query_bind f, bind_assoc]
  simp only [← paired, bind_assoc, pure_bind]

end Action

theorem evaluate_succ (fuel : Nat) (e : Expr) :
    (perform (fuel + 1)).evaluate e = expression (perform fuel) e := rfl

/-- Evaluating a plain expression is a query, once there is fuel to come down to its names. -/
theorem exists_query_of_isPlain : ∀ {e : Expr}, e.isPlain = true →
    ∃ f : Heap → Scope → Except Halt Value,
      ∀ fuel, e.height ≤ fuel → (perform fuel).evaluate e = query f
  | .number n _, _ => ⟨fun _ _ => .ok (.number n), fun | _ + 1, _ => rfl⟩
  | .string s _, _ => ⟨fun _ _ => .ok (.string s), fun | _ + 1, _ => rfl⟩
  | .boolean b _, _ => ⟨fun _ _ => .ok (.boolean b), fun | _ + 1, _ => rfl⟩
  | .null _, _ => ⟨fun _ _ => .ok .null, fun | _ + 1, _ => rfl⟩
  | .identifier name s, _ =>
    ⟨fun h scope => Halt.ofExcept (h.lookup scope name s), fun | _ + 1, _ => rfl⟩
  | .group e _, plain => by
    obtain ⟨f, asks⟩ := exists_query_of_isPlain (e := e) plain
    exact ⟨f, fun | fuel + 1, le => asks fuel (Nat.le_of_succ_le_succ le)⟩
  | .member o property _, plain => by
    obtain ⟨f, asks⟩ := exists_query_of_isPlain (e := o) plain
    refine ⟨fun h s => f h s >>= fun v => Halt.ofOption (h.readSlot v (.string property)), ?_⟩
    rintro (_ | fuel) le
    · cases le
    · rw [evaluate_succ, expression, asks fuel (Nat.le_of_succ_le_succ le)]
      exact query_bind f _
  | .index o k _, plain => by
    rw [Expr.isPlain, Bool.and_eq_true] at plain
    obtain ⟨f, asks⟩ := exists_query_of_isPlain plain.1
    obtain ⟨g, asks'⟩ := exists_query_of_isPlain plain.2
    refine ⟨fun h s => f h s >>= fun v => g h s >>= fun w => Halt.ofOption (h.readSlot v w), ?_⟩
    rintro (_ | fuel) le
    · cases le
    · have below : max o.height k.height ≤ fuel := Nat.le_of_succ_le_succ le
      have inner (v : Value) := query_bind g fun w h _ => Halt.ofOption (h.readSlot v w)
      rw [evaluate_succ, expression, asks fuel (by omega), asks' fuel (by omega)]
      exact (congrArg (query f >>= ·) (funext inner)).trans (query_bind f _)

/-! ## Assignments with an operator -/

/-- What an assignment with an operator stands for: a plain assignment whose right side applies
the operator to a copy of the target. -/
def Expr.expansion (binary : BinaryOp) (target value : Expr) (span : Span) : Expr :=
  .assign .set target (.binary binary target value span) span

section

variable {op : AssignOp} {binary : BinaryOp} (compound : op.binary? = some binary)

include compound

/-- The operator of an assignment evaluates both operands. -/
theorem expression_binary_of_compound (p : Performer) (l r : Expr) (span : Span) :
    expression p (.binary binary l r span) =
      p.evaluate l >>= fun v => p.evaluate r >>= fun w => applyBinary binary v w span := by
  cases op <;> cases compound <;> rfl

theorem current_of_compound (read : Action Value) :
    current op read = read >>= fun v => return some v := by
  rw [current, compound]

theorem combine_of_compound (old v : Value) (span : Span) :
    combine op (some old) v span = applyBinary binary old v span := by
  simp only [combine, compound]

theorem assignSlot_of_compound (p : Performer) (container key : Value) (value : Expr)
    (span : Span) :
    assignSlot p op container key value span =
      readSlot container key >>= fun old => p.evaluate value >>= fun v =>
        applyBinary binary old v span >>= fun new =>
          writeSlot container key new span >>= fun _ => return new := by
  simp only [assignSlot, current_of_compound compound, combine_of_compound compound, bind_assoc,
    pure_bind]

end

theorem assignSlot_plain (p : Performer) (container key : Value) (value : Expr) (span : Span) :
    assignSlot p .set container key value span =
      p.evaluate value >>= fun v => writeSlot container key v span >>= fun _ => return v := rfl

/-- A plain target with a slot asks for the container and the key, and then reads the slot or
assigns to it. -/
theorem exists_place_of_isPlain {target : Expr} (assignable : target.isAssignable = true)
    (plain : target.isPlain = true) (slotted : ∀ name s, target ≠ .identifier name s) :
    ∃ place : Heap → Scope → Except Halt (Value × Value), ∀ fuel, target.height ≤ fuel →
      (perform fuel).evaluate target = (query place >>= fun slot => readSlot slot.1 slot.2) ∧
      ∀ (op : AssignOp) (value : Expr) (span : Span),
        assignTo (perform fuel) op target value span =
          query place >>= fun slot => assignSlot (perform fuel) op slot.1 slot.2 value span := by
  cases target with
  | identifier name s => exact absurd rfl (slotted name s)
  | member o property s =>
    obtain ⟨f, asks⟩ := exists_query_of_isPlain (e := o) plain
    have paired {γ : Type} (k : Value × Value → Action γ) :
        (query f >>= fun v => k (v, .string property)) =
          query (fun h s => f h s >>= fun v => .ok (v, .string property)) >>= k :=
      query_pair f (fun _ _ => .ok (Value.string property)) k
    refine ⟨fun h s => f h s >>= fun v => .ok (v, .string property), ?_⟩
    rintro (_ | fuel) enough
    · cases enough
    · have lower : o.height ≤ fuel := Nat.le_of_succ_le_succ enough
      rw [evaluate_succ, expression, asks fuel lower]
      refine ⟨paired fun slot => readSlot slot.1 slot.2, fun op value span => ?_⟩
      rw [assignTo, asks (fuel + 1) (by omega)]
      exact paired fun slot => assignSlot (perform (fuel + 1)) op slot.1 slot.2 value span
  | index o k s =>
    rw [Expr.isPlain, Bool.and_eq_true] at plain
    obtain ⟨f, asks⟩ := exists_query_of_isPlain plain.1
    obtain ⟨g, asks'⟩ := exists_query_of_isPlain plain.2
    refine ⟨fun h s => f h s >>= fun v => g h s >>= fun w => .ok (v, w), ?_⟩
    rintro (_ | fuel) enough
    · cases enough
    · have lower : max o.height k.height ≤ fuel := Nat.le_of_succ_le_succ enough
      rw [evaluate_succ, expression, asks fuel (by omega), asks' fuel (by omega)]
      refine ⟨query_pair f g fun slot => readSlot slot.1 slot.2, fun op value span => ?_⟩
      rw [assignTo, asks (fuel + 1) (by omega), asks' (fuel + 1) (by omega)]
      exact query_pair f g fun slot =>
        assignSlot (perform (fuel + 1)) op slot.1 slot.2 value span
  | number | string | boolean | null | group | array | object | function | call | unary
  | stepAfter | binary | conditional | assign => cases assignable

/-- The short form and the long one have the same outcome, with fuel to come down to the names in
the target. -/
theorem evaluate_expansion {op : AssignOp} {binary : BinaryOp}
    (compound : op.binary? = some binary) {target value : Expr}
    (assignable : target.isAssignable = true) (plain : target.isPlain = true) (span : Span)
    {fuel : Nat} (enough : target.height ≤ fuel) :
    (perform (fuel + 2)).evaluate (.expansion binary target value span) =
      (perform (fuel + 1)).evaluate (.assign op target value span) := by
  have strict : (perform (fuel + 1)).evaluate (.binary binary target value span) = _ :=
    expression_binary_of_compound compound (perform fuel) target value span
  rw [evaluate_succ, evaluate_succ, Expr.expansion, expression, expression]
  by_cases named : ∃ name s, target = .identifier name s
  · obtain ⟨name, s, rfl⟩ := named
    obtain _ | below := fuel
    · cases enough
    have read : (perform (below + 1)).evaluate (.identifier name s) = lookup name s := rfl
    simp only [assignTo, strict, read, current_of_compound compound,
      combine_of_compound compound, bind_assoc, pure_bind]
    rfl
  · simp only [not_exists] at named
    obtain ⟨place, reaches⟩ := exists_place_of_isPlain assignable plain named
    -- The long form asks for the slot to write to, and then once more for the one to read.
    rw [(reaches (fuel + 1) (by omega)).2, (reaches fuel enough).2]
    simp only [assignSlot_plain, assignSlot_of_compound compound, strict, (reaches fuel enough).1,
      bind_assoc]
    exact query_twice place _

/-! ## Steps -/

/-- What is added to a variable instead of a step: `1` or `(-1)`. -/
def StepOp.addend (span : Span) : StepOp → Expr
  | .increment => .number .one span
  | .decrement => .group (.unary .negate (.number .one span) span) span

theorem evaluate_addend (op : StepOp) (span : Span) (fuel : Nat) (m : Machine) :
    (perform (fuel + 3)).evaluate (op.addend span) m = .ok (.number op.delta) m := by
  cases op <;> rfl

section

variable {m : Machine} {name : String} {s : Span} {n : Number}
  (bound : lookup name s m = .ok (.number n) m)

include bound

/-- A step in front of a variable adds to it. -/
theorem evaluate_step (op : StepOp) (place span : Span) (fuel : Nat) :
    (perform (fuel + 4)).evaluate (.unary (.step op) (.identifier name s) span) m =
      (perform (fuel + 4)).evaluate (.assign .add (.identifier name s) (op.addend place) span)
        m := by
  have stored : (perform (fuel + 4)).evaluate
      (.unary (.step op) (.identifier name s) span) m =
      (Action.assign name (.number (n.add op.delta)) span >>= fun _ =>
        return .number (n.add op.delta)) m := bind_of_ok bound _
  have old : current .add (lookup name s) m = .ok (some (.number n)) m := bind_of_ok bound _
  have summed : combine .add (some (.number n)) (.number op.delta) span m =
      .ok (.number (n.add op.delta)) m := rfl
  refine stored.trans (Eq.symm ?_)
  show assignTo (perform (fuel + 3)) .add (.identifier name s) (op.addend place) span m = _
  refine (bind_of_ok old _).trans ?_
  refine (bind_of_ok (evaluate_addend op place fuel m) _).trans ?_
  exact bind_of_ok summed _

/-- A step behind a variable does what the one in front of it does, and gives the old value. -/
theorem evaluate_stepAfter (op : StepOp) (span : Span) (fuel : Nat) :
    (perform (fuel + 1)).evaluate (.stepAfter op (.identifier name s) span) m =
      ((perform (fuel + 1)).evaluate (.unary (.step op) (.identifier name s) span) >>= fun _ =>
        return .number n) m := by
  have front : (perform (fuel + 1)).evaluate (.unary (.step op) (.identifier name s) span) m =
      (Action.assign name (.number (n.add op.delta)) span >>= fun _ =>
        return .number (n.add op.delta)) m := bind_of_ok bound _
  have behind : (perform (fuel + 1)).evaluate (.stepAfter op (.identifier name s) span) m =
      (Action.assign name (.number (n.add op.delta)) span >>= fun _ =>
        return .number n) m := bind_of_ok bound _
  rw [behind]
  cases assigned : Action.assign name (.number (n.add op.delta)) span m with
  | error e m' =>
    rw [bind_of_error assigned] at front ⊢
    exact (bind_of_error front _).symm
  | ok _ m' =>
    rw [bind_of_ok assigned] at front ⊢
    rw [bind_of_ok front]

end

/-! ## The short forms -/

/-- On every machine an assignment with an operator to a plain target ends as the plain assignment
that it stands for: with the same value or the same error, and with the same machine.  Where a
name is bound to a number, a step in front of it ends as the assignment that adds one or
subtracts one, and a step behind it leaves the same machine or fails in the same way, but gives
the old number. -/
theorem short_forms_expand :
    (∀ (op : AssignOp) (binary : BinaryOp), op.binary? = some binary →
      ∀ target value : Expr, target.isAssignable = true → target.isPlain = true →
      ∀ (span : Span) (m : Machine),
        (∀ r, (Expr.assign op target value span).Ends m r ↔
          (Expr.expansion binary target value span).Ends m r) ∧
        ∀ fuel, target.height ≤ fuel →
          evaluate (fuel + 1) (.assign op target value span) m =
            evaluate (fuel + 2) (.expansion binary target value span) m) ∧
    ∀ (m : Machine) (name : String) (s : Span) (n : Number),
      m.heap.lookup m.scope name s = .ok (.number n) →
      ∀ (op : StepOp) (place span : Span),
        (∀ r, (Expr.unary (.step op) (.identifier name s) span).Ends m r ↔
          (Expr.assign .add (.identifier name s) (op.addend place) span).Ends m r) ∧
        ∀ fuel,
          evaluate (fuel + 4) (.unary (.step op) (.identifier name s) span) m =
            evaluate (fuel + 4) (.assign .add (.identifier name s) (op.addend place) span) m ∧
          evaluate (fuel + 1) (.stepAfter op (.identifier name s) span) m =
            (evaluate (fuel + 1) (.unary (.step op) (.identifier name s) span) >>= fun _ =>
              return .number n) m := by
  refine ⟨fun op binary compound target value assignable plain span m => ?_,
    fun m name s n bound op place span => ?_⟩
  · have same (fuel : Nat) (enough : target.height ≤ fuel) :
        evaluate (fuel + 1) (.assign op target value span) m =
          evaluate (fuel + 2) (.expansion binary target value span) m :=
      (congrFun (evaluate_expansion compound assignable plain span enough) m).symm
    exact ⟨Expr.ends_iff_of_eventually target.height same, same⟩
  · have known : lookup name s m = .ok (.number n) m := query_of_ok (by rw [bound]; rfl)
    have same (fuel : Nat) := evaluate_step known op place span fuel
    exact ⟨Expr.ends_iff_of_eventually 0 fun fuel _ => same fuel, fun fuel =>
      ⟨same fuel, evaluate_stepAfter known op span fuel⟩⟩

/-- The machine after `let x = 1; let o = { p: "a" };`. -/
def Machine.withPlaces : Machine :=
  ((Request.run ⟨[.declare .let_ "x" none (some (.number .one default)) default,
    .declare .let_ "o" none (some (.object [("p", .string "a" default)] default))
      default]⟩).serve (perform 5)).after Machine.initial

/-- In `o.p += (o = "b")` the right side gives the name of the container another value.  The sum
goes to the container that the target was evaluated to, in both forms. -/
theorem short_forms_expand_rebinding :
    let m := Machine.withPlaces
    let target : Expr := .member (.identifier "o" default) "p" default
    let value : Expr := .assign .set (.identifier "o" default) (.string "b" default) default
    m.Reached ∧ AssignOp.add.binary? = some .add ∧ target.isAssignable = true ∧
      target.isPlain = true ∧
      evaluate 4 (.assign .add target value default) m =
        evaluate 5 (.expansion .add target value default) m ∧
      ((evaluate 4 (.assign .add target value default)).after m).heap.lookup m.scope "o" default =
        .ok (.string "b") ∧
      ((evaluate 4 (.assign .add target value default)).after m).heap.objects =
        #[[("p", .string "ab")]] ∧
      m.heap.lookup m.scope "x" default = .ok (.number .one) ∧
      evaluate 4 (.unary (.step .decrement) (.identifier "x" default) default) m =
        evaluate 4
          (.assign .add (.identifier "x" default) (StepOp.decrement.addend default) default) m := by
  intro m target value
  have bound : m.heap.lookup m.scope "x" default = .ok (.number .one) := by decide
  have expanded := short_forms_expand.1 .add .add rfl target value rfl rfl default m
  have stepped := short_forms_expand.2 m "x" default .one bound .decrement default default
  exact ⟨.serve 5 _ .refl, rfl, rfl, rfl, expanded.2 3 (by decide), by decide +kernel,
    by decide +kernel, bound,
    (stepped.2 0).1⟩

end Scriptlet
