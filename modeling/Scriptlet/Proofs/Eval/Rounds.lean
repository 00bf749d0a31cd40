import Scriptlet.Proofs.Eval.Approximation
import Scriptlet.Proofs.Eval.Placement

/-!
# The rounds of loops

A for statement can be written as a while statement: with its first clause in front of the
loop and its update behind the body, in a block around the two (`Stmt.asWhile`).  Both go round
in the same way.  A round tests the condition, takes a *turn* of the body and the update, and
goes on (`rounds_eq_round`, `sequence_eq_turn`).  The turn of the while statement is in a scope of
its own.

The two need different amounts of fuel, since the while statement goes down more levels for the
same turn.  In between lies a loop with the turns of the while statement and the fuel of the for
statement (`inlined`).  The while statement goes less far than that with the same fuel, and
at least as far with three levels more (`approximates_inlined`).
-/

open Scriptlet.Action Scriptlet.Evaluate

namespace Scriptlet

/-! ## The while statement -/

/-- The body of the while statement for a for statement: a block of the body and the update. -/
def Stmt.withUpdate (update : Option Expr) (body : Stmt) (span : Span) : Stmt :=
  .block (body :: (update.map fun e => .expr e span).toList) span

/-- A for statement as a while statement, with spans for what is new.  A condition that is
missing is true. -/
def Stmt.asWhile (init : Option Stmt) (condition update : Option Expr) (body : Stmt)
    (span : Span) : Stmt :=
  .block (init.toList ++
    [.while_ (condition.getD (.boolean true span)) (body.withUpdate update span) span]) span

/-! ## Turns and rounds -/

/-- A body, and the update after it unless the body ends with a signal. -/
def turn (body : Action Flow) (update : Action Value) : Action Flow := do
  match (← body) with
  | .normal _ =>
    let _ ← update
    return .normal .null
  | signal => return signal

/-- The rounds of a loop from a test on, by what a round does and what comes after it. -/
def round (test : Action Value) (body again : Action Flow) : Action Flow := do
  let v ← test
  if v.isTruthy then
    match (← body) with
    | .break_ _ => return .normal .null
    | .return_ v span => return .return_ v span
    | .normal _ | .continue_ _ => again
  else return .normal .null

/-- How a loop ends: normally with null, or with a `return`. -/
def Flow.OfLoop (flow : Flow) : Prop := flow = .normal .null ∨ ∃ v s, flow = .return_ v s

/-- Acts in a new scope inside of the current one. -/
def inScope {α : Type} (a : Action α) : Action α := do
  enclosed (← scope) a

namespace StagedCongruence

variable {G : Nat → Scope → Prop} {R : {α : Type} → Stage → Action α → Action α → Prop}
  (C : StagedCongruence G R) {w : Stage}

include C

theorem turn {body body' : Action Flow} {update update' : Action Value} (bodies : R w body body')
    (updates : R w update update') :
    R w (Scriptlet.turn body update) (Scriptlet.turn body' update') := by
  refine C.bind bodies fun flow => ?_
  cases flow with
  | normal => exact C.bind updates fun _ => C.pure w _
  | break_ | continue_ | return_ => exact C.pure w _

theorem round {test test' : Action Value} {body body' again again' : Action Flow}
    (tests : R w test test') (bodies : R w body body') (rests : R w again again') :
    R w (Scriptlet.round test body again) (Scriptlet.round test' body' again') := by
  refine C.bind tests fun v => ?_
  split
  next =>
    refine C.bind bodies fun flow => ?_
    cases flow with
    | normal | continue_ => exact rests
    | break_ | return_ => exact C.pure w _
  next => exact C.pure w _

end StagedCongruence

/-- Actions agree on what is given if they agree on all that may be given. -/
theorem bind_eq_of_gives {α β : Type} {P : α → Prop} {a : Action α} {f g : α → Action β}
    (gives : Gives P a) (same : ∀ v, P v → f v = g v) : a >>= f = a >>= g := by
  funext m
  rcases outcome : a m with ⟨v, n⟩ | ⟨e, n⟩
  · rw [bind_of_ok outcome, bind_of_ok outcome, same v (gives m n v outcome)]
  · rw [bind_of_error outcome, bind_of_error outcome]

section

variable (fuel : Nat)

/-- A loop goes round with turns of its body and its update, if no `continue` skips the
update. -/
theorem rounds_eq_round (condition update : Option Expr) {body : Stmt}
    (unskipped : Gives (fun flow => ∀ s, flow ≠ .continue_ s) ((perform fuel).execute body)) :
    (perform (fuel + 1)).rounds condition update body =
      round (optional (perform fuel) (.boolean true) condition)
        (turn ((perform fuel).execute body) (optional (perform fuel) .null update))
        ((perform fuel).rounds condition update body) := by
  refine congrArg (optional (perform fuel) (.boolean true) condition >>= ·) (funext fun v => ?_)
  split
  next =>
    rw [turn, bind_assoc]
    refine bind_eq_of_gives unskipped fun flow passes => ?_
    cases flow with
    | normal => rw [bind_assoc]; rfl
    | continue_ s => exact absurd rfl (passes s)
    | break_ | return_ => rfl
  next => rfl

/-- A while loop goes round with its body. -/
theorem rounds_while (condition : Expr) (body : Stmt) :
    (perform (fuel + 1)).rounds (some condition) none body =
      round ((perform fuel).evaluate condition) ((perform fuel).execute body)
        ((perform fuel).rounds (some condition) none body) := by
  refine congrArg ((perform fuel).evaluate condition >>= ·) (funext fun v => ?_)
  split
  next =>
    refine congrArg ((perform fuel).execute body >>= ·) (funext fun flow => ?_)
    cases flow <;> rfl
  next => rfl

/-- The statements in the body of the while statement are a turn. -/
theorem sequence_eq_turn (update : Option Expr) (body : Stmt) (span : Span) :
    sequence (perform (fuel + 1)) (body :: (update.map fun e => .expr e span).toList) =
      turn ((perform (fuel + 1)).execute body) (optional (perform fuel) .null update) := by
  refine congrArg ((perform (fuel + 1)).execute body >>= ·) (funext fun flow => ?_)
  cases flow with
  | normal =>
    cases update with
    | none => rfl
    | some e =>
      change ((perform fuel).evaluate e >>= fun v => pure (Flow.normal v)) >>= _ =
        (perform fuel).evaluate e >>= _
      rw [bind_assoc]
      rfl
  | break_ | continue_ | return_ => rfl

/-- A loop ends normally, or with the `return` of a turn. -/
theorem rounds_ofLoop : ∀ (fuel : Nat) (condition update : Option Expr) (body : Stmt),
    Gives Flow.OfLoop ((perform fuel).rounds condition update body)
  | 0, _, _, _ => fun _ _ _ ok => nomatch ok
  | fuel + 1, condition, update, body => by
    refine .after fun v => ?_
    split
    next =>
      refine .after fun flow => ?_
      cases flow with
      | normal | continue_ =>
        exact .after fun _ => rounds_ofLoop fuel condition update body
      | break_ => exact .pure (.inl rfl)
      | return_ v s => exact .pure (.inr ⟨v, s, rfl⟩)
    next => exact .pure (.inl rfl)

theorem for_ofLoop (init : Option Stmt) (condition update : Option Expr) (body : Stmt)
    (span : Span) :
    Gives Flow.OfLoop ((perform fuel).execute (.for_ init condition update body span)) := by
  cases fuel with
  | zero => exact fun _ _ _ ok => nomatch ok
  | succ fuel =>
    refine .after fun outer => .enclosed (.after fun _ => ?_)
    exact rounds_ofLoop fuel condition update body

/-- The first clause and the loop of the while statement, one after the other. -/
theorem sequence_asWhile {init : Option Stmt} (plain : ∀ s ∈ init, s.signals = [])
    (condition : Expr) (body : Stmt) (span : Span) :
    sequence (perform (fuel + 1)) (init.toList ++ [.while_ condition body span]) =
      prepare (perform (fuel + 1)) init >>= fun _ =>
        (perform fuel).rounds (some condition) none body := by
  have looped : sequence (perform (fuel + 1)) [.while_ condition body span] =
      (perform fuel).rounds (some condition) none body := by
    refine (bind_eq_of_gives (rounds_ofLoop fuel (some condition) none body)
      fun flow of_loop => ?_).trans (bind_pure _)
    obtain rfl | ⟨v, s, rfl⟩ := of_loop
    · rfl
    · rfl
  cases init with
  | none => exact looped
  | some s =>
    have no_signal : Gives (fun flow => flow.signal? = none) ((perform (fuel + 1)).execute s) := by
      intro m m' flow ok
      have inside := (confines_perform (fuel + 1)).execute s m m' flow ok
      rw [plain s rfl] at inside
      cases is_signal : flow.signal? with
      | none => rfl
      | some g => nomatch inside g is_signal
    change (perform (fuel + 1)).execute s >>= _ = ((perform (fuel + 1)).execute s >>= _) >>= _
    rw [bind_assoc]
    refine bind_eq_of_gives no_signal fun flow none_ => ?_
    cases flow with
    | normal => exact looped
    | break_ | continue_ | return_ => cases none_

end

/-! ## With the fuel of the for statement -/

section

variable (condition update : Option Expr) (body : Stmt)

/-- The rounds of the for statement, with each turn in a scope of its own. -/
def inlinedRounds : Nat → Action Flow
  | 0 => throw .endless
  | fuel + 1 =>
    round (optional (perform fuel) (.boolean true) condition)
      (inScope (turn ((perform fuel).execute body) (optional (perform fuel) .null update)))
      (inlinedRounds fuel)

/-- The for statement with each turn in a scope of its own. -/
def inlined (init : Option Stmt) : Nat → Action Flow
  | 0 => throw .endless
  | fuel + 1 => inScope do
    prepare (perform fuel) init
    inlinedRounds condition update body fuel

variable {condition update body}

theorem Congruence.inScope {R : {α : Type} → Nat → Action α → Action α → Prop}
    (C : Congruence R) {α : Type} {d : Nat} {a b : Action α} (h : R d a b) :
    R d (Scriptlet.inScope a) (Scriptlet.inScope b) :=
  C.bind (C.query d _) fun outer => C.enclosed outer h

/-- Evaluation respects going less far, whatever the frames. -/
theorem staged_approximates :
    StagedCongruence (fun _ _ => True) fun w => Approximates w.depth :=
  congruence_approximates.scoped.staged

/-- With less fuel performers go less far, whatever the frames. -/
theorem relatedAt_approximates {fuel more : Nat} (le : fuel ≤ more) :
    Performer.RelatedAt (fun _ _ => True) (fun w => Approximates w.depth) (perform fuel)
      (perform more) :=
  (approximates_perform le).relatedIn.relatedAt

/-- A condition that is true is evaluated as one that is missing. -/
theorem approximates_condition (fuel d : Nat) (span : Span) :
    Approximates d ((perform fuel).evaluate (condition.getD (.boolean true span)))
        (optional (perform fuel) (.boolean true) condition) ∧
      Approximates d (optional (perform fuel) (.boolean true) condition)
        ((perform (fuel + 2)).evaluate (condition.getD (.boolean true span))) := by
  cases condition with
  | some e =>
    exact ⟨approximates_perform (Nat.le_refl _) (.evaluate e) d trivial,
      approximates_perform (Nat.le_add_right _ _) (.evaluate e) d trivial⟩
  | none =>
    have given : Approximates d (pure (Value.boolean true)) (pure (Value.boolean true)) :=
      staged_approximates.pure ⟨d, 0⟩ (Value.boolean true)
    refine ⟨?_, given⟩
    cases fuel with
    | zero => exact given.endless
    | succ fuel => exact given

/-- The body of the while statement takes a turn in a scope of its own. -/
theorem approximates_turn (fuel d : Nat) (span : Span) :
    Approximates d ((perform fuel).execute (body.withUpdate update span))
        (inScope (turn ((perform fuel).execute body) (optional (perform fuel) .null update))) ∧
      Approximates d
        (inScope (turn ((perform fuel).execute body) (optional (perform fuel) .null update)))
        ((perform (fuel + 2)).execute (body.withUpdate update span)) := by
  have C := congruence_approximates
  have S := staged_approximates
  have bodies {fuel more : Nat} (le : fuel ≤ more) :
      Approximates d ((perform fuel).execute body) ((perform more).execute body) :=
    approximates_perform le (.execute body) d trivial
  have updates {fuel more : Nat} (le : fuel ≤ more) :
      Approximates d (optional (perform fuel) .null update)
        (optional (perform more) .null update) :=
    S.optional (relatedAt_approximates le) ⟨d, 0⟩ .null update
  constructor
  · cases fuel with
    | zero => exact (C.inScope (S.turn (w := ⟨d, 0⟩) (bodies (Nat.le_refl _))
        (updates (Nat.le_refl _)))).endless
    | succ fuel =>
      refine C.inScope ?_
      have more := S.sequence (relatedAt_approximates (Nat.le_succ fuel)) ⟨d, 0⟩
        (body :: (update.map fun e => .expr e span).toList)
      rw [sequence_eq_turn] at more
      exact more.trans
        (S.turn (w := ⟨d, 0⟩) (bodies (Nat.le_refl _)) (updates (Nat.le_succ fuel)))
  · refine C.inScope ?_
    rw [sequence_eq_turn]
    exact S.turn (w := ⟨d, 0⟩) (bodies (Nat.le_succ fuel)) (updates (Nat.le_refl _))

/-- The rounds of the while statement go less far than those in between with the same fuel, and
at least as far with two levels more. -/
theorem approximates_inlinedRounds (span : Span) : ∀ fuel d : Nat,
    Approximates d
        ((perform fuel).rounds (some (condition.getD (.boolean true span))) none
          (body.withUpdate update span))
        (inlinedRounds condition update body fuel) ∧
      Approximates d (inlinedRounds condition update body fuel)
        ((perform (fuel + 2)).rounds (some (condition.getD (.boolean true span))) none
          (body.withUpdate update span))
  | 0, d => by
    have S := staged_approximates
    exact ⟨S.endless ⟨d, 0⟩, (S.perform 2 (.rounds _ _ _) ⟨d, 0⟩ trivial).endless⟩
  | fuel + 1, d => by
    have S := staged_approximates
    obtain ⟨condition_before, condition_after⟩ := approximates_condition fuel d span
    obtain ⟨turn_before, turn_after⟩ := approximates_turn fuel d span
    obtain ⟨before, after⟩ := approximates_inlinedRounds span fuel d
    rw [rounds_while, rounds_while]
    exact ⟨S.round (w := ⟨d, 0⟩) condition_before turn_before before,
      S.round (w := ⟨d, 0⟩) condition_after turn_after after⟩

/-- The while statement goes less far than the one in between with the same fuel, and at least
as far with three levels more. -/
theorem approximates_inlined (condition update : Option Expr) (body : Stmt)
    {init : Option Stmt} (plain : ∀ s ∈ init, s.signals = []) (span : Span) (fuel d : Nat) :
    Approximates d ((perform fuel).execute (.asWhile init condition update body span))
        (inlined condition update body init fuel) ∧
      Approximates d (inlined condition update body init fuel)
        ((perform (fuel + 3)).execute (.asWhile init condition update body span)) := by
  have C := congruence_approximates
  have S := staged_approximates
  have prepared {fuel more : Nat} (le : fuel ≤ more) :
      Approximates d (prepare (perform fuel) init) (prepare (perform more) init) :=
    S.prepare (relatedAt_approximates le) ⟨d, 0⟩ init
  have opened (fuel : Nat) : (perform (fuel + 1)).execute
      (.asWhile init condition update body span) = inScope (sequence (perform fuel)
        (init.toList ++ [.while_ (condition.getD (.boolean true span))
          (body.withUpdate update span) span])) := rfl
  cases fuel with
  | zero =>
    exact ⟨S.endless ⟨d, 0⟩,
      (S.perform 3 (.execute (.asWhile init condition update body span)) ⟨d, 0⟩ trivial).endless⟩
  | succ fuel =>
    rw [opened, opened, sequence_asWhile (fuel + 2) plain]
    constructor
    · refine C.inScope ?_
      cases fuel with
      | zero =>
        -- The first clause or the loop comes first, and neither comes to an end.
        have rounds := C.bind (prepared (Nat.le_refl 0)) fun _ => S.endless (α := Flow) ⟨d, 0⟩
        cases init with
        | none => exact rounds
        | some s => exact rounds
      | succ fuel =>
        rw [sequence_asWhile fuel plain]
        refine C.bind (prepared (Nat.le_refl _)) fun _ => ?_
        have more := approximates_perform (Nat.le_succ fuel) (.rounds
          (some (condition.getD (.boolean true span))) none (body.withUpdate update span)) d trivial
        exact more.trans (approximates_inlinedRounds span (fuel + 1) d).1
    · refine C.inScope ?_
      refine C.bind (prepared (Nat.le_add_right fuel 3)) fun _ => ?_
      exact (approximates_inlinedRounds span fuel d).2

end

end Scriptlet
