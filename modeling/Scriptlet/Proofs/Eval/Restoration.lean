import Scriptlet.Proofs.Eval.Detour

/-!
# Coming back from evaluation

Blocks, loops and calls act in scopes of their own, and calls are counted.  An
error and a signal can leave through any of them.  However a task ends, the
scope and the number of calls being made are those that it started with
(`perform_restores`).

So between two requests a session is in its root scope and inside no call
(`Machine.Later.restores`), and the count stays within the limit during a run.
-/

open Scriptlet.Action Scriptlet.Evaluate

namespace Scriptlet

/-- A task that may start restores the scope and the depth. -/
theorem perform_restores (fuel : Nat) {t : Task} {m : Machine} (admitted : t.Admits m.depth) :
    (perform fuel t).Restores m := by
  have C := Heap.lasting_true.congruence Heap.lasting_true
  exact (C.perform fuel t m.depth admitted m rfl trivial).2.1

/-- A request restores the scope and the depth. -/
theorem Request.restores (fuel : Nat) (r : Request) (m : Machine) :
    (r.serve (perform fuel)).Restores m := by
  have C := Heap.lasting_true.congruence Heap.lasting_true
  exact (C.serve (C.perform fuel) m.depth r m rfl trivial).2.1

/-- A session is always in the scope, and at the depth, that it started with. -/
theorem Machine.Later.restores {m m' : Machine} (later : m.Later m') :
    m'.scope = m.scope ∧ m'.depth = m.depth := by
  induction later with
  | refl => exact ⟨rfl, rfl⟩
  | @serve m' fuel r _ ih =>
    obtain ⟨scope, depth⟩ := Request.restores fuel r m'
    exact ⟨scope.trans ih.1, depth.trans ih.2⟩
  | supply _ _ ih => exact ih

/-- Statements and requests restore the scope and the depth, whatever machine they
start on.  A session is always in the root scope and inside no call.  On the way the
number of calls being made is within the limit, and a body is inside a call. -/
theorem exits_restore_scope_and_depth :
    (∀ (fuel : Nat) (s : Stmt) (m : Machine), ((perform fuel).execute s).Restores m) ∧
    (∀ (fuel : Nat) (r : Request) (m : Machine), (r.serve (perform fuel)).Restores m) ∧
    ∀ m : Machine, m.Reached →
      m.scope = Machine.globals ∧ m.depth = 0 ∧
      ∀ (fuel : Nat) (r : Request) (t : Task) (m' : Machine), r.Meets fuel m t m' →
        m'.depth ≤ maxDepth ∧
        ∀ f s args span, t = .enter f s args span → 1 ≤ m'.depth := by
  refine ⟨fun fuel s m => perform_restores fuel trivial, Request.restores, ?_⟩
  intro m reached
  obtain ⟨scope, depth⟩ := reached.restores
  have outside : m.depth = 0 := depth
  refine ⟨scope, outside, ?_⟩
  intro fuel r t m' meets
  have room : m.depth ≤ maxDepth := outside ▸ Nat.zero_le maxDepth
  obtain ⟨admitted, within_limit, -⟩ := meets.holds Heap.lasting_true room trivial
  refine ⟨within_limit, ?_⟩
  rintro f s args span rfl
  exact admitted

/-- A host makes a function without parameters and calls it. -/
theorem exits_restore_scope_and_depth_of_call :
    ∃ m m' : Machine, m.Reached ∧
      (Request.call (.function 1) [] default).Meets 1 m (.enter default m.scope [] default) m' ∧
      m.scope = Machine.globals ∧ m'.depth ≤ maxDepth ∧ 1 ≤ m'.depth := by
  let m := Machine.initial.withFunction default
  have reached : m.Reached := Machine.initial.later_withFunction default
  have meets : (Request.call (.function 1) [] default).Meets 1 m
      (.enter default m.scope [] default) { m with depth := 1 } :=
    Request.meets_enter rfl rfl (by decide) 0 default
  obtain ⟨scope, -, limits⟩ := exits_restore_scope_and_depth.2.2 m reached
  obtain ⟨above, below⟩ := limits _ _ _ _ meets
  exact ⟨m, _, reached, meets, scope, above, below _ _ _ _ rfl⟩

end Scriptlet
