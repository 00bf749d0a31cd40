import Scriptlet.Eval.Machine

/-!
# Outcomes of actions

An action gives a result or halts, and it leaves a machine either way.  What two actions do one
after the other follows from what the first one does.  Acting in a new scope is acting on the
machine with that scope opened (`Machine.opened`) and coming back, and acting one call deeper is
acting on the machine with one call more.
-/

open Scriptlet.Action

namespace Scriptlet

section

variable {α β : Type} {a : Action α} {f : α → Action β} {m m' : Machine} {v : α} {e : Halt}

/-! ## One action after another -/

theorem bind_of_ok (h : a m = .ok v m') (f : α → Action β) : (a >>= f) m = f v m' := by
  change EStateM.bind a f m = f v m'
  simp only [EStateM.bind, h]

theorem bind_of_error (h : a m = .error e m') (f : α → Action β) :
    (a >>= f) m = .error e m' := by
  change EStateM.bind a f m = .error e m'
  simp only [EStateM.bind, h]

/-- Two actions that succeed one after the other succeed both. -/
theorem ok_of_bind {w : β} (h : (a >>= f) m = .ok w m') :
    ∃ v m'', a m = .ok v m'' ∧ f v m'' = .ok w m' := by
  cases outcome : a m with
  | error e m'' =>
    rw [bind_of_error outcome f] at h
    cases h
  | ok v m'' =>
    rw [bind_of_ok outcome f] at h
    exact ⟨v, m'', rfl, h⟩

/-- Two actions that fail one after the other: either the first one fails, or the second one. -/
theorem error_of_bind (failed : (a >>= f) m = .error e m') :
    a m = .error e m' ∨ ∃ v m'', a m = .ok v m'' ∧ f v m'' = .error e m' := by
  cases outcome : a m with
  | error e' m'' =>
    rw [bind_of_error outcome f] at failed
    cases failed
    exact .inl rfl
  | ok v m'' =>
    rw [bind_of_ok outcome f] at failed
    exact .inr ⟨v, m'', rfl, failed⟩

theorem after_of_ok (h : a m = .ok v m') : a.after m = m' := by
  rw [after, h]

theorem after_of_error (h : a m = .error e m') : a.after m = m' := by
  rw [after, h]

theorem after_bind_of_ok (h : a m = .ok v m') (f : α → Action β) :
    (a >>= f).after m = (f v).after m' := by
  rw [after, after, bind_of_ok h]

theorem after_bind_of_error (h : a m = .error e m') (f : α → Action β) :
    (a >>= f).after m = m' := by
  rw [after, bind_of_error h]

/-! ## New scopes -/

theorem after_within (s : Scope) (a : Action α) (m : Machine) :
    (within s a).after m = { a.after { m with scope := s } with scope := m.scope } := by
  unfold after within
  cases a { m with scope := s } <;> rfl

/-- The machine in a new scope. -/
def Machine.opened (m : Machine) (outer : Scope) : Machine :=
  { m with heap := (m.heap.newEnclosed outer).2, scope := (m.heap.newEnclosed outer).1 }

theorem enclosed_eq (outer : Scope) (a : Action α) (m : Machine) :
    enclosed outer a m =
      match a (m.opened outer) with
      | .ok v n => .ok v { n with scope := m.scope }
      | .error e n => .error e { n with scope := m.scope } := rfl

theorem after_enclosed (outer : Scope) (a : Action α) (m : Machine) :
    (enclosed outer a).after m = { a.after (m.opened outer) with scope := m.scope } := by
  rw [after, enclosed_eq, after]
  cases a (m.opened outer) <;> rfl

/-! ## Calls -/

variable {span : Span}

/-- A call for which there is no room fails. -/
theorem nested_of_full (full : maxDepth ≤ m.depth) :
    nested span a m = .error (.fault (.recursion maxDepth span)) m := if_pos full

/-- Any other call is made one call deeper. -/
theorem nested_of_room (room : ¬ maxDepth ≤ m.depth) : nested span a m = deeper a m :=
  if_neg room

theorem after_nested_of_full (full : maxDepth ≤ m.depth) : (nested span a).after m = m :=
  after_of_error (nested_of_full full)

theorem after_deeper (a : Action α) (m : Machine) :
    (deeper a).after m =
      { a.after { m with depth := m.depth + 1 } with
        depth := (a.after { m with depth := m.depth + 1 }).depth - 1 } := by
  unfold after deeper
  cases a { m with depth := m.depth + 1 } <;> rfl

theorem after_nested_of_room (room : ¬ maxDepth ≤ m.depth) :
    (nested span a).after m = (deeper a).after m := by
  rw [after, nested_of_room room, after]

end

end Scriptlet
