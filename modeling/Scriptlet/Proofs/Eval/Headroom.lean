import Scriptlet.Proofs.Eval.Detour

/-!
# Running with fewer calls around

The number of calls being made is compared with the limit where a call is entered,
and it is used nowhere else.  So a run that does not come to the limit goes on in the
same way inside of fewer calls: it gives the same value or halts with the same error,
prints the same lines and leaves the same heap (`fewer_calls_change_nothing`).

An action that never looks at the number is *the same below* for that reason.  A call
compares the number with the limit.  If there is room for the call at some depth, then
there is at a smaller one, and the body is then one call deeper at both.
-/

open Scriptlet.Action Scriptlet.Evaluate

namespace Scriptlet

/-! ## Outcomes at another depth -/

/-- An outcome, with another number of calls being made. -/
def atDepth (d : Nat) {α : Type} :
    EStateM.Result Halt Machine α → EStateM.Result Halt Machine α
  | .ok v m => .ok v { m with depth := d }
  | .error e m => .error e { m with depth := d }

/-- The action does not fail because of too many calls inside each other. -/
def Action.Fits {α : Type} (a : Action α) (m : Machine) : Prop :=
  ∀ limit span m', a m ≠ .error (.fault (.recursion limit span)) m'

theorem Action.Fits.of_within {α : Type} {s : Scope} {a : Action α} {m : Machine}
    (fits : (within s a).Fits m) : a.Fits { m with scope := s } := by
  intro limit span m' limited
  refine fits limit span { m' with scope := m.scope } ?_
  rw [within, limited]

theorem Action.Fits.of_deeper {α : Type} {a : Action α} {m : Machine}
    (fits : (deeper a).Fits m) : a.Fits { m with depth := m.depth + 1 } := by
  intro limit span m' limited
  refine fits limit span { m' with depth := m'.depth - 1 } ?_
  rw [deeper, limited]

/-- An action that does not look at the number of calls being made, nor change it. -/
def Action.IgnoresDepth {α : Type} (a : Action α) : Prop :=
  ∀ (m : Machine) (d : Nat), a { m with depth := d } = atDepth d (a m)

/-- The first action restores the depth.  Where it fits, the second one has the same outcome
at the same depth and at any smaller one. -/
def SameBelow {α : Type} (d : Nat) (a b : Action α) : Prop :=
  ∀ m : Machine, m.depth = d → (a.after m).depth = d ∧
    ∀ d' ≤ d, a.Fits m → b { m with depth := d' } = atDepth d' (a m)

namespace SameBelow

variable {α β : Type} {d : Nat}

theorem of_ignoresDepth {a : Action α} (ignores : a.IgnoresDepth) : SameBelow d a a := by
  intro m at_d
  refine ⟨?_, fun d' _ _ => ignores m d'⟩
  have same : a m = atDepth d (a m) := at_d ▸ ignores m m.depth
  unfold after
  rw [same]
  cases a m <;> rfl

theorem bind {a b : Action α} {f g : α → Action β} (first : SameBelow d a b)
    (second : ∀ v, SameBelow d (f v) (g v)) : SameBelow d (a >>= f) (b >>= g) := by
  intro m at_d
  obtain ⟨restored, same⟩ := first m at_d
  unfold Fits after at *
  cases outcome : a m with
  | error e m' =>
    rw [outcome] at same restored
    rw [bind_of_error outcome f]
    refine ⟨restored, fun d' le fits => bind_of_error (same d' le ?_) g⟩
    intro limit span m'' limited
    cases limited
    exact fits limit span m' rfl
  | ok v m' =>
    rw [outcome] at same restored
    rw [bind_of_ok outcome f]
    obtain ⟨restored', same'⟩ := second v m' restored
    refine ⟨restored', fun d' le fits => ?_⟩
    exact (bind_of_ok (same d' le nofun) g).trans (same' d' le fits)

/-- Acting in another scope leaves the depth to the action. -/
theorem within (s : Scope) {a b : Action α} (h : SameBelow d a b) :
    SameBelow d (Action.within s a) (Action.within s b) := by
  intro m at_d
  obtain ⟨restored, same⟩ := h { m with scope := s } at_d
  rw [after_within]
  refine ⟨restored, fun d' le fits => ?_⟩
  have below : b { m with scope := s, depth := d' } = _ := same d' le fits.of_within
  rw [Action.within, Action.within, below]
  cases a { m with scope := s } <;> rfl

/-- A call for which there is room is made one call deeper, at both depths. -/
theorem nested (span : Span) {a b : Action α} (h : d < maxDepth → SameBelow (d + 1) a b) :
    SameBelow d (Action.nested span a) (Action.nested span b) := by
  intro m at_d
  by_cases full : maxDepth ≤ m.depth
  · rw [after_nested_of_full full]
    exact ⟨at_d, fun d' _ fits => absurd (nested_of_full full) (fits maxDepth span m)⟩
  · have room : d < maxDepth := at_d ▸ Nat.lt_of_not_le full
    obtain ⟨restored, same⟩ := h room { m with depth := m.depth + 1 } (congrArg Nat.succ at_d)
    rw [after_nested_of_room full, after_deeper, nested_of_room full]
    refine ⟨congrArg Nat.pred restored, fun d' le fits => ?_⟩
    have room' : ¬ maxDepth ≤ d' := Nat.not_le_of_lt (Nat.lt_of_le_of_lt le room)
    rw [Fits, nested_of_room full] at fits
    have below : b { m with depth := d' + 1 } = _ :=
      same (d' + 1) (Nat.succ_le_succ le) (Fits.of_deeper fits)
    rw [nested_of_room (m := { m with depth := d' }) room', deeper, deeper, below]
    cases a { m with depth := m.depth + 1 } <;> rfl

end SameBelow

/-! ## Evaluation -/

/-- Evaluation respects going on in the same way inside of fewer calls. -/
theorem congruence_sameBelow : Congruence SameBelow where
  bind first second := first.bind second
  query d f := .of_ignoresDepth fun m d' => by
    unfold query
    cases f m.heap m.scope <;> rfl
  declare d name b span _ := .of_ignoresDepth fun m d' => by
    unfold declare
    cases m.heap.declareFault? m.scope name span <;> rfl
  assign d name v span := .of_ignoresDepth fun m d' => by
    unfold assign
    cases m.heap.assignFrame m.scope name v span <;> rfl
  newArray d elements := .of_ignoresDepth fun _ _ => rfl
  newObject d ps := .of_ignoresDepth fun _ _ => rfl
  newClosure d f := .of_ignoresDepth fun _ _ => rfl
  writeSlot d container key v span := .of_ignoresDepth fun m d' => by
    unfold writeSlot
    cases m.heap.slot container key span <;> rfl
  emit d line := .of_ignoresDepth fun _ _ => rfl
  enclosed := by
    intro _ d outer a b related
    have opened : SameBelow d (newEnclosed outer) (newEnclosed outer) :=
      .of_ignoresDepth fun _ _ => rfl
    exact opened.bind fun inner => related.within inner
  nested := by
    intro _ d span a b related
    exact SameBelow.nested span related

/-- An expression, a statement, a call or a program that does not come to the limit of calls
has the same outcome inside of fewer calls, with the same lines printed and the same heap.
It comes back to the number of calls that it started with. -/
theorem fewer_calls_change_nothing :
    (∀ (fuel : Nat) (s : Stmt) (m : Machine) (d : Nat), d ≤ m.depth →
      ((perform fuel).execute s).Fits m →
      (perform fuel).execute s { m with depth := d } = atDepth d ((perform fuel).execute s m)) ∧
    ∀ (fuel : Nat) (r : Request) (m : Machine) (d : Nat), d ≤ m.depth →
      (r.serve (perform fuel)).Fits m →
      r.serve (perform fuel) { m with depth := d } = atDepth d (r.serve (perform fuel) m) := by
  have C := congruence_sameBelow
  refine ⟨fun fuel s m d below fits => ?_, fun fuel r m d below fits => ?_⟩
  · exact (C.perform fuel (.execute s) m.depth trivial m rfl).2 d below fits
  · exact (C.serve (C.perform fuel) m.depth r m rfl).2 d below fits

/-- A call of a function that prints, made inside of 999 others and inside of none. -/
theorem fewer_calls_change_nothing_printing :
    let f : Function := ⟨none, [], none, [.print (.string "in" default) default], default⟩
    let m : Machine := { Machine.initial.withFunction f with depth := 999 }
    let r := Request.call (.function 1) [] default
    (r.serve (perform 5)).Fits m ∧
      r.serve (perform 5) { m with depth := 0 } = atDepth 0 (r.serve (perform 5) m) ∧
      ((r.serve (perform 5)).after m).output = #["in"] := by
  intro f m r
  have printed : ((r.serve (perform 5)).after m).output = #["in"] := by decide +kernel
  have fits : (r.serve (perform 5)).Fits m := by
    have given : (match r.serve (perform 5) m with | .ok _ _ => true | _ => false) = true := by
      decide +kernel
    intro limit span m' limited
    rw [limited] at given
    cases given
  exact ⟨fits, fewer_calls_change_nothing.2 5 r m 0 (Nat.zero_le _) fits, printed⟩

end Scriptlet
