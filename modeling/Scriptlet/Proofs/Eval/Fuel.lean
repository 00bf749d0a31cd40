import Scriptlet.Proofs.Eval.Headroom

/-!
# Enough fuel

Fuel decides how far evaluation may go, and nothing else.  An expression that comes to an end
with some fuel ends in the same way with more of it (`evaluate_of_settled`).  So how an expression
ends does not depend on the fuel that it is evaluated with (`Expr.Ends.unique`).

An action *ends as* another one does if the two have the same outcome wherever the first comes
to an end.  No step of the machine looks at the fuel, so evaluation respects this.  Without
fuel nothing comes to an end.
-/

open Scriptlet.Action Scriptlet.Evaluate

namespace Scriptlet

/-! ## Outcomes that are settled -/

/-- The outcome of an action that comes to an end, with a value or with an error. -/
def Settled {α : Type} (r : EStateM.Result Halt Machine α) : Prop :=
  ∀ m, r ≠ .error .endless m

theorem settled_ok {α : Type} (v : α) (m : Machine) : Settled (.ok v m) := by
  intro m' endless
  cases endless

/-- What comes to an end in a scope comes to an end there. -/
theorem settled_of_within {α : Type} {s : Scope} {a : Action α} {m : Machine}
    (settled : Settled (Action.within s a m)) : Settled (a { m with scope := s }) := by
  intro m' endless
  unfold Action.within at settled
  rw [endless] at settled
  exact settled _ rfl

theorem settled_of_deeper {α : Type} {a : Action α} {m : Machine}
    (settled : Settled (deeper a m)) : Settled (a { m with depth := m.depth + 1 }) := by
  intro m' endless
  unfold deeper at settled
  rw [endless] at settled
  exact settled _ rfl

/-- The first action restores the depth.  Where it comes to an end, the second one ends in the
same way. -/
def EndsAs {α : Type} (d : Nat) (a b : Action α) : Prop :=
  ∀ m : Machine, m.depth = d → (a.after m).depth = d ∧ (Settled (a m) → b m = a m)

namespace EndsAs

variable {α β : Type} {d : Nat}

/-- An action that does not look at the number of calls ends as itself. -/
theorem of_sameBelow {a : Action α} (same : SameBelow d a a) : EndsAs d a a :=
  fun m at_d => ⟨(same m at_d).1, fun _ => rfl⟩

theorem bind {a b : Action α} {f g : α → Action β} (first : EndsAs d a b)
    (second : ∀ v, EndsAs d (f v) (g v)) : EndsAs d (a >>= f) (b >>= g) := by
  intro m at_d
  obtain ⟨restored, same⟩ := first m at_d
  unfold after at *
  cases outcome : a m with
  | error e m' =>
    rw [outcome] at same restored
    rw [bind_of_error outcome f]
    refine ⟨restored, fun settled => bind_of_error (same fun m'' endless => ?_) g⟩
    cases endless
    exact settled m' rfl
  | ok v m' =>
    rw [outcome] at same restored
    rw [bind_of_ok outcome f]
    obtain ⟨restored', same'⟩ := second v m' restored
    exact ⟨restored', fun settled => (bind_of_ok (same (settled_ok v m')) g).trans (same' settled)⟩

theorem within (s : Scope) {a b : Action α} (h : EndsAs d a b) :
    EndsAs d (Action.within s a) (Action.within s b) := by
  intro m at_d
  obtain ⟨restored, same⟩ := h { m with scope := s } at_d
  rw [after_within]
  refine ⟨restored, fun settled => ?_⟩
  rw [Action.within, Action.within, same (settled_of_within settled)]

theorem nested (span : Span) {a b : Action α} (h : d < maxDepth → EndsAs (d + 1) a b) :
    EndsAs d (Action.nested span a) (Action.nested span b) := by
  intro m at_d
  by_cases full : maxDepth ≤ m.depth
  · rw [after_nested_of_full full, nested_of_full full, nested_of_full full]
    exact ⟨at_d, fun _ => rfl⟩
  · have room : d < maxDepth := at_d ▸ Nat.lt_of_not_le full
    obtain ⟨restored, same⟩ := h room { m with depth := m.depth + 1 } (congrArg Nat.succ at_d)
    rw [after_nested_of_room full, after_deeper, nested_of_room full, nested_of_room full]
    refine ⟨congrArg Nat.pred restored, fun settled => ?_⟩
    rw [deeper, deeper, same (settled_of_deeper settled)]

end EndsAs

/-! ## Evaluation -/

/-- Evaluation respects ending in the same way. -/
theorem congruence_endsAs : Congruence EndsAs where
  bind first second := first.bind second
  query d f := .of_sameBelow (congruence_sameBelow.query d f)
  declare d name _ span sound := .of_sameBelow (congruence_sameBelow.declare d name span sound)
  assign d name v span := .of_sameBelow (congruence_sameBelow.assign d name v span)
  newArray d elements := .of_sameBelow (congruence_sameBelow.newArray d elements)
  newObject d ps := .of_sameBelow (congruence_sameBelow.newObject d ps)
  newClosure d f := .of_sameBelow (congruence_sameBelow.newClosure d f)
  writeSlot d container key v span :=
    .of_sameBelow (congruence_sameBelow.writeSlot d container key v span)
  emit d line := .of_sameBelow (congruence_sameBelow.emit d line)
  enclosed := by
    intro _ d outer a b related
    have opened : EndsAs d (newEnclosed outer) (newEnclosed outer) :=
      .of_sameBelow (.of_ignoresDepth fun _ _ => rfl)
    exact opened.bind fun inner => related.within inner
  nested := by
    intro _ d span a b related
    exact EndsAs.nested span related

/-- With one more level of fuel every task ends as it does without. -/
theorem related_endsAs : ∀ fuel : Nat,
    Performer.Related EndsAs (perform fuel) (perform (fuel + 1))
  | 0, _, _, _ => fun m at_d => ⟨at_d, fun settled => absurd rfl (settled m)⟩
  | fuel + 1, t, d, admitted =>
    (congruence_endsAs.scoped.step (related_endsAs fuel).relatedIn) t d admitted.admitsIn

/-- An expression that comes to an end ends in the same way with more fuel. -/
theorem evaluate_of_settled {fuel more : Nat} (le : fuel ≤ more) {e : Expr} {m : Machine}
    (settled : Settled (evaluate fuel e m)) : evaluate more e m = evaluate fuel e m := by
  induction le with
  | refl => rfl
  | step _ ih =>
    rename_i n _
    rw [← ih] at settled ⊢
    exact (related_endsAs n (.evaluate e) m.depth trivial m rfl).2 settled

/-- An expression ends with a given outcome: with some fuel its evaluation comes to an end and
has that outcome. -/
def Expr.Ends (e : Expr) (m : Machine) (r : EStateM.Result Halt Machine Value) : Prop :=
  Settled r ∧ ∃ fuel, evaluate fuel e m = r

/-- How an expression ends does not depend on the fuel. -/
theorem Expr.Ends.unique {e : Expr} {m : Machine} {r r' : EStateM.Result Halt Machine Value}
    (ends : e.Ends m r) (ends' : e.Ends m r') : r = r' := by
  obtain ⟨settled, fuel, rfl⟩ := ends
  obtain ⟨settled', fuel', rfl⟩ := ends'
  rcases Nat.le_total fuel fuel' with le | le
  · exact (evaluate_of_settled le settled).symm
  · exact evaluate_of_settled le settled'

/-- Two expressions that have the same outcome with all fuel above some end in the same
ways. -/
theorem Expr.ends_iff_of_eventually {e e' : Expr} {m : Machine} (enough : Nat) {i j : Nat}
    (same : ∀ fuel, enough ≤ fuel → evaluate (fuel + i) e m = evaluate (fuel + j) e' m)
    (r : EStateM.Result Halt Machine Value) : e.Ends m r ↔ e'.Ends m r := by
  have carry {e e' : Expr} {i j : Nat}
      (same : ∀ fuel, enough ≤ fuel → evaluate (fuel + i) e m = evaluate (fuel + j) e' m)
      (ends : e.Ends m r) : e'.Ends m r := by
    obtain ⟨settled, fuel, rfl⟩ := ends
    refine ⟨settled, enough + fuel + j, ?_⟩
    rw [← same (enough + fuel) (by omega)]
    exact evaluate_of_settled (by omega) settled
  exact ⟨carry same, carry fun fuel le => (same fuel le).symm⟩

end Scriptlet
