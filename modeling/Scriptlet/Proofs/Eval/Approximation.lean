import Scriptlet.Proofs.Eval.Fuel
import Scriptlet.Proofs.Eval.Printing

/-!
# Going less far

An action *approximates* another one if it goes less far, or as far.  Where it comes to an end
the two have the same outcome, and where it does not, the other one still prints all lines that
it has printed.  So lines that a run prints before its fuel is used up are printed with more
fuel too (`approximates_perform`).

No step of the machine looks at the fuel, so evaluation respects this, and without fuel an
action approximates all others.  Two pieces of code can be compared in this way that go down
different numbers of levels, and so need different amounts of fuel to come equally far.
-/

open Scriptlet.Action Scriptlet.Evaluate

namespace Scriptlet

/-- Where the first action comes to an end, the second one has the same outcome.  In any case it
prints at least the same lines. -/
structure Approximates {α : Type} (d : Nat) (a b : Action α) : Prop where
  endsAs : EndsAs d a b
  restores : ∀ m : Machine, m.depth = d → (b.after m).depth = d
  grows : ∀ m : Machine, m.depth = d → Grown m.output (b.after m).output
  prints : ∀ m : Machine, m.depth = d → Grown (a.after m).output (b.after m).output

/-- Evaluation respects printing behind given lines. -/
theorem congruence_grown (before : Array String) :
    Congruence (AgreesIn (fun _ => True) (fun _ o => Grown before o) fun _ o => Grown before o) :=
  have L := upheld_grown (fun _ => True) before
  (L.congruence L (scoped_true _)).unscoped

namespace Approximates

variable {α β : Type} {d : Nat}

/-- What evaluation respects whatever it compares approximates itself. -/
theorem of_respected {a : Action α}
    (respected : ∀ {R : {α : Type} → Nat → Action α → Action α → Prop}, Congruence R → R d a a) :
    Approximates d a a where
  endsAs := respected congruence_endsAs
  restores m at_d :=
    (respected (congruence_grown m.output) m at_d trivial (.refl _)).2.1.2.trans at_d
  grows m at_d := (respected (congruence_grown m.output) m at_d trivial (.refl _)).2.2.1
  prints _ _ := .refl _

theorem trans {a b c : Action α} (first : Approximates d a b) (second : Approximates d b c) :
    Approximates d a c where
  endsAs m at_d := by
    obtain ⟨restored, same⟩ := first.endsAs m at_d
    refine ⟨restored, fun settled => ?_⟩
    have middle := same settled
    exact ((second.endsAs m at_d).2 (middle ▸ settled)).trans middle
  restores := second.restores
  grows := second.grows
  prints m at_d := (first.prints m at_d).trans (second.prints m at_d)

/-- An action that does not come to an end approximates all that restore the depth. -/
theorem endless {b : Action α} (h : Approximates d b b) : Approximates d (throw .endless) b where
  endsAs _ at_d := ⟨at_d, fun settled => absurd rfl (settled _)⟩
  restores := h.restores
  grows := h.grows
  prints := h.grows

theorem bind {a b : Action α} {f g : α → Action β} (first : Approximates d a b)
    (second : ∀ v, Approximates d (f v) (g v)) : Approximates d (a >>= f) (b >>= g) where
  endsAs := first.endsAs.bind fun v => (second v).endsAs
  restores m at_d := by
    have restored := first.restores m at_d
    rcases outcome : b m with ⟨v, m'⟩ | ⟨e, m'⟩
    · rw [after_of_ok outcome] at restored
      rw [after_bind_of_ok outcome]
      exact (second v).restores m' restored
    · rwa [after_bind_of_error outcome, ← after_of_error outcome]
  grows m at_d := by
    have restored := first.restores m at_d
    have grown := first.grows m at_d
    rcases outcome : b m with ⟨v, m'⟩ | ⟨e, m'⟩
    · rw [after_of_ok outcome] at restored grown
      rw [after_bind_of_ok outcome]
      exact grown.trans ((second v).grows m' restored)
    · rwa [after_bind_of_error outcome, ← after_of_error outcome]
  prints m at_d := by
    obtain ⟨left_restored, same⟩ := first.endsAs m at_d
    have restored := first.restores m at_d
    have printed := first.prints m at_d
    rcases left : a m with ⟨v, n⟩ | ⟨e, n⟩
    · rw [after_of_ok left] at left_restored
      rw [left] at same
      rw [after_bind_of_ok left, after_bind_of_ok (same (settled_ok v n))]
      exact (second v).prints n left_restored
    · rw [after_of_error left] at printed
      rw [after_bind_of_error left]
      rcases right : b m with ⟨w, m'⟩ | ⟨e', m'⟩
      · rw [after_of_ok right] at printed restored
        rw [after_bind_of_ok right]
        exact printed.trans ((second w).grows m' restored)
      · rwa [after_bind_of_error right, ← after_of_error right]

theorem within (s : Scope) {a b : Action α} (h : Approximates d a b) :
    Approximates d (Action.within s a) (Action.within s b) where
  endsAs := h.endsAs.within s
  restores m at_d := by
    rw [after_within]
    exact h.restores { m with scope := s } at_d
  grows m at_d := by
    rw [after_within]
    exact h.grows { m with scope := s } at_d
  prints m at_d := by
    rw [after_within, after_within]
    exact h.prints { m with scope := s } at_d

theorem nested (span : Span) {a b : Action α} (h : d < maxDepth → Approximates (d + 1) a b) :
    Approximates d (Action.nested span a) (Action.nested span b) where
  endsAs := .nested span fun below => (h below).endsAs
  restores m at_d := by
    by_cases full : maxDepth ≤ m.depth
    · rwa [after_nested_of_full full]
    · have related := h (at_d ▸ Nat.lt_of_not_le full)
      rw [after_nested_of_room full, after_deeper]
      exact congrArg Nat.pred (related.restores _ (congrArg Nat.succ at_d))
  grows m at_d := by
    by_cases full : maxDepth ≤ m.depth
    · rw [after_nested_of_full full]
      exact .refl _
    · have related := h (at_d ▸ Nat.lt_of_not_le full)
      rw [after_nested_of_room full, after_deeper]
      exact related.grows { m with depth := m.depth + 1 } (congrArg Nat.succ at_d)
  prints m at_d := by
    by_cases full : maxDepth ≤ m.depth
    · rw [after_nested_of_full full, after_nested_of_full full]
      exact .refl _
    · have related := h (at_d ▸ Nat.lt_of_not_le full)
      rw [after_nested_of_room full, after_nested_of_room full, after_deeper, after_deeper]
      exact related.prints { m with depth := m.depth + 1 } (congrArg Nat.succ at_d)

end Approximates

/-! ## Evaluation -/

/-- Evaluation respects going less far. -/
theorem congruence_approximates : Congruence Approximates where
  bind first second := first.bind second
  query d f := .of_respected fun C => C.query d f
  declare d name b span sound := .of_respected fun C => C.declare d name span sound
  assign d name v span := .of_respected fun C => C.assign d name v span
  newArray d elements := .of_respected fun C => C.newArray d elements
  newObject d ps := .of_respected fun C => C.newObject d ps
  newClosure d f := .of_respected fun C => C.newClosure d f
  writeSlot d container key v span := .of_respected fun C => C.writeSlot d container key v span
  emit d line := .of_respected fun C => C.emit d line
  enclosed := by
    intro _ d outer a b related
    have opened : Approximates d (newEnclosed outer) (newEnclosed outer) :=
      ⟨.of_sameBelow (.of_ignoresDepth fun _ _ => rfl), fun _ at_d => at_d,
        fun m _ => .refl m.output, fun _ _ => .refl _⟩
    exact opened.bind fun inner => related.within inner
  nested := by
    intro _ d span a b related
    exact Approximates.nested span related

/-- With less fuel every task goes less far, or as far. -/
theorem approximates_perform {fuel more : Nat} (le : fuel ≤ more) :
    Performer.Related Approximates (perform fuel) (perform more) := by
  have C := congruence_approximates
  have next : ∀ fuel : Nat, Performer.Related Approximates (perform fuel) (perform (fuel + 1)) := by
    intro fuel
    induction fuel with
    | zero => exact fun t d admitted => (C.perform 1 t d admitted).endless
    | succ fuel ih =>
      exact fun t d admitted => (C.scoped.step ih.relatedIn) t d admitted.admitsIn
  induction le with
  | refl => exact C.perform fuel
  | step _ ih => exact fun t d admitted => (ih t d admitted).trans (next _ t d admitted)

end Scriptlet
