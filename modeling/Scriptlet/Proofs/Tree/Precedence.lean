import Scriptlet.Proofs.Tree.Heads

/-!
# Where each level stops

A token after an expression *joins* on to it at some level: a parenthesis makes
it a callee at level 1, a `+` makes it an operand at level 5, and a semicolon
does not join at all.  The parser of a level stops at a token that joins at a
looser level (`after_self`).

A level whose operators group to the left is a loop.  It reads an operand of the
level below and goes on with what it has so far (`After`).  So an expression is
read at a level (`ReadAt`) if, put in front of the rest, it leaves the loop to go
on with the expression so far.  An expression that is read at one level is read
at every looser one (`ReadAt.loosen`).
-/

namespace Scriptlet.Parser

/-! ## Joining -/

/-- The level at which a token joins on to the expression before it, or 12. -/
def joint : Kind → Nat
  | .symbol .leftParen | .symbol .leftBracket | .symbol .dot => 1
  | .symbol .plusPlus | .symbol .minusMinus => 2
  | .symbol .star | .symbol .slash | .symbol .percent => 4
  | .symbol .plus | .symbol .minus => 5
  | .symbol .greater | .symbol .greaterEqual | .symbol .less | .symbol .lessEqual => 6
  | .symbol .equalEqual | .symbol .bangEqual => 7
  | .symbol .andAnd => 8
  | .symbol .orOr => 9
  | .symbol .question => 10
  | .symbol .equal | .symbol .plusEqual | .symbol .minusEqual | .symbol .starEqual
  | .symbol .slashEqual | .symbol .percentEqual => 11
  | _ => 12

/-- The level at which the first token joins on to the expression before it. -/
def joins : List Token → Nat
  | [] => 12
  | t :: _ => joint t.kind

theorem joins_cons {t : Token} {k : Kind} (is_kind : t.kind = k) (ts : List Token) :
    joins (t :: ts) = joint k :=
  congrArg joint is_kind

theorem joint_binary (op : BinaryOp) : joint (.symbol op.symbol) = op.level := by
  cases op <;> rfl

theorem joint_step (op : StepOp) : joint (.symbol op.symbol) = 2 := by
  cases op <;> rfl

theorem joint_assign (op : AssignOp) : joint (.symbol op.symbol) = 11 := by
  cases op <;> rfl

/-! ## Stopping -/

section

variable {ts : List Token}

theorem accesses_stop (e : Expr) (h : 1 < joins ts) : Yields (accesses e ts) e ts := by
  rw [accesses]
  split
  next taken =>
    obtain ⟨t, rfl, is_kind⟩ := eq_cons_of_take? taken
    rw [joins_cons (Option.some.inj is_kind)] at h
    exact absurd h (by decide)
  next taken =>
    obtain ⟨t, rfl, is_kind⟩ := eq_cons_of_take? taken
    rw [joins_cons (Option.some.inj is_kind)] at h
    exact absurd h (by decide)
  next taken =>
    obtain ⟨t, rfl, is_kind⟩ := eq_cons_of_take? taken
    rw [joins_cons (Option.some.inj is_kind)] at h
    exact absurd h (by decide)
  next => exact yields_ok _

theorem stepsAfter_stop (e : Expr) (h : joins ts ≠ 2) :
    stepsAfter e ts = ⟨e, ts, Nat.lt_succ_self _⟩ := by
  have none_ : take? (fun t => (stepOp? t.kind).map (·, t.span)) ts = none := by
    refine take?_eq_none.mpr ?_
    rintro t us rfl
    cases found : stepOp? t.kind with
    | none => rfl
    | some op =>
      rw [joins_cons (stepOp?_eq_some.mp found), joint_step] at h
      exact absurd rfl h
  rw [stepsAfter]
  simp only [none_]

theorem operations_stop {k : Nat} (e : Expr) (h : joins ts ≠ k + 4) :
    Yields (operations k e ts) e ts := by
  have none_ : take? (fun t => (binaryOp? t.kind).filter (looseness · = k + 1)) ts = none := by
    refine take?_eq_none.mpr ?_
    rintro t us rfl
    cases found : binaryOp? t.kind with
    | none => rfl
    | some op =>
      rw [joins_cons (binaryOp?_eq_some.mp found), joint_binary] at h
      exact Option.filter_eq_none_iff.mpr fun _ same loose => by
        cases same
        exact h (looseness_eq.mp (of_decide_eq_true loose))
  rw [operations]
  simp only [none_]
  exact yields_ok _

theorem takeKind?_stop {k : Kind} (h : joins ts ≠ joint k) : takeKind? k ts = none := by
  refine takeKind?_eq_none.mpr ?_
  cases ts with
  | nil => rfl
  | cons t us => exact decide_eq_false fun is_kind => h (joins_cons is_kind us)

theorem assignOp?_stop (h : joins ts ≠ 11) : take? (fun t => assignOp? t.kind) ts = none := by
  refine take?_eq_none.mpr ?_
  rintro t us rfl
  cases found : assignOp? t.kind with
  | none => rfl
  | some op =>
    rw [joins_cons (assignOp?_eq_some.mp found), joint_assign] at h
    exact absurd rfl h

end

/-! ## Reading at a level -/

/-- What the parser of a level does with the tokens after the expression so far. -/
def After : Nat → Expr → List Token → Expr → List Token → Prop
  | 1, e, ts, x, rest => Yields (accesses e ts) x rest
  | 2, e, ts, x, rest => ∃ shorter, stepsAfter e ts = ⟨x, rest, shorter⟩
  | k + 4, e, ts, x, rest => Yields (operations k e ts) x rest
  | 0, e, ts, x, rest | 3, e, ts, x, rest => x = e ∧ rest = ts

/-- What the parser of a level yields.  The loosest one is that of `||`. -/
def AtLevel : Nat → List Token → Expr → List Token → Prop
  | 0, ts, x, rest => Yields (primary ts) x rest
  | 1, ts, x, rest => Yields (call ts) x rest
  | 2, ts, x, rest => ∃ e us, Yields (call ts) e us ∧ After 2 e us x rest
  | k + 3, ts, x, rest => Yields (binary k ts) x rest

/-- In front of tokens that do not join tighter, the tokens are read as an expression. -/
def ReadAt (k : Nat) (e : Expr) (ts : List Token) : Prop :=
  ∀ {rest : List Token} {x : Expr} {rest' : List Token}, k ≤ joins rest →
    After k e rest x rest' → AtLevel k (ts ++ rest) x rest'

/-- A level stops at a token that joins looser. -/
theorem after_self {k : Nat} {ts : List Token} (e : Expr) (h : k < joins ts) :
    After k e ts e ts :=
  match k, h with
  | 0, _ | 3, _ => ⟨rfl, rfl⟩
  | 1, h => accesses_stop e h
  | 2, h => ⟨_, stepsAfter_stop e (Nat.ne_of_gt h)⟩
  | _ + 4, h => operations_stop e (Nat.ne_of_gt h)

/-- In front of tokens that join looser, exactly the expression is read. -/
theorem ReadAt.stops {k : Nat} {e : Expr} {ts rest : List Token} (h : ReadAt k e ts)
    (looser : k < joins rest) : AtLevel k (ts ++ rest) e rest :=
  h (Nat.le_of_lt looser) (after_self e looser)

/-- What is read at a level is read at the next one.  An operand of a prefix operator must
not start with one. -/
theorem ReadAt.succ {k : Nat} {e : Expr} {ts : List Token} (h : ReadAt k e ts)
    (operand : k = 2 → ∃ t us, ts = t :: us ∧ unaryOp? t.kind = none) :
    ReadAt (k + 1) e ts := by
  intro rest x rest' joins_ after
  have read := h.stops joins_
  match k with
  | 0 =>
    change Yields (call _) x rest'
    rw [call]
    exact Yields.bind read fun _ => Yields.bind after fun _ => yields_ok _
  | 1 => exact ⟨e, rest, read, after⟩
  | 2 =>
    obtain ⟨rfl, rfl⟩ := after
    obtain ⟨e', us, called, _, steps⟩ := read
    obtain ⟨t, vs, rfl, not_operator⟩ := operand rfl
    change Yields (binary 0 _) _ _
    rw [binary, unary]
    have none_ : take? (fun t => (unaryOp? t.kind).map (·, t.span)) (t :: vs ++ rest') = none := by
      simp [take?, not_operator]
    simp only [none_]
    refine called.bind fun _ => ?_
    simp only [steps]
    exact yields_ok _
  | k + 3 =>
    change Yields (binary (k + 1) _) x rest'
    rw [binary]
    exact Yields.bind read fun _ => Yields.bind after fun _ => yields_ok _

/-- What is read at the level of the expression is read at all looser ones. -/
theorem ReadAt.loosen {e : Expr} {us : List Token} {t : Token} (opened : e.OpenedBy t)
    (shaped : e.isShaped = true) (h : ReadAt e.level e (t :: us)) {k : Nat} (le : e.level ≤ k) :
    ReadAt k e (t :: us) := by
  induction le with
  | refl => exact h
  | @step k le ih =>
    refine ih.succ fun tight => ⟨t, us, rfl, opened.operator shaped ?_⟩
    exact tight ▸ le

end Scriptlet.Parser
