import Scriptlet.Proofs.Tree.Yields

/-!
# First tokens

The parser decides by the first token what it is about to read.  The first token
of an expression tells whether the expression could be taken for a statement,
and whether it is an operator in front of an operand (`Expr.OpenedBy`).  The
first token of a statement neither ends a block nor is an `else`
(`Stmt.Spelled.head`).
-/

namespace Scriptlet

/-- Whether an expression can start with a token of a kind. -/
def Kind.opensExpression : Kind → Bool
  | .number | .string | .identifier | .word .true_ | .word .false_ | .word .null
  | .word .function | .symbol .leftParen | .symbol .leftBracket | .symbol .leftBrace
  | .symbol .bang | .symbol .minus | .symbol .plusPlus | .symbol .minusMinus => true
  | _ => false

/-- What the first token of an expression tells about it. -/
structure Expr.OpenedBy (e : Expr) (t : Token) : Prop where
  expression : t.kind.opensExpression = true
  statement : e.opensLikeStatement = true ↔
    t.kind = .symbol .leftBrace ∨ t.kind = .word .function
  operator : e.isShaped = true → e.level ≤ 2 → Parser.unaryOp? t.kind = none

theorem BinaryOp.level_bounds (op : BinaryOp) : 4 ≤ op.level ∧ op.level ≤ 9 := by
  cases op <;> decide

namespace Expr

/-- An expression that starts with a shaped and tight one is opened by the same token. -/
theorem OpenedBy.extend {e e' : Expr} {t : Token} (h : e.OpenedBy t)
    (same : e'.opensLikeStatement = e.opensLikeStatement)
    (tight : e'.isShaped = true → e'.level ≤ 2 → e.isShaped = true ∧ e.level ≤ 2) :
    e'.OpenedBy t where
  expression := h.expression
  statement := same ▸ h.statement
  operator shaped level :=
    have ⟨shaped', level'⟩ := tight shaped level
    h.operator shaped' level'

/-- A token that opens an expression declares nothing. -/
theorem OpenedBy.not_declares {e : Expr} {t : Token} (h : e.OpenedBy t) :
    Parser.declareWord? t.kind = none ∧ t.kind ≠ .word .const := by
  have opens := h.expression
  constructor
  · cases found : Parser.declareWord? t.kind with
    | none => rfl
    | some word =>
      rw [Parser.declareWord?_eq_some.mp found] at opens
      cases word <;> cases opens
  · intro is_const
    rw [is_const] at opens
    cases opens

/-- A token of a fixed kind opens an expression. -/
theorem openedBy_of_kind {e : Expr} {t : Token} {k : Kind} (is_kind : t.kind = k)
    (opens : k.opensExpression = true) (operand : Parser.unaryOp? k = none)
    (same : e.opensLikeStatement = true ↔ k = .symbol .leftBrace ∨ k = .word .function) :
    e.OpenedBy t := by
  subst is_kind
  exact ⟨opens, same, fun _ _ => operand⟩

theorem Spelled.head : ∀ {e : Expr} {ts : List Token}, e.Spelled ts →
    ∃ t us, ts = t :: us ∧ e.OpenedBy t
  | _, _, .number is_kind | _, _, .string is_kind _ | _, _, .true_ is_kind
  | _, _, .false_ is_kind | _, _, .null is_kind | _, _, .identifier is_kind =>
    ⟨_, _, rfl, openedBy_of_kind is_kind rfl rfl (by simp [opensLikeStatement])⟩
  | _, _, .group is_kind _ _ | _, _, .array is_kind _ _ =>
    ⟨_, _, rfl, openedBy_of_kind is_kind rfl rfl (by simp [opensLikeStatement])⟩
  | _, _, .object is_kind _ _ | _, _, .function is_kind _ =>
    ⟨_, _, rfl, openedBy_of_kind is_kind rfl rfl (by simp [opensLikeStatement])⟩
  | _, _, .member first _ _ => by
    obtain ⟨t, us, rfl, opened⟩ := first.head
    refine ⟨t, _, rfl, opened.extend rfl fun shaped _ => ?_⟩
    simp only [isShaped, Bool.and_eq_true, decide_eq_true_eq] at shaped
    exact ⟨shaped.2, by omega⟩
  | _, _, .index first _ _ _ => by
    obtain ⟨t, us, rfl, opened⟩ := first.head
    refine ⟨t, _, rfl, opened.extend rfl fun shaped _ => ?_⟩
    simp only [isShaped, Bool.and_eq_true, decide_eq_true_eq] at shaped
    exact ⟨shaped.1.2, by omega⟩
  | _, _, .call first _ _ _ => by
    obtain ⟨t, us, rfl, opened⟩ := first.head
    refine ⟨t, _, rfl, opened.extend rfl fun shaped _ => ?_⟩
    simp only [isShaped, Bool.and_eq_true, decide_eq_true_eq] at shaped
    exact ⟨shaped.1.2, by omega⟩
  | _, _, .stepAfter first _ => by
    obtain ⟨t, us, rfl, opened⟩ := first.head
    refine ⟨t, _, rfl, opened.extend rfl fun shaped _ => ?_⟩
    simp only [isShaped, Bool.and_eq_true, decide_eq_true_eq] at shaped
    exact ⟨shaped.2, shaped.1⟩
  | .unary op _ _, _, .unary is_kind _ => by
    refine ⟨_, _, rfl, ?_, ?_, fun _ tight => absurd tight (by simp [level])⟩
    · rw [is_kind]
      cases op with
      | negate | not => rfl
      | step op => cases op <;> rfl
    · rw [is_kind]
      cases op with
      | negate | not => simp [opensLikeStatement, UnaryOp.symbol]
      | step op => cases op <;> simp [opensLikeStatement, UnaryOp.symbol, StepOp.symbol]
  | .binary op _ _ _, _, .binary first _ _ => by
    obtain ⟨t, us, rfl, opened⟩ := first.head
    refine ⟨t, _, rfl, opened.extend rfl fun _ tight => absurd tight ?_⟩
    have loose := op.level_bounds
    simp only [level]
    omega
  | _, _, .conditional first _ _ _ _ => by
    obtain ⟨t, us, rfl, opened⟩ := first.head
    exact ⟨t, _, rfl, opened.extend rfl fun _ tight => absurd tight (by simp [level])⟩
  | _, _, .assign first _ _ => by
    obtain ⟨t, us, rfl, opened⟩ := first.head
    exact ⟨t, _, rfl, opened.extend rfl fun _ tight => absurd tight (by simp [level])⟩

end Expr

/-- A statement starts with a token that neither ends a block nor is an `else`. -/
theorem Stmt.Spelled.head {s : Stmt} {ts : List Token} (h : s.Spelled ts) :
    ∃ t us, ts = t :: us ∧ t.kind ≠ .symbol .rightBrace ∧ t.kind ≠ .word .else_ := by
  cases h with
  | block is_kind | constant is_kind | print is_kind | if_ is_kind | ifElse is_kind
  | while_ is_kind | for_ is_kind | break_ is_kind | continue_ is_kind | return_ is_kind
  | function is_kind =>
    exact ⟨_, _, rfl, by simp [is_kind], by simp [is_kind]⟩
  | @declare word _ _ _ _ _ is_kind | @declareWith word _ _ _ _ _ _ _ _ is_kind =>
    refine ⟨_, _, rfl, by simp [is_kind], ?_⟩
    rw [is_kind]
    cases word <;> decide
  | expr spelled =>
    obtain ⟨t, us, rfl, opened⟩ := spelled.head
    refine ⟨t, _, rfl, ?_, ?_⟩
    · intro is_kind
      have opens := opened.expression
      rw [is_kind] at opens
      cases opens
    · intro is_kind
      have opens := opened.expression
      rw [is_kind] at opens
      cases opens

end Scriptlet
