import Scriptlet.Proofs.Tree.Rendering
import Scriptlet.Proofs.Tree.Soundness

/-!
# The grammar

What the tokens of well-shaped trees look like, without the trees.  There is a predicate on
tokens for each sort of node, and a lemma for each way to put the tokens of a node together
from those of its parts.

Where a part is missing it can be made up: `null` is an expression, `null;` is a statement,
and `{}` is the body of a function.
-/

namespace Scriptlet

open Glyph (kind_symbol kind_word)

/-! ## Sorts of nodes -/

/-- The tokens of an expression that is no looser than a level. -/
def IsExpr (k : Nat) (ts : List Token) : Prop := ∃ e : Expr, e.Fits k ts

/-- The tokens of an expression that could not be taken for a block or a function. -/
structure IsPlainExpr (ts : List Token) : Prop where
  expression : IsExpr 11 ts
  no_brace : Parser.startsWith (.symbol .leftBrace) ts = false
  no_function : Parser.startsWith (.word .function) ts = false

/-- The tokens of an expression that can be assigned to. -/
def IsTarget (ts : List Token) : Prop := ∃ e : Expr, e.Fits 10 ts ∧ e.isAssignable = true

/-- Tokens of expressions with commas between them. -/
def AreItems (trailing : Bool) (ts : List Token) : Prop :=
  ∃ es, ItemsSpelled trailing es ts ∧ areShaped es = true

/-- Tokens of arguments, at least one. -/
def AreArguments (ts : List Token) : Prop :=
  ∃ es, ItemsSpelled false es ts ∧ areShaped es = true ∧ es ≠ []

/-- Tokens of properties with commas between them. -/
def AreProperties (ts : List Token) : Prop :=
  ∃ ps, PropertiesSpelled ps ts ∧ propertiesShaped ps = true

/-- The tokens of an annotation, or none. -/
def IsAnnotation (ts : List Token) : Prop := ∃ type, Annotated type ts

/-- Tokens of parameters with commas between them. -/
def AreParams (ts : List Token) : Prop := ∃ ps, ParamsSpelled ps ts

/-- Tokens of parameters, at least one. -/
def AreSomeParams (ts : List Token) : Prop := ∃ ps, ParamsSpelled ps ts ∧ ps ≠ []

/-- The name of a function, or nothing. -/
def IsName (ts : List Token) : Prop := ∃ name, Named name ts

/-- Tokens of statements in a row. -/
def AreStatements (ts : List Token) : Prop := ∃ ss, BodySpelled ss ts ∧ allShaped ss = true

/-- Tokens of statements in braces. -/
def IsBlock (ts : List Token) : Prop :=
  ∃ left us right, ts = left :: us ++ [right] ∧ left.kind = .symbol .leftBrace ∧
    AreStatements us ∧ right.kind = .symbol .rightBrace

/-- The tokens of a function after its keyword. -/
def IsFunction (start : Span) (ts : List Token) : Prop :=
  ∃ f : Function, f.Spelled start ts ∧ f.isShaped = true

/-- The tokens of a statement. -/
def IsStatement (ts : List Token) : Prop := ∃ s : Stmt, s.Fits ts

/-- The tokens of a statement that declares no variable. -/
def IsPlain (ts : List Token) : Prop := ∃ s : Stmt, s.Fits ts ∧ s.isVariable = false

/-- The tokens of a statement that declares a variable. -/
def IsVariable (ts : List Token) : Prop := ∃ s : Stmt, s.Fits ts ∧ s.isVariable = true

/-- The tokens of the first clause of a loop. -/
def IsInit (ts : List Token) : Prop := ∃ s, InitSpelled s ts ∧ initShaped s = true

/-- The tokens of an expression, or none. -/
def IsOptional (ts : List Token) : Prop := ∃ e, OptionalSpelled e ts ∧ optionalShaped e = true

section

variable {k : Nat} {ts us vs ws : List Token} {t opening close : Token}

/-! ## Expressions -/

/-- An expression fits wherever a looser one does. -/
theorem IsExpr.mono {j : Nat} (h : IsExpr j ts) (le : j ≤ k) : IsExpr k ts := by
  obtain ⟨e, fits⟩ := h
  exact ⟨e, fits.mono le⟩

theorem isExpr_null (k : Nat) : IsExpr k [(Glyph.word .null).token] :=
  ⟨_, .null (kind_word .null), rfl, Nat.zero_le k⟩

/-- The expression that is made up where one is missing. -/
theorem isPlainExpr_null : IsPlainExpr [(Glyph.word .null).token] := ⟨isExpr_null 11, rfl, rfl⟩

/-- Any expression is a primary one between parentheses. -/
theorem isExpr_group (is_open : opening.kind = .symbol .leftParen) (inner : IsExpr 11 ts)
    (is_close : close.kind = .symbol .rightParen) : IsExpr 0 (opening :: (ts ++ [close])) := by
  obtain ⟨e, fits⟩ := inner
  exact ⟨_, .group is_open fits.spelled is_close, fits.shaped, Nat.le_refl 0⟩

theorem isExpr_array (is_open : opening.kind = .symbol .leftBracket) (items : AreItems true ts)
    (is_close : close.kind = .symbol .rightBracket) : IsExpr 0 (opening :: (ts ++ [close])) := by
  obtain ⟨es, spelled, shaped⟩ := items
  exact ⟨_, .array is_open spelled is_close, shaped, Nat.le_refl 0⟩

theorem isExpr_object (is_open : opening.kind = .symbol .leftBrace) (properties : AreProperties ts)
    (is_close : close.kind = .symbol .rightBrace) : IsExpr 0 (opening :: (ts ++ [close])) := by
  obtain ⟨ps, spelled, shaped⟩ := properties
  exact ⟨_, .object is_open spelled is_close, shaped, Nat.le_refl 0⟩

theorem isExpr_function (is_word : t.kind = .word .function) (inner : IsFunction t.span ts) :
    IsExpr 0 (t :: ts) := by
  obtain ⟨f, spelled, shaped⟩ := inner
  exact ⟨_, .function is_word spelled, shaped, Nat.le_refl 0⟩

/-- A dot and a name go behind what can be called. -/
theorem isExpr_member {dot name : Token} (base : IsExpr 1 ts) (is_dot : dot.kind = .symbol .dot)
    (is_name : name.kind = .identifier) : IsExpr 1 (ts ++ [dot, name]) := by
  obtain ⟨e, fits⟩ := base
  refine ⟨_, .member fits.spelled is_dot is_name, ?_, Nat.le_refl 1⟩
  simp [Expr.isShaped, fits.level, fits.shaped]

theorem isExpr_index (base : IsExpr 1 ts) (is_open : opening.kind = .symbol .leftBracket)
    (key : IsExpr 11 us) (is_close : close.kind = .symbol .rightBracket) :
    IsExpr 1 (ts ++ opening :: (us ++ [close])) := by
  obtain ⟨e, fits⟩ := base
  obtain ⟨k, key_fits⟩ := key
  have spelled := Expr.Spelled.index fits.spelled is_open key_fits.spelled is_close
  rw [List.append_assoc, List.cons_append] at spelled
  refine ⟨_, spelled, ?_, Nat.le_refl 1⟩
  simp [Expr.isShaped, fits.level, fits.shaped, key_fits.shaped]

theorem isExpr_call (base : IsExpr 1 ts) (is_open : opening.kind = .symbol .leftParen)
    (args : AreItems false us) (is_close : close.kind = .symbol .rightParen) :
    IsExpr 1 (ts ++ opening :: (us ++ [close])) := by
  obtain ⟨e, fits⟩ := base
  obtain ⟨es, args_spelled, args_shaped⟩ := args
  have spelled := Expr.Spelled.call fits.spelled is_open args_spelled is_close
  rw [List.append_assoc, List.cons_append] at spelled
  refine ⟨_, spelled, ?_, Nat.le_refl 1⟩
  simp [Expr.isShaped, fits.level, fits.shaped, args_shaped]

theorem isExpr_unary {op : UnaryOp} (is_op : t.kind = .symbol op.symbol) (operand : IsExpr 3 ts) :
    IsExpr 3 (t :: ts) := by
  obtain ⟨e, fits⟩ := operand
  refine ⟨_, .unary is_op fits.spelled, ?_, Nat.le_refl 3⟩
  simp [Expr.isShaped, fits.level, fits.shaped]

/-- The left operand may be as loose as the operator itself, the right one must be tighter. -/
theorem isExpr_binary {op : BinaryOp} (level : op.level = k + 4) (left : IsExpr (k + 4) ts)
    (is_op : t.kind = .symbol op.symbol) (right : IsExpr (k + 3) us) :
    IsExpr (k + 4) (ts ++ t :: us) := by
  obtain ⟨l, l_fits⟩ := left
  obtain ⟨r, r_fits⟩ := right
  refine ⟨_, .binary l_fits.spelled is_op r_fits.spelled, ?_, Nat.le_of_eq level⟩
  have tight : r.level < k + 4 := Nat.lt_succ_of_le r_fits.level
  simp [Expr.isShaped, level, l_fits.level, tight, l_fits.shaped, r_fits.shaped]

/-- Between the signs of a condition, and behind them, stands any expression. -/
theorem isExpr_conditional {question colon : Token} (condition : IsExpr 9 ts)
    (is_question : question.kind = .symbol .question) (first : IsExpr 11 us)
    (is_colon : colon.kind = .symbol .colon) (second : IsExpr 11 vs) :
    IsExpr 10 (ts ++ question :: (us ++ colon :: vs)) := by
  obtain ⟨c, c_fits⟩ := condition
  obtain ⟨a, a_fits⟩ := first
  obtain ⟨b, b_fits⟩ := second
  have spelled := Expr.Spelled.conditional c_fits.spelled is_question a_fits.spelled is_colon
    b_fits.spelled
  rw [List.append_assoc, List.cons_append] at spelled
  refine ⟨_, spelled, ?_, Nat.le_refl 10⟩
  simp [Expr.isShaped, c_fits.level, c_fits.shaped, a_fits.shaped, b_fits.shaped]

/-- An assignment is the loosest expression, and its target must be one. -/
theorem isExpr_assign {op : AssignOp} (target : IsTarget ts) (is_op : t.kind = .symbol op.symbol)
    (value : IsExpr 11 us) : IsExpr 11 (ts ++ t :: us) := by
  obtain ⟨e, fits, assignable⟩ := target
  obtain ⟨v, v_fits⟩ := value
  refine ⟨_, .assign fits.spelled is_op v_fits.spelled, ?_, Nat.le_refl 11⟩
  simp [Expr.isShaped, assignable, fits.shaped, v_fits.shaped]

/-! ## Lists of expressions -/

theorem areItems_one {trailing : Bool} (first : IsExpr 11 ts) : AreItems trailing ts := by
  obtain ⟨e, fits⟩ := first
  exact ⟨[e], .one fits.spelled, by simp [areShaped, fits.shaped]⟩

/-- A comma may stand behind the last element, so `others` may be empty here. -/
theorem areItems_cons {comma : Token} (first : IsExpr 11 ts)
    (is_comma : comma.kind = .symbol .comma) (others : AreItems true us) :
    AreItems true (ts ++ comma :: us) := by
  obtain ⟨e, fits⟩ := first
  obtain ⟨es, spelled, shaped⟩ := others
  refine ⟨e :: es, .cons fits.spelled is_comma spelled (.inl rfl), ?_⟩
  simp [areShaped, fits.shaped, shaped]

/-- Arguments are items without a comma at the end. -/
theorem AreArguments.items (h : AreArguments ts) : AreItems false ts := by
  obtain ⟨es, spelled, shaped, -⟩ := h
  exact ⟨es, spelled, shaped⟩

theorem areArguments_one (first : IsExpr 11 ts) : AreArguments ts := by
  obtain ⟨e, fits⟩ := first
  exact ⟨[e], .one fits.spelled, by simp [areShaped, fits.shaped], List.cons_ne_nil _ _⟩

theorem areArguments_cons {comma : Token} (first : IsExpr 11 ts)
    (is_comma : comma.kind = .symbol .comma) (others : AreArguments us) :
    AreArguments (ts ++ comma :: us) := by
  obtain ⟨e, fits⟩ := first
  obtain ⟨es, spelled, shaped, some_⟩ := others
  refine ⟨e :: es, .cons fits.spelled is_comma spelled (.inr some_), ?_, List.cons_ne_nil _ _⟩
  simp [areShaped, fits.shaped, shaped]

theorem areProperties_one {name : String} {key colon : Token} (keyed : Keyed name key)
    (is_colon : colon.kind = .symbol .colon) (value : IsExpr 11 ts) :
    AreProperties (key :: colon :: ts) := by
  obtain ⟨e, fits⟩ := value
  exact ⟨_, .one keyed is_colon fits.spelled, by simp [propertiesShaped, fits.shaped]⟩

theorem areProperties_cons {name : String} {key colon comma : Token} (keyed : Keyed name key)
    (is_colon : colon.kind = .symbol .colon) (value : IsExpr 11 ts)
    (is_comma : comma.kind = .symbol .comma) (others : AreProperties us) :
    AreProperties (key :: colon :: (ts ++ comma :: us)) := by
  obtain ⟨e, fits⟩ := value
  obtain ⟨ps, spelled, shaped⟩ := others
  refine ⟨_, .cons keyed is_colon fits.spelled is_comma spelled, ?_⟩
  simp [propertiesShaped, fits.shaped, shaped]

/-! ## Functions -/

theorem isAnnotation_missing : IsAnnotation [] := ⟨none, .missing⟩

theorem areParams_nil : AreParams [] := ⟨[], .nil⟩

theorem AreSomeParams.params (h : AreSomeParams ts) : AreParams ts := by
  obtain ⟨ps, spelled, -⟩ := h
  exact ⟨ps, spelled⟩

theorem areSomeParams_one {name : Token} (is_name : name.kind = .identifier)
    (type : IsAnnotation ts) : AreSomeParams (name :: ts) := by
  obtain ⟨type, annotated⟩ := type
  exact ⟨_, .one (.mk is_name annotated), List.cons_ne_nil _ _⟩

theorem areSomeParams_cons {name comma : Token} (is_name : name.kind = .identifier)
    (type : IsAnnotation ts) (is_comma : comma.kind = .symbol .comma) (others : AreSomeParams us) :
    AreSomeParams (name :: (ts ++ comma :: us)) := by
  obtain ⟨type, annotated⟩ := type
  obtain ⟨ps, spelled, some_⟩ := others
  exact ⟨_, .cons (.mk is_name annotated) is_comma spelled some_, List.cons_ne_nil _ _⟩

theorem areStatements_nil : AreStatements [] := ⟨[], .nil, rfl⟩

/-- Statements follow each other without anything in between. -/
theorem areStatements_cons (first : IsStatement ts) (others : AreStatements us) :
    AreStatements (ts ++ us) := by
  obtain ⟨s, fits⟩ := first
  obtain ⟨ss, spelled, shaped⟩ := others
  exact ⟨s :: ss, .cons fits.spelled spelled, by simp [allShaped, fits.shaped, shaped]⟩

theorem isBlock {left right : Token} (is_left : left.kind = .symbol .leftBrace)
    (body : AreStatements ts) (is_right : right.kind = .symbol .rightBrace) :
    IsBlock (left :: (ts ++ [right])) :=
  ⟨left, ts, right, rfl, is_left, body, is_right⟩

/-- The body that is made up where one is missing. -/
theorem isBlock_empty :
    IsBlock [(Glyph.symbol .leftBrace).token, (Glyph.symbol .rightBrace).token] :=
  isBlock (kind_symbol _) areStatements_nil (kind_symbol _)

/-- A function without its first word. -/
theorem isFunction {start : Span} (named : IsName ts)
    (is_open : opening.kind = .symbol .leftParen) (params : AreParams us)
    (is_close : close.kind = .symbol .rightParen) (returns : IsAnnotation vs)
    (block : IsBlock ws) : IsFunction start (ts ++ opening :: (us ++ close :: (vs ++ ws))) := by
  obtain ⟨name, named⟩ := named
  obtain ⟨ps, params⟩ := params
  obtain ⟨type, returns⟩ := returns
  obtain ⟨left, body, right, rfl, is_left, ⟨ss, spelled, shaped⟩, is_right⟩ := block
  have whole : Function.Spelled start _ _ :=
    .mk named is_open params is_close returns is_left spelled is_right
  simp only [List.append_assoc, List.cons_append] at whole ⊢
  exact ⟨_, whole, shaped⟩

/-! ## Statements -/

theorem isStatement_of_isPlain (h : IsPlain ts) : IsStatement ts := by
  obtain ⟨s, fits, -⟩ := h
  exact ⟨s, fits⟩

theorem isStatement_of_isVariable (h : IsVariable ts) : IsStatement ts := by
  obtain ⟨s, fits, -⟩ := h
  exact ⟨s, fits⟩

theorem isPlain_block (h : IsBlock ts) : IsPlain ts := by
  obtain ⟨left, us, right, rfl, is_left, ⟨ss, spelled, shaped⟩, is_right⟩ := h
  exact ⟨_, ⟨.block is_left spelled is_right, shaped⟩, rfl⟩

/-- An expression is a statement unless it starts like a block or a function. -/
theorem isPlain_expr {stop : Token} (inner : IsPlainExpr ts)
    (is_stop : stop.kind = .symbol .semicolon) : IsPlain (ts ++ [stop]) := by
  obtain ⟨⟨e, fits⟩, no_brace, no_function⟩ := inner
  have plain : e.opensLikeStatement = false := by
    obtain ⟨t, us, rfl, opened⟩ := fits.spelled.head
    refine Bool.eq_false_iff.mpr fun opens => ?_
    obtain is_brace | is_word := opened.statement.mp opens
    · rw [Parser.startsWith_cons is_brace] at no_brace
      cases no_brace
    · rw [Parser.startsWith_cons is_word] at no_function
      cases no_function
  refine ⟨_, ⟨.expr fits.spelled is_stop, ?_⟩, rfl⟩
  simp [Stmt.isShaped, fits.shaped, plain]

/-- The statement that is made up where one is missing. -/
theorem isPlain_null :
    IsPlain [(Glyph.word .null).token, (Glyph.symbol .semicolon).token] :=
  isPlain_expr isPlainExpr_null (kind_symbol _)

theorem isPlain_print {stop : Token} (is_word : t.kind = .word .print) (inner : IsExpr 11 ts)
    (is_stop : stop.kind = .symbol .semicolon) : IsPlain (t :: (ts ++ [stop])) := by
  obtain ⟨e, fits⟩ := inner
  exact ⟨_, ⟨.print is_word fits.spelled is_stop, fits.shaped⟩, rfl⟩

theorem isPlain_if (is_word : t.kind = .word .if_) (is_open : opening.kind = .symbol .leftParen)
    (condition : IsExpr 11 ts) (is_close : close.kind = .symbol .rightParen)
    (branch : IsPlain us) : IsPlain (t :: opening :: (ts ++ close :: us)) := by
  obtain ⟨c, c_fits⟩ := condition
  obtain ⟨a, a_fits, plain⟩ := branch
  refine ⟨_, ⟨.if_ is_word is_open c_fits.spelled is_close a_fits.spelled, ?_⟩, rfl⟩
  simp [Stmt.isShaped, c_fits.shaped, plain, a_fits.shaped]

/-- The first branch of an `if` with an `else` must not end in an `if` without one. -/
theorem isPlain_ifElse {a : Stmt} {word : Token} (is_word : t.kind = .word .if_)
    (is_open : opening.kind = .symbol .leftParen) (condition : IsExpr 11 ts)
    (is_close : close.kind = .symbol .rightParen) (a_fits : a.Fits us)
    (plain : a.isVariable = false) (closed : a.endsOpen = false)
    (is_else : word.kind = .word .else_) (branch : IsPlain vs) :
    IsPlain (t :: opening :: (ts ++ close :: (us ++ word :: vs))) := by
  obtain ⟨c, c_fits⟩ := condition
  obtain ⟨b, b_fits, plain'⟩ := branch
  have spelled := Stmt.Spelled.ifElse is_word is_open c_fits.spelled is_close a_fits.spelled is_else
    b_fits.spelled
  simp only [List.append_assoc, List.cons_append] at spelled
  refine ⟨_, ⟨spelled, ?_⟩, rfl⟩
  simp [Stmt.isShaped, c_fits.shaped, plain, a_fits.shaped, closed, plain', b_fits.shaped]

theorem isPlain_while (is_word : t.kind = .word .while_)
    (is_open : opening.kind = .symbol .leftParen) (condition : IsExpr 11 ts)
    (is_close : close.kind = .symbol .rightParen) (body : IsPlain us) :
    IsPlain (t :: opening :: (ts ++ close :: us)) := by
  obtain ⟨c, c_fits⟩ := condition
  obtain ⟨a, a_fits, plain⟩ := body
  refine ⟨_, ⟨.while_ is_word is_open c_fits.spelled is_close a_fits.spelled, ?_⟩, rfl⟩
  simp [Stmt.isShaped, c_fits.shaped, plain, a_fits.shaped]

/-- The clauses of a loop may be missing, each on its own. -/
theorem isPlain_for {is : List Token} {stop : Token} (is_word : t.kind = .word .for_)
    (is_open : opening.kind = .symbol .leftParen) (start : IsInit is) (condition : IsOptional ts)
    (is_stop : stop.kind = .symbol .semicolon) (update : IsOptional us)
    (is_close : close.kind = .symbol .rightParen) (body : IsPlain vs) :
    IsPlain (t :: opening :: (is ++ (ts ++ stop :: (us ++ close :: vs)))) := by
  obtain ⟨init, init_spelled, init_shaped⟩ := start
  obtain ⟨c, c_spelled, c_shaped⟩ := condition
  obtain ⟨u, u_spelled, u_shaped⟩ := update
  obtain ⟨a, a_fits, plain⟩ := body
  have spelled := Stmt.Spelled.for_ is_word is_open init_spelled c_spelled is_stop u_spelled
    is_close a_fits.spelled
  simp only [List.append_assoc, List.cons_append] at spelled
  refine ⟨_, ⟨spelled, ?_⟩, rfl⟩
  simp [Stmt.isShaped, init_shaped, c_shaped, u_shaped, plain, a_fits.shaped]

theorem isPlain_break {stop : Token} (is_word : t.kind = .word .break_)
    (is_stop : stop.kind = .symbol .semicolon) : IsPlain [t, stop] :=
  ⟨_, ⟨.break_ is_word is_stop, rfl⟩, rfl⟩

theorem isPlain_continue {stop : Token} (is_word : t.kind = .word .continue_)
    (is_stop : stop.kind = .symbol .semicolon) : IsPlain [t, stop] :=
  ⟨_, ⟨.continue_ is_word is_stop, rfl⟩, rfl⟩

theorem isPlain_return {stop : Token} (is_word : t.kind = .word .return_) (value : IsOptional ts)
    (is_stop : stop.kind = .symbol .semicolon) : IsPlain (t :: (ts ++ [stop])) := by
  obtain ⟨e, spelled, shaped⟩ := value
  exact ⟨_, ⟨.return_ is_word spelled is_stop, shaped⟩, rfl⟩

/-- A function without a name is an expression that may stand by itself. -/
theorem isPlain_anonymous {f : Function} {stop : Token} (is_word : t.kind = .word .function)
    (spelled : f.Spelled t.span ts) (shaped : f.isShaped = true) (unnamed : ¬ f.name.isSome = true)
    (is_stop : stop.kind = .symbol .semicolon) : IsPlain (t :: (ts ++ [stop])) := by
  have anonymous : (Expr.function f).isAnonymous = true := by
    simpa [Expr.isAnonymous] using unnamed
  refine ⟨_, ⟨.expr (.function is_word spelled) is_stop, ?_⟩, rfl⟩
  simp [Stmt.isShaped, Expr.isShaped, shaped, anonymous]

/-- A function is a statement by itself if it has a name, and else with a semicolon. -/
theorem exists_isPlain_function (is_word : t.kind = .word .function)
    (inner : IsFunction t.span ts) : ∃ us, IsPlain (t :: (ts ++ us)) := by
  obtain ⟨f, spelled, shaped⟩ := inner
  by_cases named : f.name.isSome = true
  · refine ⟨[], _, ⟨.function is_word ((List.append_nil ts).symm ▸ spelled), ?_⟩, rfl⟩
    simp [Stmt.isShaped, named, shaped]
  · exact ⟨_, isPlain_anonymous is_word spelled shaped named (kind_symbol .semicolon)⟩

/-- A variable needs no initial value. -/
theorem isVariable_declare {word : DeclareWord} {name stop : Token}
    (is_word : t.kind = .word word.word) (is_name : name.kind = .identifier)
    (type : IsAnnotation ts) (is_stop : stop.kind = .symbol .semicolon) :
    IsVariable (t :: name :: (ts ++ [stop])) := by
  obtain ⟨type, annotated⟩ := type
  exact ⟨_, ⟨.declare is_word is_name annotated is_stop, rfl⟩, rfl⟩

theorem isVariable_declareWith {word : DeclareWord} {name equal stop : Token}
    (is_word : t.kind = .word word.word) (is_name : name.kind = .identifier)
    (type : IsAnnotation ts) (is_equal : equal.kind = .symbol .equal) (init : IsExpr 11 us)
    (is_stop : stop.kind = .symbol .semicolon) :
    IsVariable (t :: name :: (ts ++ equal :: (us ++ [stop]))) := by
  obtain ⟨type, annotated⟩ := type
  obtain ⟨e, fits⟩ := init
  have spelled := Stmt.Spelled.declareWith is_word is_name (Parser.declared_getD annotated e)
    is_equal fits.spelled is_stop
  simp only [List.append_assoc, List.cons_append] at spelled
  exact ⟨_, ⟨spelled, by simp [Stmt.isShaped, fits.shaped]⟩, rfl⟩

/-- A constant needs one. -/
theorem isVariable_constant {name equal stop : Token} (is_word : t.kind = .word .const)
    (is_name : name.kind = .identifier) (type : IsAnnotation ts)
    (is_equal : equal.kind = .symbol .equal) (init : IsExpr 11 us)
    (is_stop : stop.kind = .symbol .semicolon) :
    IsVariable (t :: name :: (ts ++ equal :: (us ++ [stop]))) := by
  obtain ⟨type, annotated⟩ := type
  obtain ⟨e, fits⟩ := init
  have spelled := Stmt.Spelled.constant is_word is_name (Parser.declared_getD annotated e) is_equal
    fits.spelled is_stop
  simp only [List.append_assoc, List.cons_append] at spelled
  exact ⟨_, ⟨spelled, by simp [Stmt.isShaped, fits.shaped]⟩, rfl⟩

/-! ## Clauses of loops -/

theorem isOptional_missing : IsOptional [] := ⟨none, .missing, rfl⟩

theorem isOptional_given (inner : IsExpr 11 ts) : IsOptional ts := by
  obtain ⟨e, fits⟩ := inner
  exact ⟨some e, .given fits.spelled, fits.shaped⟩

theorem isInit_missing {stop : Token} (is_stop : stop.kind = .symbol .semicolon) :
    IsInit [stop] :=
  ⟨none, .missing is_stop, rfl⟩

theorem isInit_expr {stop : Token} (inner : IsExpr 11 ts)
    (is_stop : stop.kind = .symbol .semicolon) : IsInit (ts ++ [stop]) := by
  obtain ⟨e, fits⟩ := inner
  exact ⟨_, .expr fits.spelled is_stop, fits.shaped⟩

/-- A loop may start with a declaration, which ends with a semicolon of its own. -/
theorem isInit_variable (h : IsVariable ts) : IsInit ts := by
  obtain ⟨s, fits, variable_⟩ := h
  exact ⟨some s, .variable_ variable_ fits.spelled,
    (initShaped_of_isVariable variable_).trans fits.shaped⟩

end

end Scriptlet
