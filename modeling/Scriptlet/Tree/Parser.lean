import Scriptlet.Tree.Basic
import Scriptlet.Tree.Refusal

/-!
# Parsing

The parser reads the tokens of a program from left to right and never goes
back.  A parser for a kind of node takes the tokens that are left.  It gives
the node with the tokens after it, or refuses the tokens at which it stopped
(`Refusal`).

What a parser gives carries a proof that fewer tokens are left than a bound,
`Parsed α bound`.  With the number of tokens it was given as the bound, it has
consumed at least one.  With one more, it may have consumed none.  This is what
the recursion ends by.  A parser may call another one of a lower rank on the
same tokens, and any one on fewer tokens.

The binary operators have six levels of looseness.  `binary n` reads operators
of looseness at most `n`, so `binary 0` reads none and `binary 6` reads all.
Its operators group to the left, assignment and `?:` group to the right.
-/

namespace Scriptlet

/-! ## Results -/

/-- A value read off the tokens, with the tokens after it. -/
structure Parsed (α : Type) (bound : Nat) where
  /-- What was read. -/
  value : α
  /-- The tokens that are left. -/
  rest : List Token
  /-- There are fewer of them than the bound. -/
  shorter : rest.length < bound

/-- What a parser gives. -/
abbrev ParseResult (α : Type) (bound : Nat) := Except Refusal (Parsed α bound)

namespace Parser

/-! ## Single tokens -/

/-- Stops at the tokens that are left. -/
def refuse {α : Type} {bound : Nat} (ts : List Token) (cause : Refusal.Cause) :
    ParseResult α bound :=
  .error ⟨ts, cause⟩

/-- Takes the first token if it is of use. -/
def take? {β : Type} (use : Token → Option β) (ts : List Token) : Option (Parsed β ts.length) :=
  match ts with
  | [] => none
  | t :: rest => (use t).map fun b => ⟨b, rest, by simp⟩

/-- The use of a token of a given kind is the token. -/
def ofKind (k : Kind) (t : Token) : Option Token := if t.kind = k then some t else none

/-- Takes the first token if it is of a given kind. -/
def takeKind? (k : Kind) (ts : List Token) : Option (Parsed Token ts.length) :=
  take? (ofKind k) ts

/-- Whether the first token is of a given kind. -/
def startsWith (k : Kind) (ts : List Token) : Bool := ts.head?.any fun t => t.kind = k

/-- Whether the input ends here: no token is left, or the first one marks the end. -/
def atEnd (ts : List Token) : Bool := ts.isEmpty || startsWith .eof ts

/-- Takes the first token, which must be of use. -/
def expectUse {β : Type} (use : Token → Option β) (e : Expectation) (ts : List Token) :
    ParseResult β ts.length :=
  match take? use ts with
  | some p => .ok p
  | none => refuse ts (.unexpected e)

/-- Takes the first token, which must be of a given kind. -/
def expect (k : Kind) (e : Expectation) (ts : List Token) : ParseResult Token ts.length :=
  expectUse (ofKind k) e ts

/-- Takes the first token, which must be a symbol. -/
def expectSymbol (s : Symbol) (e : Expectation) (ts : List Token) :
    ParseResult Token ts.length :=
  expect (.symbol s) e ts

/-- Takes the semicolon that ends a statement, and gives its span. -/
def semicolon (e : Expectation) (ts : List Token) : ParseResult Span ts.length := do
  let ⟨t, rest, shorter⟩ ← expectSymbol .semicolon e ts
  return ⟨t.span, rest, shorter⟩

/-! ## Tables -/

/-- The form of assignment that a token writes. -/
def assignOp? (k : Kind) : Option AssignOp :=
  match k with
  | .symbol .equal => some .set
  | .symbol .plusEqual => some .add
  | .symbol .minusEqual => some .sub
  | .symbol .starEqual => some .mul
  | .symbol .slashEqual => some .div
  | .symbol .percentEqual => some .rem
  | _ => none

/-- The binary operator that a token writes. -/
def binaryOp? (k : Kind) : Option BinaryOp :=
  match k with
  | .symbol .star => some .mul
  | .symbol .slash => some .div
  | .symbol .percent => some .rem
  | .symbol .plus => some .add
  | .symbol .minus => some .sub
  | .symbol .greater => some .gt
  | .symbol .greaterEqual => some .ge
  | .symbol .less => some .lt
  | .symbol .lessEqual => some .le
  | .symbol .equalEqual => some .eq
  | .symbol .bangEqual => some .ne
  | .symbol .andAnd => some .and
  | .symbol .orOr => some .or
  | _ => none

/-- How loosely a binary operator binds. -/
def looseness : BinaryOp → Nat
  | .mul | .div | .rem => 1
  | .add | .sub => 2
  | .gt | .ge | .lt | .le => 3
  | .eq | .ne => 4
  | .and => 5
  | .or => 6

/-- The operator in front of an operand that a token writes. -/
def unaryOp? (k : Kind) : Option UnaryOp :=
  match k with
  | .symbol .bang => some .not
  | .symbol .minus => some .negate
  | .symbol .plusPlus => some (.step .increment)
  | .symbol .minusMinus => some (.step .decrement)
  | _ => none

/-- The step that a token writes. -/
def stepOp? (k : Kind) : Option StepOp :=
  match k with
  | .symbol .plusPlus => some .increment
  | .symbol .minusMinus => some .decrement
  | _ => none

/-- The type that a token names. -/
def typeName? (k : Kind) : Option TypeName :=
  match k with
  | .word .numberType => some .number
  | .word .stringType => some .string
  | .word .booleanType => some .boolean
  | .word .anyType => some .any
  | _ => none

/-- The keyword of a variable declaration. -/
def declareWord? (k : Kind) : Option DeclareWord :=
  match k with
  | .word .var => some .var
  | .word .let_ => some .let_
  | _ => none

/-! ## Literals -/

/-- The number of a number token.  Without a literal the lexeme is read. -/
def numberOf (t : Token) : Number :=
  match t.literal with
  | some (.number n) => n
  | _ => (Number.read? t.lexeme.toList).getD Number.nan

/-- The string of a string token.  Without a literal it is the lexeme without
the quotes around it. -/
def stringOf (t : Token) : String :=
  match t.literal with
  | some (.string value _) => value
  | _ =>
    let inner := t.lexeme.toList.dropWhile (· = '"')
    String.ofList (inner.reverse.dropWhile (· = '"')).reverse

/-- The name that a token gives a property. -/
def propertyName? (t : Token) : Option String :=
  match t.kind with
  | .identifier => some t.lexeme
  | .string => if t.isUnterminated then none else some (stringOf t)
  | _ => none

/-- The expression that a token is by itself. -/
def atom? (t : Token) : Option Expr :=
  match t.kind with
  | .number => some (.number (numberOf t) t.span)
  | .string => if t.isUnterminated then none else some (.string (stringOf t) t.span)
  | .word .true_ => some (.boolean true t.span)
  | .word .false_ => some (.boolean false t.span)
  | .word .null => some (.null t.span)
  | .identifier => some (.identifier t.lexeme t.span)
  | _ => none

/-! ## Parts without expressions -/

/-- A type after a colon, if there is a colon. -/
def annotated (ts : List Token) : ParseResult (Option TypeName) (ts.length + 1) :=
  match takeKind? (.symbol .colon) ts with
  | none => .ok ⟨none, ts, Nat.lt_succ_self _⟩
  | some ⟨_, ts₁, _⟩ => do
    let ⟨type, ts₂, _⟩ ← expectUse (fun t => typeName? t.kind) .typeName ts₁
    return ⟨some type, ts₂, by omega⟩

/-- Parameters with commas between them, at least one. -/
def params (ts : List Token) : ParseResult (List Param) ts.length := do
  let ⟨name, ts₁, _⟩ ← expect .identifier .parameterName ts
  let ⟨type, ts₂, _⟩ ← annotated ts₁
  let param : Param := ⟨name.lexeme, type, name.span⟩
  match takeKind? (.symbol .comma) ts₂ with
  | none => return ⟨[param], ts₂, by omega⟩
  | some ⟨_, ts₃, _⟩ =>
    let ⟨others, ts₄, _⟩ ← params ts₃
    return ⟨param :: others, ts₄, by omega⟩
termination_by ts.length

/-- Parameters up to the closing parenthesis, maybe none. -/
def paramsUpTo (ts : List Token) : ParseResult (List Param) (ts.length + 1) :=
  if startsWith (.symbol .rightParen) ts then .ok ⟨[], ts, Nat.lt_succ_self _⟩
  else do
    let ⟨ps, ts₁, _⟩ ← params ts
    return ⟨ps, ts₁, by omega⟩

/-- The name of a function, if there is one. -/
def functionName (ts : List Token) : Parsed (Option String) (ts.length + 1) :=
  match takeKind? .identifier ts with
  | none => ⟨none, ts, Nat.lt_succ_self _⟩
  | some ⟨t, ts₁, _⟩ => ⟨some t.lexeme, ts₁, by omega⟩

/-- Steps after an expression. -/
def stepsAfter (e : Expr) (ts : List Token) : Parsed Expr (ts.length + 1) :=
  match take? (fun t => (stepOp? t.kind).map (·, t.span)) ts with
  | none => ⟨e, ts, Nat.lt_succ_self _⟩
  | some ⟨(op, s), ts₁, _⟩ =>
    let ⟨e', ts₂, _⟩ := stepsAfter (.stepAfter op e (e.span.merge s)) ts₁
    ⟨e', ts₂, by omega⟩
termination_by ts.length

/-! ## Expressions and statements -/

mutual

/-- An expression, assignments included. -/
def expression (ts : List Token) : ParseResult Expr ts.length := do
  let ⟨target, ts₁, _⟩ ← conditional ts
  match take? (fun t => assignOp? t.kind) ts₁ with
  | none => return ⟨target, ts₁, by omega⟩
  | some ⟨op, ts₂, _⟩ =>
    if target.isAssignable then
      let ⟨value, ts₃, _⟩ ← expression ts₂
      return ⟨.assign op target value (target.span.merge value.span), ts₃, by omega⟩
    else refuse ts₁ (.invalidTarget target.span)
termination_by 20 * ts.length + 12

/-- An expression without a bare assignment. -/
def conditional (ts : List Token) : ParseResult Expr ts.length := do
  let ⟨condition, ts₁, _⟩ ← binary 6 ts
  match takeKind? (.symbol .question) ts₁ with
  | none => return ⟨condition, ts₁, by omega⟩
  | some ⟨_, ts₂, _⟩ =>
    let ⟨whenTrue, ts₃, _⟩ ← expression ts₂
    let ⟨_, ts₄, _⟩ ← expectSymbol .colon .conditionalColon ts₃
    let ⟨whenFalse, ts₅, _⟩ ← expression ts₄
    let s := condition.span.merge whenFalse.span
    return ⟨.conditional condition whenTrue whenFalse s, ts₅, by omega⟩
termination_by 20 * ts.length + 11

/-- An expression whose binary operators have at most a given looseness. -/
def binary (n : Nat) (ts : List Token) : ParseResult Expr ts.length :=
  match n with
  | 0 => unary ts
  | n + 1 => do
    let ⟨left, ts₁, _⟩ ← binary n ts
    let ⟨e, ts₂, _⟩ ← operations n left ts₁
    return ⟨e, ts₂, by omega⟩
termination_by 20 * ts.length + 4 + n

/-- Operators of looseness `n + 1` with their right operands, after a left
operand. -/
def operations (n : Nat) (left : Expr) (ts : List Token) : ParseResult Expr (ts.length + 1) :=
  match take? (fun t => (binaryOp? t.kind).filter (looseness · = n + 1)) ts with
  | none => return ⟨left, ts, Nat.lt_succ_self _⟩
  | some ⟨op, ts₁, _⟩ => do
    let ⟨right, ts₂, _⟩ ← binary n ts₁
    let ⟨e, ts₃, _⟩ ← operations n (.binary op left right (left.span.merge right.span)) ts₂
    return ⟨e, ts₃, by omega⟩
termination_by 20 * ts.length + 4 + n

/-- An expression without binary operators. -/
def unary (ts : List Token) : ParseResult Expr ts.length :=
  match take? (fun t => (unaryOp? t.kind).map (·, t.span)) ts with
  | none => do
    let ⟨e, ts₁, _⟩ ← call ts
    let ⟨e', ts₂, _⟩ := stepsAfter e ts₁
    return ⟨e', ts₂, by omega⟩
  | some ⟨(op, s), ts₁, _⟩ => do
    let ⟨operand, ts₂, _⟩ ← unary ts₁
    return ⟨.unary op operand (s.merge operand.span), ts₂, by omega⟩
termination_by 20 * ts.length + 3

/-- A primary expression with calls, members and indexes after it. -/
def call (ts : List Token) : ParseResult Expr ts.length := do
  let ⟨e, ts₁, _⟩ ← primary ts
  let ⟨e', ts₂, _⟩ ← accesses e ts₁
  return ⟨e', ts₂, by omega⟩
termination_by 20 * ts.length + 2

/-- Calls, members and indexes after an expression. -/
def accesses (e : Expr) (ts : List Token) : ParseResult Expr (ts.length + 1) :=
  match take? (fun t => some t.kind) ts with
  | some ⟨.symbol .leftParen, ts₁, _⟩ => do
    let ⟨args, ts₂, _⟩ ← arguments ts₁
    let ⟨close, ts₃, _⟩ ← expectSymbol .rightParen .argumentsClose ts₂
    let ⟨e', ts₄, _⟩ ← accesses (.call e args (e.span.merge close.span)) ts₃
    return ⟨e', ts₄, by omega⟩
  | some ⟨.symbol .dot, ts₁, _⟩ => do
    let ⟨name, ts₂, _⟩ ← expect .identifier .property ts₁
    let ⟨e', ts₃, _⟩ ← accesses (.member e name.lexeme (e.span.merge name.span)) ts₂
    return ⟨e', ts₃, by omega⟩
  | some ⟨.symbol .leftBracket, ts₁, _⟩ => do
    let ⟨key, ts₂, _⟩ ← expression ts₁
    let ⟨close, ts₃, _⟩ ← expectSymbol .rightBracket .indexClose ts₂
    let ⟨e', ts₄, _⟩ ← accesses (.index e key (e.span.merge close.span)) ts₃
    return ⟨e', ts₄, by omega⟩
  | _ => return ⟨e, ts, Nat.lt_succ_self _⟩
termination_by 20 * ts.length + 1

/-- Arguments up to the closing parenthesis, maybe none. -/
def arguments (ts : List Token) : ParseResult (List Expr) (ts.length + 1) :=
  if startsWith (.symbol .rightParen) ts then .ok ⟨[], ts, Nat.lt_succ_self _⟩
  else do
    let ⟨args, ts₁, _⟩ ← someArguments ts
    return ⟨args, ts₁, by omega⟩
termination_by 20 * ts.length + 14

/-- Arguments with commas between them, at least one. -/
def someArguments (ts : List Token) : ParseResult (List Expr) ts.length := do
  let ⟨e, ts₁, _⟩ ← expression ts
  match takeKind? (.symbol .comma) ts₁ with
  | none => return ⟨[e], ts₁, by omega⟩
  | some ⟨_, ts₂, _⟩ =>
    let ⟨es, ts₃, _⟩ ← someArguments ts₂
    return ⟨e :: es, ts₃, by omega⟩
termination_by 20 * ts.length + 13

/-- The elements of an array, maybe with a comma after the last one. -/
def elements (ts : List Token) : ParseResult (List Expr) (ts.length + 1) :=
  if startsWith (.symbol .rightBracket) ts then .ok ⟨[], ts, Nat.lt_succ_self _⟩
  else do
    let ⟨e, ts₁, _⟩ ← expression ts
    match takeKind? (.symbol .comma) ts₁ with
    | none => return ⟨[e], ts₁, by omega⟩
    | some ⟨_, ts₂, _⟩ =>
      let ⟨es, ts₃, _⟩ ← elements ts₂
      return ⟨e :: es, ts₃, by omega⟩
termination_by 20 * ts.length + 13

/-- The properties of an object, maybe with a comma after the last one. -/
def properties (ts : List Token) : ParseResult (List (String × Expr)) (ts.length + 1) :=
  if startsWith (.symbol .rightBrace) ts then .ok ⟨[], ts, Nat.lt_succ_self _⟩
  else do
    let ⟨name, ts₁, _⟩ ← expectUse propertyName? .propertyName ts
    let ⟨_, ts₂, _⟩ ← expectSymbol .colon .propertyColon ts₁
    let ⟨e, ts₃, _⟩ ← expression ts₂
    match takeKind? (.symbol .comma) ts₃ with
    | none => return ⟨[(name, e)], ts₃, by omega⟩
    | some ⟨_, ts₄, _⟩ =>
      let ⟨others, ts₅, _⟩ ← properties ts₄
      return ⟨(name, e) :: others, ts₅, by omega⟩
termination_by 20 * ts.length

/-- A literal, a name, a function, or an expression in parentheses. -/
def primary (ts : List Token) : ParseResult Expr ts.length :=
  match take? some ts with
  | none => refuse ts (.unexpected .expression)
  | some ⟨t, ts₁, _⟩ =>
    match atom? t with
    | some e => return ⟨e, ts₁, by omega⟩
    | none =>
      match t.kind with
      | .string => refuse ts .unterminated
      | .symbol .leftParen => do
        let ⟨inner, ts₂, _⟩ ← expression ts₁
        let ⟨close, ts₃, _⟩ ← expectSymbol .rightParen .groupClose ts₂
        return ⟨.group inner (t.span.merge close.span), ts₃, by omega⟩
      | .symbol .leftBracket => do
        let ⟨es, ts₂, _⟩ ← elements ts₁
        let ⟨close, ts₃, _⟩ ← expectSymbol .rightBracket .arrayClose ts₂
        return ⟨.array es (t.span.merge close.span), ts₃, by omega⟩
      | .symbol .leftBrace => do
        let ⟨ps, ts₂, _⟩ ← properties ts₁
        let ⟨close, ts₃, _⟩ ← expectSymbol .rightBrace .objectClose ts₂
        return ⟨.object ps (t.span.merge close.span), ts₃, by omega⟩
      | .word .function => do
        let ⟨f, ts₂, _⟩ ← functionRest t.span ts₁
        return ⟨.function f, ts₂, by omega⟩
      | _ => refuse ts (.unexpected .expression)
termination_by 20 * ts.length

/-- What follows the keyword of a function. -/
def functionRest (start : Span) (ts : List Token) : ParseResult Function ts.length := do
  let ⟨name, ts₁, _⟩ := functionName ts
  let ⟨_, ts₂, _⟩ ← expectSymbol .leftParen .parametersOpen ts₁
  let ⟨ps, ts₃, _⟩ ← paramsUpTo ts₂
  let ⟨_, ts₄, _⟩ ← expectSymbol .rightParen .parametersClose ts₃
  let ⟨returns, ts₅, _⟩ ← annotated ts₄
  let ⟨(body, s), ts₆, _⟩ ← block ts₅
  return ⟨.mk name ps returns body (start.merge s), ts₆, by omega⟩
termination_by 20 * ts.length

/-- Statements in braces, with the span of the braces. -/
def block (ts : List Token) : ParseResult (List Stmt × Span) ts.length := do
  let ⟨opening, ts₁, _⟩ ← expectSymbol .leftBrace .blockOpen ts
  let ⟨body, ts₂, _⟩ ← blockBody ts₁
  let ⟨close, ts₃, _⟩ ← expectSymbol .rightBrace .blockClose ts₂
  return ⟨(body, opening.span.merge close.span), ts₃, by omega⟩
termination_by 20 * ts.length

/-- Statements up to the closing brace, or to the end of the input. -/
def blockBody (ts : List Token) : ParseResult (List Stmt) (ts.length + 1) :=
  if atEnd ts || startsWith (.symbol .rightBrace) ts then .ok ⟨[], ts, Nat.lt_succ_self _⟩
  else do
    let ⟨s, ts₁, _⟩ ← declaration ts
    let ⟨ss, ts₂, _⟩ ← blockBody ts₁
    return ⟨s :: ss, ts₂, by omega⟩
termination_by 20 * ts.length + 16

/-- A declaration of a variable or constant, or a statement. -/
def declaration (ts : List Token) : ParseResult Stmt ts.length :=
  match take? (fun t => (declareWord? t.kind).map (·, t.span)) ts with
  | some ⟨(word, s), ts₁, _⟩ => do
    let ⟨d, ts₂, _⟩ ← variableRest word s ts₁
    return ⟨d, ts₂, by omega⟩
  | none =>
    match takeKind? (.word .const) ts with
    | some ⟨t, ts₁, _⟩ => do
      let ⟨d, ts₂, _⟩ ← constantRest t.span ts₁
      return ⟨d, ts₂, by omega⟩
    | none => statement ts
termination_by 20 * ts.length + 15

/-- What follows the keyword of a variable declaration. -/
def variableRest (word : DeclareWord) (start : Span) (ts : List Token) :
    ParseResult Stmt ts.length := do
  let ⟨name, ts₁, _⟩ ← expect .identifier .variableName ts
  let ⟨type, ts₂, _⟩ ← annotated ts₁
  match takeKind? (.symbol .equal) ts₂ with
  | none =>
    let ⟨stop, ts₃, _⟩ ← semicolon .variableEnd ts₂
    return ⟨.declare word name.lexeme type none (start.merge stop), ts₃, by omega⟩
  | some ⟨_, ts₃, _⟩ =>
    let ⟨init, ts₄, _⟩ ← expression ts₃
    let ⟨stop, ts₅, _⟩ ← semicolon .variableEnd ts₄
    let type := type.getD (TypeName.infer init)
    return ⟨.declare word name.lexeme (some type) (some init) (start.merge stop), ts₅, by omega⟩
termination_by 20 * ts.length

/-- What follows the keyword of a constant declaration. -/
def constantRest (start : Span) (ts : List Token) : ParseResult Stmt ts.length := do
  let ⟨name, ts₁, _⟩ ← expect .identifier .constantName ts
  let ⟨type, ts₂, _⟩ ← annotated ts₁
  let ⟨_, ts₃, _⟩ ← expectSymbol .equal .constantInitializer ts₂
  let ⟨init, ts₄, _⟩ ← expression ts₃
  let ⟨stop, ts₅, _⟩ ← semicolon .constantEnd ts₄
  let type := type.getD (TypeName.infer init)
  return ⟨.constant name.lexeme (some type) init (start.merge stop), ts₅, by omega⟩
termination_by 20 * ts.length

/-- An expression with a semicolon. -/
def expressionStatement (ts : List Token) : ParseResult Stmt ts.length := do
  let ⟨e, ts₁, _⟩ ← expression ts
  let ⟨stop, ts₂, _⟩ ← semicolon .expressionEnd ts₁
  return ⟨.expr e (e.span.merge stop), ts₂, by omega⟩
termination_by 20 * ts.length + 13

/-- A statement that declares no variable and no constant. -/
def statement (ts : List Token) : ParseResult Stmt ts.length :=
  match take? some ts with
  | none => expressionStatement ts
  | some ⟨t, ts₁, _⟩ =>
    match t.kind with
    | .word .print => do
      let ⟨e, ts₂, _⟩ ← expression ts₁
      let ⟨stop, ts₃, _⟩ ← semicolon .printEnd ts₂
      return ⟨.print e (t.span.merge stop), ts₃, by omega⟩
    | .word .if_ => do
      let ⟨s, ts₂, _⟩ ← ifRest t.span ts₁
      return ⟨s, ts₂, by omega⟩
    | .word .while_ => do
      let ⟨_, ts₂, _⟩ ← expectSymbol .leftParen .whileOpen ts₁
      let ⟨condition, ts₃, _⟩ ← expression ts₂
      let ⟨_, ts₄, _⟩ ← expectSymbol .rightParen .whileClose ts₃
      let ⟨body, ts₅, _⟩ ← statement ts₄
      return ⟨.while_ condition body (t.span.merge body.span), ts₅, by omega⟩
    | .word .for_ => do
      let ⟨s, ts₂, _⟩ ← forRest t.span ts₁
      return ⟨s, ts₂, by omega⟩
    | .word .break_ => do
      let ⟨stop, ts₂, _⟩ ← semicolon .breakEnd ts₁
      return ⟨.break_ (t.span.merge stop), ts₂, by omega⟩
    | .word .continue_ => do
      let ⟨stop, ts₂, _⟩ ← semicolon .continueEnd ts₁
      return ⟨.continue_ (t.span.merge stop), ts₂, by omega⟩
    | .word .return_ => do
      let ⟨value, ts₂, _⟩ ← optionalExpression .semicolon ts₁
      let ⟨stop, ts₃, _⟩ ← semicolon .returnEnd ts₂
      return ⟨.return_ value (t.span.merge stop), ts₃, by omega⟩
    | .symbol .leftBrace => do
      let ⟨(body, s), ts₂, _⟩ ← block ts
      return ⟨.block body s, ts₂, by omega⟩
    | .word .function => do
      let ⟨f, ts₂, _⟩ ← functionRest t.span ts₁
      if f.name.isSome then return ⟨.function f, ts₂, by omega⟩
      else
        let ⟨stop, ts₃, _⟩ ← semicolon .expressionEnd ts₂
        return ⟨.expr (.function f) (f.span.merge stop), ts₃, by omega⟩
    | _ => expressionStatement ts
termination_by 20 * ts.length + 14

/-- An expression, unless a symbol comes first. -/
def optionalExpression (stopper : Symbol) (ts : List Token) :
    ParseResult (Option Expr) (ts.length + 1) :=
  if startsWith (.symbol stopper) ts then .ok ⟨none, ts, Nat.lt_succ_self _⟩
  else do
    let ⟨e, ts₁, _⟩ ← expression ts
    return ⟨some e, ts₁, by omega⟩
termination_by 20 * ts.length + 13

/-- What follows the keyword of a conditional statement. -/
def ifRest (start : Span) (ts : List Token) : ParseResult Stmt ts.length := do
  let ⟨_, ts₁, _⟩ ← expectSymbol .leftParen .ifOpen ts
  let ⟨condition, ts₂, _⟩ ← expression ts₁
  let ⟨_, ts₃, _⟩ ← expectSymbol .rightParen .ifClose ts₂
  let ⟨whenTrue, ts₄, _⟩ ← statement ts₃
  let s := start.merge whenTrue.span
  match takeKind? (.word .else_) ts₄ with
  | none => return ⟨.if_ condition whenTrue none s, ts₄, by omega⟩
  | some ⟨_, ts₅, _⟩ =>
    let ⟨whenFalse, ts₆, _⟩ ← statement ts₅
    return ⟨.if_ condition whenTrue (some whenFalse) (s.merge whenFalse.span), ts₆, by omega⟩
termination_by 20 * ts.length

/-- The first clause of a `for` loop with its semicolon. -/
def forInit (ts : List Token) : ParseResult (Option Stmt) ts.length :=
  match take? some ts with
  | none => do
    let ⟨s, ts₁, _⟩ ← expressionStatement ts
    return ⟨some s, ts₁, by omega⟩
  | some ⟨t, ts₁, _⟩ =>
    match t.kind with
    | .symbol .semicolon => return ⟨none, ts₁, by omega⟩
    | .word .const => do
      let ⟨s, ts₂, _⟩ ← constantRest t.span ts₁
      return ⟨some s, ts₂, by omega⟩
    | k =>
      match declareWord? k with
      | some word => do
        let ⟨s, ts₂, _⟩ ← variableRest word t.span ts₁
        return ⟨some s, ts₂, by omega⟩
      | none => do
        let ⟨s, ts₂, _⟩ ← expressionStatement ts
        return ⟨some s, ts₂, by omega⟩
termination_by 20 * ts.length + 14

/-- What follows the keyword of a `for` loop. -/
def forRest (start : Span) (ts : List Token) : ParseResult Stmt ts.length := do
  let ⟨_, ts₁, _⟩ ← expectSymbol .leftParen .forOpen ts
  let ⟨init, ts₂, _⟩ ← forInit ts₁
  let ⟨condition, ts₃, _⟩ ← optionalExpression .semicolon ts₂
  let ⟨_, ts₄, _⟩ ← expectSymbol .semicolon .forConditionEnd ts₃
  let ⟨update, ts₅, _⟩ ← optionalExpression .rightParen ts₄
  let ⟨_, ts₆, _⟩ ← expectSymbol .rightParen .forClose ts₅
  let ⟨body, ts₇, _⟩ ← statement ts₆
  return ⟨.for_ init condition update body (start.merge body.span), ts₇, by omega⟩
termination_by 20 * ts.length

end

/-- All statements of a program. -/
def statements (ts : List Token) : Except Refusal (List Stmt) :=
  match ts with
  | [] => .ok []
  | t :: ts => do
    let ⟨s, ts₁, _⟩ ← declaration (t :: ts)
    let ss ← statements ts₁
    return s :: ss
termination_by ts.length
decreasing_by assumption

/-! ## The end of the input -/

/-- Whether a token marks the end of the input. -/
def isStop (t : Token) : Bool := t.kind = .eof

/-- The tokens that count: no white space, and nothing from the first end of
the input on. -/
def body (tokens : List Token) : List Token :=
  (Token.significant tokens).takeWhile fun t => !isStop t

/-- The end of the input where no token marks it: right after the last token. -/
def impliedStop (last : Option Token) : Token :=
  match last with
  | none => ⟨.eof, "", none, ⟨0, 0⟩, 1, 1⟩
  | some t => ⟨.eof, "", none, ⟨t.span.stop, t.span.stop⟩, t.line, t.column + t.lexeme.length⟩

/-- The token found where the input ends. -/
def stop (tokens : List Token) : Token :=
  ((Token.significant tokens).find? isStop).getD
    (impliedStop (Token.significant tokens).getLast?)

section

variable {ts : List Token} {e : Token} (inside : ∀ t ∈ ts, t.kind ≠ .eof) (is_eof : e.kind = .eof)

include is_eof in
theorem significant_append_eof : Token.significant (ts ++ [e]) = Token.significant ts ++ [e] := by
  simp [Token.significant, is_eof]

include inside in
theorem isStop_of_significant : ∀ t ∈ Token.significant ts, isStop t = false :=
  fun t member => decide_eq_false (inside t (List.mem_filter.mp member).1)

include inside is_eof

/-- In front of the end of the input all tokens count that are not white space. -/
theorem body_append_eof : body (ts ++ [e]) = Token.significant ts := by
  have goes_on : ∀ t ∈ Token.significant ts, (!isStop t) = true :=
    fun t member => by rw [isStop_of_significant inside t member]; rfl
  rw [body, significant_append_eof is_eof, List.takeWhile_append_of_pos goes_on]
  simp [isStop, is_eof]

/-- The token found where the input ends is the one that marks the end. -/
theorem stop_append_eof : stop (ts ++ [e]) = e := by
  have none_ : (Token.significant ts).find? isStop = none :=
    List.find?_eq_none.mpr fun t member => by simp [isStop_of_significant inside t member]
  rw [stop, significant_append_eof is_eof, List.find?_append, none_]
  simp [isStop, is_eof]

end

end Parser

/-! ## Entry points -/

/-- The program that tokens spell. -/
def parseProgram (tokens : List Token) : Except ParseError Program :=
  match Parser.statements (Parser.body tokens) with
  | .ok body => .ok ⟨body⟩
  | .error r => .error (r.toError (Parser.stop tokens))

/-- The expression that tokens start with. -/
def parseExpression (tokens : List Token) : Except ParseError Expr :=
  match Parser.expression (Parser.body tokens) with
  | .ok p => .ok p.value
  | .error r => .error (r.toError (Parser.stop tokens))

/-- The program that a text spells. -/
def parseText (source : String) : Except ParseError Program :=
  match tokenize source with
  | .ok tokens => parseProgram tokens
  | .error e => .error (.lexical e)

/-! ## Parsing all tokens

The parser of a program is given the tokens in front of the end of the input (`Parser.body`).  Here
it is given all tokens but white space.  The end of the input may be anywhere among them, more than
once or not at all.  Past the last token the parser finds the end of the input as often as it looks.

A program is a loop over its declarations that goes on until the input ends.  The loop is given a
number of rounds, and has no result if they are too few.
-/

namespace Parser

/-- The token found past the last one.  It is the last one again if that marks the end. -/
def pastEnd (ts : List Token) : Token :=
  match ts.getLast? with
  | none => impliedStop none
  | some t => if isStop t then t else impliedStop (some t)

/-- The declarations up to the end of the input, one in a round. -/
def rounds (n : Nat) (ts : List Token) : Option (Except Refusal (List Stmt)) :=
  match n with
  | 0 => none
  | n + 1 =>
    if atEnd ts then some (.ok [])
    else
      match declaration ts with
      | .error r => some (.error r)
      | .ok p => (rounds n p.rest).map fun body => body.map (p.value :: ·)

end Parser

/-- The program that all tokens spell, in a number of rounds. -/
def parseWhole? (n : Nat) (tokens : List Token) : Option (Except ParseError Program) :=
  let ts := Token.significant tokens
  (Parser.rounds n ts).map fun
    | .ok body => .ok ⟨body⟩
    | .error r => .error (r.toError (Parser.pastEnd ts))

/-- The expression that all tokens start with. -/
def parseWholeExpression (tokens : List Token) : Except ParseError Expr :=
  let ts := Token.significant tokens
  match Parser.expression ts with
  | .ok p => .ok p.value
  | .error r => .error (r.toError (Parser.pastEnd ts))

end Scriptlet
