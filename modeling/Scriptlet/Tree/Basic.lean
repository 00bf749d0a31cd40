import Scriptlet.Span
import Scriptlet.Number.Basic

/-!
# Syntax trees

A program is a list of statements.  Statements hold expressions, expressions
hold functions, and functions hold statements, so the three are defined
together.  Every node carries the span of its source text.  A function that
stands as an expression or as a declaration has the span of the function.

The type of a declaration is the annotated one or, without an annotation, the
one of a literal initializer (`TypeName.infer`).
-/

namespace Scriptlet

/-! ## Types and operators -/

/-- The types that a declaration can ask for. -/
inductive TypeName where
  | number | string | boolean | any
deriving DecidableEq, Repr, Inhabited

/-- How a type is written. -/
def TypeName.text : TypeName → String
  | .number => "number"
  | .string => "string"
  | .boolean => "boolean"
  | .any => "any"

/-- Operators between two operands. -/
inductive BinaryOp where
  | add | sub | mul | div | rem | eq | ne | lt | le | gt | ge | and | or
deriving DecidableEq, Repr, Inhabited

/-- How an operator is written. -/
def BinaryOp.text : BinaryOp → String
  | .add => "+" | .sub => "-" | .mul => "*" | .div => "/" | .rem => "%"
  | .eq => "==" | .ne => "!=" | .lt => "<" | .le => "<=" | .gt => ">" | .ge => ">="
  | .and => "&&" | .or => "||"

/-- The forms of assignment. -/
inductive AssignOp where
  | set | add | sub | mul | div | rem
deriving DecidableEq, Repr, Inhabited

/-- The operator that a compound assignment applies first. -/
def AssignOp.binary? : AssignOp → Option BinaryOp
  | .set => none
  | .add => some .add
  | .sub => some .sub
  | .mul => some .mul
  | .div => some .div
  | .rem => some .rem

/-- Counting a variable up or down. -/
inductive StepOp where
  | increment | decrement
deriving DecidableEq, Repr, Inhabited

/-- How a step is written. -/
def StepOp.text : StepOp → String
  | .increment => "++"
  | .decrement => "--"

/-- What a step adds. -/
def StepOp.delta : StepOp → Number
  | .increment => Number.one
  | .decrement => Number.one.neg

/-- Operators in front of one operand. -/
inductive UnaryOp where
  | negate | not | step (s : StepOp)
deriving DecidableEq, Repr, Inhabited

/-- The two keywords that declare a variable. -/
inductive DeclareWord where
  | var | let_
deriving DecidableEq, Repr, Inhabited

/-! ## Nodes -/

/-- A parameter of a function. -/
structure Param where
  /-- Its name. -/
  name : String
  /-- The type it asks for. -/
  type : Option TypeName
  /-- The span of the name. -/
  span : Span
deriving DecidableEq, Repr, Inhabited

mutual

/-- An expression. -/
inductive Expr where
  | number (value : Number) (span : Span)
  | string (value : String) (span : Span)
  | boolean (value : Bool) (span : Span)
  | null (span : Span)
  | identifier (name : String) (span : Span)
  | group (inner : Expr) (span : Span)
  | array (elements : List Expr) (span : Span)
  | object (properties : List (String × Expr)) (span : Span)
  | function (f : Function)
  | member (object : Expr) (property : String) (span : Span)
  | index (object : Expr) (key : Expr) (span : Span)
  | call (callee : Expr) (args : List Expr) (span : Span)
  | unary (op : UnaryOp) (operand : Expr) (span : Span)
  | stepAfter (op : StepOp) (operand : Expr) (span : Span)
  | binary (op : BinaryOp) (left : Expr) (right : Expr) (span : Span)
  | conditional (condition : Expr) (whenTrue : Expr) (whenFalse : Expr) (span : Span)
  | assign (op : AssignOp) (target : Expr) (value : Expr) (span : Span)

/-- A statement. -/
inductive Stmt where
  | block (body : List Stmt) (span : Span)
  | declare (word : DeclareWord) (name : String) (type : Option TypeName) (init : Option Expr)
      (span : Span)
  | constant (name : String) (type : Option TypeName) (init : Expr) (span : Span)
  | expr (e : Expr) (span : Span)
  | print (e : Expr) (span : Span)
  | if_ (condition : Expr) (whenTrue : Stmt) (whenFalse : Option Stmt) (span : Span)
  | while_ (condition : Expr) (body : Stmt) (span : Span)
  | for_ (init : Option Stmt) (condition : Option Expr) (update : Option Expr) (body : Stmt)
      (span : Span)
  | break_ (span : Span)
  | continue_ (span : Span)
  | return_ (value : Option Expr) (span : Span)
  | function (f : Function)

/-- A function with its parameters and its body. -/
inductive Function where
  | mk (name : Option String) (params : List Param) (returns : Option TypeName)
      (body : List Stmt) (span : Span)

end

instance : Inhabited Expr := ⟨.null default⟩
instance : Inhabited Stmt := ⟨.break_ default⟩
instance : Inhabited Function := ⟨.mk none [] none [] default⟩

/-- A program: its top-level statements. -/
structure Program where
  /-- The statements in order. -/
  body : List Stmt
deriving Inhabited

namespace Function

/-- The name, if there is one. -/
def name : Function → Option String
  | .mk name _ _ _ _ => name

/-- The parameters. -/
def params : Function → List Param
  | .mk _ params _ _ _ => params

/-- The type that a result must have. -/
def returns : Function → Option TypeName
  | .mk _ _ returns _ _ => returns

/-- The statements of the body. -/
def body : Function → List Stmt
  | .mk _ _ _ body _ => body

/-- The source text from the keyword to the closing brace. -/
def span : Function → Span
  | .mk _ _ _ _ span => span

end Function

/-- The span of an expression. -/
def Expr.span : Expr → Span
  | .number _ s | .string _ s | .boolean _ s | .null s | .identifier _ s | .group _ s
  | .array _ s | .object _ s | .member _ _ s | .index _ _ s | .call _ _ s | .unary _ _ s
  | .stepAfter _ _ s | .binary _ _ _ s | .conditional _ _ _ s | .assign _ _ _ s => s
  | .function f => f.span

/-- The span of a statement. -/
def Stmt.span : Stmt → Span
  | .block _ s | .declare _ _ _ _ s | .constant _ _ _ s | .expr _ s | .print _ s
  | .if_ _ _ _ s | .while_ _ _ s | .for_ _ _ _ _ s | .break_ s | .continue_ s
  | .return_ _ s => s
  | .function f => f.span

/-- Whether an expression may stand on the left of an assignment. -/
def Expr.isAssignable : Expr → Bool
  | .identifier _ _ | .member _ _ _ | .index _ _ _ => true
  | _ => false

/-- The type of a literal.  Any other expression may have any type. -/
def TypeName.infer : Expr → TypeName
  | .number _ _ => .number
  | .string _ _ => .string
  | .boolean _ _ => .boolean
  | _ => .any

end Scriptlet
