import Scriptlet.Tree.Parser
import Scriptlet.Tree.Shape

/-!
# Spelling

Which tokens spell which trees.  A relation for each sort of node says how the
tokens of a node are put together from those of its parts.  It knows nothing of
precedence: an operator stands between its operands, whatever these are.  So the
tokens of a tree that is not well shaped may spell other trees as well.

The spans of a tree are part of what is spelled.  A node spans its tokens from
the first one to the last.

There is some choice.  An array or an object may have a comma after its last
item.  The type of a declaration need not be written if it is the one of the
initializer (`TypeName.infer`).  The name of a property is an identifier or a
string.
-/

namespace Scriptlet

/-! ## Words and symbols -/

/-- The symbol of a step. -/
def StepOp.symbol : StepOp → Symbol
  | .increment => .plusPlus
  | .decrement => .minusMinus

/-- The symbol of an operator in front of its operand. -/
def UnaryOp.symbol : UnaryOp → Symbol
  | .negate => .minus
  | .not => .bang
  | .step op => op.symbol

/-- The symbol of an operator between its operands. -/
def BinaryOp.symbol : BinaryOp → Symbol
  | .add => .plus | .sub => .minus | .mul => .star | .div => .slash | .rem => .percent
  | .eq => .equalEqual | .ne => .bangEqual | .lt => .less | .le => .lessEqual
  | .gt => .greater | .ge => .greaterEqual | .and => .andAnd | .or => .orOr

/-- The symbol of an assignment. -/
def AssignOp.symbol : AssignOp → Symbol
  | .set => .equal | .add => .plusEqual | .sub => .minusEqual | .mul => .starEqual
  | .div => .slashEqual | .rem => .percentEqual

/-- The word for a type. -/
def TypeName.word : TypeName → Word
  | .number => .numberType
  | .string => .stringType
  | .boolean => .booleanType
  | .any => .anyType

/-- The word that declares a variable. -/
def DeclareWord.word : DeclareWord → Word
  | .var => .var
  | .let_ => .let_

/-! ## Parts without expressions -/

/-- A colon and a type, or nothing. -/
inductive Annotated : Option TypeName → List Token → Prop
  | missing : Annotated none []
  | given {colon t : Token} {type : TypeName} :
    colon.kind = .symbol .colon → t.kind = .word type.word → Annotated (some type) [colon, t]

/-- The type of a declaration with an initializer: the one that is written, or the
one of the initializer. -/
inductive Declared (init : Expr) : Option TypeName → List Token → Prop
  | given {type : TypeName} {ts : List Token} :
    Annotated (some type) ts → Declared init (some type) ts
  | inferred : Declared init (some (TypeName.infer init)) []

/-- A parameter. -/
inductive Param.Spelled : Param → List Token → Prop
  | mk {name : Token} {type : Option TypeName} {ts : List Token} :
    name.kind = .identifier → Annotated type ts →
    Param.Spelled ⟨name.lexeme, type, name.span⟩ (name :: ts)

/-- Parameters with commas between them. -/
inductive ParamsSpelled : List Param → List Token → Prop
  | nil : ParamsSpelled [] []
  | one {p : Param} {ts : List Token} : p.Spelled ts → ParamsSpelled [p] ts
  | cons {p : Param} {ps : List Param} {ts us : List Token} {comma : Token} :
    p.Spelled ts → comma.kind = .symbol .comma → ParamsSpelled ps us → ps ≠ [] →
    ParamsSpelled (p :: ps) (ts ++ comma :: us)

/-- The name of a function, if it has one. -/
inductive Named : Option String → List Token → Prop
  | missing : Named none []
  | given {t : Token} : t.kind = .identifier → Named (some t.lexeme) [t]

/-- The name of a property. -/
inductive Keyed : String → Token → Prop
  | identifier {t : Token} : t.kind = .identifier → Keyed t.lexeme t
  | string {t : Token} :
    t.kind = .string → t.isUnterminated = false → Keyed (Parser.stringOf t) t

/-! ## Expressions and statements -/

mutual

/-- The tokens of an expression. -/
inductive Expr.Spelled : Expr → List Token → Prop
  | number {t : Token} :
    t.kind = .number → Expr.Spelled (.number (Parser.numberOf t) t.span) [t]
  | string {t : Token} :
    t.kind = .string → t.isUnterminated = false →
    Expr.Spelled (.string (Parser.stringOf t) t.span) [t]
  | true_ {t : Token} : t.kind = .word .true_ → Expr.Spelled (.boolean true t.span) [t]
  | false_ {t : Token} : t.kind = .word .false_ → Expr.Spelled (.boolean false t.span) [t]
  | null {t : Token} : t.kind = .word .null → Expr.Spelled (.null t.span) [t]
  | identifier {t : Token} :
    t.kind = .identifier → Expr.Spelled (.identifier t.lexeme t.span) [t]
  | group {e : Expr} {ts : List Token} {opening close : Token} :
    opening.kind = .symbol .leftParen → e.Spelled ts → close.kind = .symbol .rightParen →
    Expr.Spelled (.group e (opening.span.merge close.span)) (opening :: ts ++ [close])
  | array {es : List Expr} {ts : List Token} {opening close : Token} :
    opening.kind = .symbol .leftBracket → ItemsSpelled true es ts →
    close.kind = .symbol .rightBracket →
    Expr.Spelled (.array es (opening.span.merge close.span)) (opening :: ts ++ [close])
  | object {ps : List (String × Expr)} {ts : List Token} {opening close : Token} :
    opening.kind = .symbol .leftBrace → PropertiesSpelled ps ts →
    close.kind = .symbol .rightBrace →
    Expr.Spelled (.object ps (opening.span.merge close.span)) (opening :: ts ++ [close])
  | function {f : Function} {ts : List Token} {word : Token} :
    word.kind = .word .function → f.Spelled word.span ts →
    Expr.Spelled (.function f) (word :: ts)
  | member {e : Expr} {ts : List Token} {dot name : Token} :
    e.Spelled ts → dot.kind = .symbol .dot → name.kind = .identifier →
    Expr.Spelled (.member e name.lexeme (e.span.merge name.span)) (ts ++ [dot, name])
  | index {e k : Expr} {ts us : List Token} {opening close : Token} :
    e.Spelled ts → opening.kind = .symbol .leftBracket → k.Spelled us →
    close.kind = .symbol .rightBracket →
    Expr.Spelled (.index e k (e.span.merge close.span)) (ts ++ opening :: us ++ [close])
  | call {e : Expr} {args : List Expr} {ts us : List Token} {opening close : Token} :
    e.Spelled ts → opening.kind = .symbol .leftParen → ItemsSpelled false args us →
    close.kind = .symbol .rightParen →
    Expr.Spelled (.call e args (e.span.merge close.span)) (ts ++ opening :: us ++ [close])
  | unary {op : UnaryOp} {e : Expr} {ts : List Token} {t : Token} :
    t.kind = .symbol op.symbol → e.Spelled ts →
    Expr.Spelled (.unary op e (t.span.merge e.span)) (t :: ts)
  | stepAfter {op : StepOp} {e : Expr} {ts : List Token} {t : Token} :
    e.Spelled ts → t.kind = .symbol op.symbol →
    Expr.Spelled (.stepAfter op e (e.span.merge t.span)) (ts ++ [t])
  | binary {op : BinaryOp} {l r : Expr} {ts us : List Token} {t : Token} :
    l.Spelled ts → t.kind = .symbol op.symbol → r.Spelled us →
    Expr.Spelled (.binary op l r (l.span.merge r.span)) (ts ++ t :: us)
  | conditional {c a b : Expr} {ts us vs : List Token} {question colon : Token} :
    c.Spelled ts → question.kind = .symbol .question → a.Spelled us →
    colon.kind = .symbol .colon → b.Spelled vs →
    Expr.Spelled (.conditional c a b (c.span.merge b.span)) (ts ++ question :: us ++ colon :: vs)
  | assign {op : AssignOp} {target value : Expr} {ts us : List Token} {t : Token} :
    target.Spelled ts → t.kind = .symbol op.symbol → value.Spelled us →
    Expr.Spelled (.assign op target value (target.span.merge value.span)) (ts ++ t :: us)

/-- Expressions with commas between them, maybe with one after the last. -/
inductive ItemsSpelled : Bool → List Expr → List Token → Prop
  | nil {trailing : Bool} : ItemsSpelled trailing [] []
  | one {trailing : Bool} {e : Expr} {ts : List Token} :
    e.Spelled ts → ItemsSpelled trailing [e] ts
  | cons {trailing : Bool} {e : Expr} {es : List Expr} {ts us : List Token} {comma : Token} :
    e.Spelled ts → comma.kind = .symbol .comma → ItemsSpelled trailing es us →
    trailing = true ∨ es ≠ [] → ItemsSpelled trailing (e :: es) (ts ++ comma :: us)

/-- Properties with commas between them, maybe with one after the last. -/
inductive PropertiesSpelled : List (String × Expr) → List Token → Prop
  | nil : PropertiesSpelled [] []
  | one {name : String} {e : Expr} {ts : List Token} {key colon : Token} :
    Keyed name key → colon.kind = .symbol .colon → e.Spelled ts →
    PropertiesSpelled [(name, e)] (key :: colon :: ts)
  | cons {name : String} {e : Expr} {ps : List (String × Expr)} {ts us : List Token}
    {key colon comma : Token} :
    Keyed name key → colon.kind = .symbol .colon → e.Spelled ts →
    comma.kind = .symbol .comma → PropertiesSpelled ps us →
    PropertiesSpelled ((name, e) :: ps) (key :: colon :: ts ++ comma :: us)

/-- The tokens of a function after its keyword, which has a given span. -/
inductive Function.Spelled : Span → Function → List Token → Prop
  | mk {start : Span} {name : Option String} {params : List Param} {returns : Option TypeName}
    {body : List Stmt} {ns ps rs ts : List Token} {opening close left right : Token} :
    Named name ns → opening.kind = .symbol .leftParen → ParamsSpelled params ps →
    close.kind = .symbol .rightParen → Annotated returns rs →
    left.kind = .symbol .leftBrace → BodySpelled body ts → right.kind = .symbol .rightBrace →
    Function.Spelled start
      (.mk name params returns body (start.merge (left.span.merge right.span)))
      (ns ++ opening :: ps ++ close :: rs ++ left :: ts ++ [right])

/-- The tokens of a statement. -/
inductive Stmt.Spelled : Stmt → List Token → Prop
  | block {body : List Stmt} {ts : List Token} {left right : Token} :
    left.kind = .symbol .leftBrace → BodySpelled body ts → right.kind = .symbol .rightBrace →
    Stmt.Spelled (.block body (left.span.merge right.span)) (left :: ts ++ [right])
  | declare {word : DeclareWord} {type : Option TypeName} {ts : List Token}
    {t name stop : Token} :
    t.kind = .word word.word → name.kind = .identifier → Annotated type ts →
    stop.kind = .symbol .semicolon →
    Stmt.Spelled (.declare word name.lexeme type none (t.span.merge stop.span))
      (t :: name :: ts ++ [stop])
  | declareWith {word : DeclareWord} {type : Option TypeName} {init : Expr} {ts us : List Token}
    {t name equal stop : Token} :
    t.kind = .word word.word → name.kind = .identifier → Declared init type ts →
    equal.kind = .symbol .equal → init.Spelled us → stop.kind = .symbol .semicolon →
    Stmt.Spelled (.declare word name.lexeme type (some init) (t.span.merge stop.span))
      (t :: name :: ts ++ equal :: us ++ [stop])
  | constant {type : Option TypeName} {init : Expr} {ts us : List Token}
    {t name equal stop : Token} :
    t.kind = .word .const → name.kind = .identifier → Declared init type ts →
    equal.kind = .symbol .equal → init.Spelled us → stop.kind = .symbol .semicolon →
    Stmt.Spelled (.constant name.lexeme type init (t.span.merge stop.span))
      (t :: name :: ts ++ equal :: us ++ [stop])
  | expr {e : Expr} {ts : List Token} {stop : Token} :
    e.Spelled ts → stop.kind = .symbol .semicolon →
    Stmt.Spelled (.expr e (e.span.merge stop.span)) (ts ++ [stop])
  | print {e : Expr} {ts : List Token} {t stop : Token} :
    t.kind = .word .print → e.Spelled ts → stop.kind = .symbol .semicolon →
    Stmt.Spelled (.print e (t.span.merge stop.span)) (t :: ts ++ [stop])
  | if_ {c : Expr} {a : Stmt} {ts us : List Token} {t opening close : Token} :
    t.kind = .word .if_ → opening.kind = .symbol .leftParen → c.Spelled ts →
    close.kind = .symbol .rightParen → a.Spelled us →
    Stmt.Spelled (.if_ c a none (t.span.merge a.span)) (t :: opening :: ts ++ close :: us)
  | ifElse {c : Expr} {a b : Stmt} {ts us vs : List Token} {t opening close word : Token} :
    t.kind = .word .if_ → opening.kind = .symbol .leftParen → c.Spelled ts →
    close.kind = .symbol .rightParen → a.Spelled us → word.kind = .word .else_ →
    b.Spelled vs →
    Stmt.Spelled (.if_ c a (some b) ((t.span.merge a.span).merge b.span))
      (t :: opening :: ts ++ close :: us ++ word :: vs)
  | while_ {c : Expr} {body : Stmt} {ts us : List Token} {t opening close : Token} :
    t.kind = .word .while_ → opening.kind = .symbol .leftParen → c.Spelled ts →
    close.kind = .symbol .rightParen → body.Spelled us →
    Stmt.Spelled (.while_ c body (t.span.merge body.span)) (t :: opening :: ts ++ close :: us)
  | for_ {init : Option Stmt} {c update : Option Expr} {body : Stmt} {is ts us vs : List Token}
    {t opening stop close : Token} :
    t.kind = .word .for_ → opening.kind = .symbol .leftParen → InitSpelled init is →
    OptionalSpelled c ts → stop.kind = .symbol .semicolon → OptionalSpelled update us →
    close.kind = .symbol .rightParen → body.Spelled vs →
    Stmt.Spelled (.for_ init c update body (t.span.merge body.span))
      (t :: opening :: is ++ ts ++ stop :: us ++ close :: vs)
  | break_ {t stop : Token} :
    t.kind = .word .break_ → stop.kind = .symbol .semicolon →
    Stmt.Spelled (.break_ (t.span.merge stop.span)) [t, stop]
  | continue_ {t stop : Token} :
    t.kind = .word .continue_ → stop.kind = .symbol .semicolon →
    Stmt.Spelled (.continue_ (t.span.merge stop.span)) [t, stop]
  | return_ {value : Option Expr} {ts : List Token} {t stop : Token} :
    t.kind = .word .return_ → OptionalSpelled value ts → stop.kind = .symbol .semicolon →
    Stmt.Spelled (.return_ value (t.span.merge stop.span)) (t :: ts ++ [stop])
  | function {f : Function} {ts : List Token} {word : Token} :
    word.kind = .word .function → f.Spelled word.span ts →
    Stmt.Spelled (.function f) (word :: ts)

/-- The first clause of a loop, an expression or a declaration, with its semicolon, or the
semicolon only. -/
inductive InitSpelled : Option Stmt → List Token → Prop
  | missing {stop : Token} : stop.kind = .symbol .semicolon → InitSpelled none [stop]
  | expr {e : Expr} {ts : List Token} {stop : Token} :
    e.Spelled ts → stop.kind = .symbol .semicolon →
    InitSpelled (some (.expr e (e.span.merge stop.span))) (ts ++ [stop])
  | variable_ {s : Stmt} {ts : List Token} :
    s.isVariable = true → s.Spelled ts → InitSpelled (some s) ts

/-- An expression, or nothing. -/
inductive OptionalSpelled : Option Expr → List Token → Prop
  | missing : OptionalSpelled none []
  | given {e : Expr} {ts : List Token} : e.Spelled ts → OptionalSpelled (some e) ts

/-- Statements, one after the other. -/
inductive BodySpelled : List Stmt → List Token → Prop
  | nil : BodySpelled [] []
  | cons {s : Stmt} {ss : List Stmt} {ts us : List Token} :
    s.Spelled ts → BodySpelled ss us → BodySpelled (s :: ss) (ts ++ us)

end

/-- The tokens of a program. -/
def Program.Spelled (p : Program) (ts : List Token) : Prop := BodySpelled p.body ts

end Scriptlet
