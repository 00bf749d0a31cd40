import Scriptlet.Number.Decimal
import Scriptlet.Tree.Spelling

/-!
# Rendering

A tree is written as a list of glyphs: what its tokens say, without where they
stand.  Rendering makes the plainest of the choices that the spelling leaves
open.  There is no comma after a last item, a type is written where there is one,
and the name of a property is a string.

No parentheses are added.  So only a well-shaped tree is sure to be read again
as it is.
-/

namespace Scriptlet

/-! ## Glyphs -/

/-- What a token says. -/
inductive Glyph where
  | symbol (s : Symbol)
  | word (w : Word)
  | identifier (name : String)
  | string (value : String)
  | number (n : Number)
deriving DecidableEq, Repr, Inhabited

/-- How a reserved word is spelled. -/
def Word.spelling (w : Word) : String :=
  ((Keyword.table.find? fun p => p.2 = .word w).map Prod.fst).getD ""

/-- A token that says something. -/
def Glyph.token : Glyph → Token
  | .symbol s => ⟨.symbol s, s.text, none, default, 1, 1⟩
  | .word w => ⟨.word w, w.spelling, none, default, 1, 1⟩
  | .identifier name => ⟨.identifier, name, none, default, 1, 1⟩
  | .string value => ⟨.string, "\"" ++ value ++ "\"", some (.string value false), default, 1, 1⟩
  | .number n => ⟨.number, n.text, some (.number n), default, 1, 1⟩

/-! ## Parts without expressions -/

/-- A colon and a type, where there is a type. -/
def renderType : Option TypeName → List Glyph
  | none => []
  | some type => [.symbol .colon, .word type.word]

/-- Parameters with commas between them. -/
def renderParams : List Param → List Glyph
  | [] => []
  | [p] => .identifier p.name :: renderType p.type
  | p :: ps => .identifier p.name :: renderType p.type ++ .symbol .comma :: renderParams ps

/-- The name of a function. -/
def renderName : Option String → List Glyph
  | none => []
  | some name => [.identifier name]

/-! ## Expressions and statements -/

mutual

/-- The glyphs of an expression. -/
def Expr.render : Expr → List Glyph
  | .number n _ => [.number n]
  | .string s _ => [.string s]
  | .boolean true _ => [.word .true_]
  | .boolean false _ => [.word .false_]
  | .null _ => [.word .null]
  | .identifier name _ => [.identifier name]
  | .group e _ => .symbol .leftParen :: e.render ++ [.symbol .rightParen]
  | .array es _ => .symbol .leftBracket :: renderItems es ++ [.symbol .rightBracket]
  | .object ps _ => .symbol .leftBrace :: renderProperties ps ++ [.symbol .rightBrace]
  | .function f => .word .function :: f.render
  | .member e property _ => e.render ++ [.symbol .dot, .identifier property]
  | .index e k _ => e.render ++ .symbol .leftBracket :: k.render ++ [.symbol .rightBracket]
  | .call e args _ => e.render ++ .symbol .leftParen :: renderItems args ++ [.symbol .rightParen]
  | .unary op e _ => .symbol op.symbol :: e.render
  | .stepAfter op e _ => e.render ++ [.symbol op.symbol]
  | .binary op l r _ => l.render ++ .symbol op.symbol :: r.render
  | .conditional c a b _ =>
    c.render ++ .symbol .question :: a.render ++ .symbol .colon :: b.render
  | .assign op t v _ => t.render ++ .symbol op.symbol :: v.render

/-- Expressions with commas between them. -/
def renderItems : List Expr → List Glyph
  | [] => []
  | [e] => e.render
  | e :: es => e.render ++ .symbol .comma :: renderItems es

/-- Properties with commas between them. -/
def renderProperties : List (String × Expr) → List Glyph
  | [] => []
  | [(name, e)] => .string name :: .symbol .colon :: e.render
  | (name, e) :: ps =>
    .string name :: .symbol .colon :: e.render ++ .symbol .comma :: renderProperties ps

/-- The glyphs of a function after its keyword. -/
def Function.render : Function → List Glyph
  | .mk name params returns body _ =>
    renderName name ++ .symbol .leftParen :: renderParams params ++ .symbol .rightParen ::
      renderType returns ++ .symbol .leftBrace :: renderBody body ++ [.symbol .rightBrace]

/-- The glyphs of a statement. -/
def Stmt.render : Stmt → List Glyph
  | .block body _ => .symbol .leftBrace :: renderBody body ++ [.symbol .rightBrace]
  | .declare word name type none _ =>
    .word word.word :: .identifier name :: renderType type ++ [.symbol .semicolon]
  | .declare word name type (some init) _ =>
    .word word.word :: .identifier name :: renderType type ++ .symbol .equal :: init.render ++
      [.symbol .semicolon]
  | .constant name type init _ =>
    .word .const :: .identifier name :: renderType type ++ .symbol .equal :: init.render ++
      [.symbol .semicolon]
  | .expr e _ => e.render ++ [.symbol .semicolon]
  | .print e _ => .word .print :: e.render ++ [.symbol .semicolon]
  | .if_ c a none _ =>
    .word .if_ :: .symbol .leftParen :: c.render ++ .symbol .rightParen :: a.render
  | .if_ c a (some b) _ =>
    .word .if_ :: .symbol .leftParen :: c.render ++ .symbol .rightParen :: a.render ++
      .word .else_ :: b.render
  | .while_ c body _ =>
    .word .while_ :: .symbol .leftParen :: c.render ++ .symbol .rightParen :: body.render
  | .for_ init c update body _ =>
    .word .for_ :: .symbol .leftParen :: renderInit init ++ renderOptional c ++
      .symbol .semicolon :: renderOptional update ++ .symbol .rightParen :: body.render
  | .break_ _ => [.word .break_, .symbol .semicolon]
  | .continue_ _ => [.word .continue_, .symbol .semicolon]
  | .return_ value _ => .word .return_ :: renderOptional value ++ [.symbol .semicolon]
  | .function f => .word .function :: f.render

/-- The glyphs of the first clause of a loop. -/
def renderInit : Option Stmt → List Glyph
  | none => [.symbol .semicolon]
  | some s => s.render

/-- The glyphs of an expression, where there is one. -/
def renderOptional : Option Expr → List Glyph
  | none => []
  | some e => e.render

/-- The glyphs of statements, one after the other. -/
def renderBody : List Stmt → List Glyph
  | [] => []
  | s :: ss => s.render ++ renderBody ss

end

/-- The tokens of a program. -/
def Program.render (p : Program) : List Token := (renderBody p.body).map Glyph.token

end Scriptlet
