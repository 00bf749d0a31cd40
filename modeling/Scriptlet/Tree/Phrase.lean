import Scriptlet.Tree.Spelling

/-!
# Phrases and their parts

A *phrase* of a tree is an expression, a statement or a function.  Its *parts* are the phrases
directly below it, in the order in which they are written.

Tokens are in *order* if none ends before it starts and each ends before the next one starts.
Phrases are *laid* out in tokens if each is spelled by some of the tokens in a row, one after the
other.

`mapSpans` replaces all spans in a tree.
-/

namespace Scriptlet

/-! ## Phrases -/

/-- A phrase of a tree. -/
inductive Phrase where
  | expr (e : Expr)
  | stmt (s : Stmt)
  | function (f : Function)

/-- The span of a phrase. -/
def Phrase.span : Phrase → Span
  | .expr e => e.span
  | .stmt s => s.span
  | .function f => f.span

/-- The phrases directly below an expression. -/
def Expr.parts : Expr → List Phrase
  | .number _ _ | .string _ _ | .boolean _ _ | .null _ | .identifier _ _ => []
  | .group e _ | .member e _ _ | .unary _ e _ | .stepAfter _ e _ => [.expr e]
  | .array es _ => es.map .expr
  | .object ps _ => ps.map fun p => .expr p.2
  | .function f => [.function f]
  | .index e k _ => [.expr e, .expr k]
  | .call c args _ => .expr c :: args.map .expr
  | .binary _ l r _ => [.expr l, .expr r]
  | .conditional c a b _ => [.expr c, .expr a, .expr b]
  | .assign _ t v _ => [.expr t, .expr v]

/-- The phrases directly below a statement. -/
def Stmt.parts : Stmt → List Phrase
  | .block body _ => body.map .stmt
  | .declare _ _ _ init _ => init.toList.map .expr
  | .constant _ _ init _ => [.expr init]
  | .expr e _ | .print e _ => [.expr e]
  | .if_ c a b _ => .expr c :: .stmt a :: b.toList.map .stmt
  | .while_ c body _ => [.expr c, .stmt body]
  | .for_ init c update body _ =>
    init.toList.map .stmt ++ c.toList.map .expr ++ update.toList.map .expr ++ [.stmt body]
  | .break_ _ | .continue_ _ => []
  | .return_ value _ => value.toList.map .expr
  | .function f => [.function f]

/-- The phrases directly below a phrase. -/
def Phrase.parts : Phrase → List Phrase
  | .expr e => e.parts
  | .stmt s => s.parts
  | .function f => f.body.map .stmt

/-- The phrases of a program. -/
inductive Program.Has (p : Program) : Phrase → Prop
  /-- A statement of the program. -/
  | top {s : Stmt} : s ∈ p.body → Has p (.stmt s)
  /-- A part of a phrase. -/
  | part {n m : Phrase} : Has p n → m ∈ n.parts → Has p m

/-! ## Tokens of phrases -/

/-- The tokens that a phrase is made from.  Those of a function start with its keyword. -/
def Phrase.SpelledBy : Phrase → List Token → Prop
  | .expr e, ts => e.Spelled ts
  | .stmt s, ts => s.Spelled ts
  | .function f, ts =>
    ∃ word us, ts = word :: us ∧ word.kind = .word .function ∧ f.Spelled word.span us

/-- Tokens that lie one behind the other. -/
def Token.Ordered (ts : List Token) : Prop :=
  (∀ t ∈ ts, t.span.start ≤ t.span.stop) ∧
    ts.Pairwise fun t u => t.span.stop ≤ u.span.start

/-- A span goes from the start of the first of some tokens to the end of the last one. -/
def Span.Covers (s : Span) (ts : List Token) : Prop :=
  ∃ first last, ts.head? = some first ∧ ts.getLast? = some last ∧
    s = ⟨first.span.start, last.span.stop⟩

/-- Phrases that are spelled by tokens one behind the other, with other tokens between them. -/
inductive Laid : List Phrase → List Token → Prop
  | nil {gap : List Token} : Laid [] gap
  | cons {n : Phrase} {ns : List Phrase} {gap ts rest : List Token} :
    n.SpelledBy ts → Laid ns rest → Laid (n :: ns) (gap ++ (ts ++ rest))

/-! ## Other spans -/

mutual

/-- An expression with other spans. -/
def Expr.mapSpans (f : Span → Span) : Expr → Expr
  | .number n s => .number n (f s)
  | .string t s => .string t (f s)
  | .boolean b s => .boolean b (f s)
  | .null s => .null (f s)
  | .identifier name s => .identifier name (f s)
  | .group e s => .group (e.mapSpans f) (f s)
  | .array es s => .array (mapItems f es) (f s)
  | .object ps s => .object (mapProperties f ps) (f s)
  | .function g => .function (g.mapSpans f)
  | .member e property s => .member (e.mapSpans f) property (f s)
  | .index e k s => .index (e.mapSpans f) (k.mapSpans f) (f s)
  | .call c args s => .call (c.mapSpans f) (mapItems f args) (f s)
  | .unary op e s => .unary op (e.mapSpans f) (f s)
  | .stepAfter op e s => .stepAfter op (e.mapSpans f) (f s)
  | .binary op l r s => .binary op (l.mapSpans f) (r.mapSpans f) (f s)
  | .conditional c a b s => .conditional (c.mapSpans f) (a.mapSpans f) (b.mapSpans f) (f s)
  | .assign op t v s => .assign op (t.mapSpans f) (v.mapSpans f) (f s)

/-- Expressions with other spans. -/
def mapItems (f : Span → Span) : List Expr → List Expr
  | [] => []
  | e :: es => e.mapSpans f :: mapItems f es

/-- Properties with other spans. -/
def mapProperties (f : Span → Span) : List (String × Expr) → List (String × Expr)
  | [] => []
  | (name, e) :: ps => (name, e.mapSpans f) :: mapProperties f ps

/-- A function with other spans. -/
def Function.mapSpans (f : Span → Span) : Function → Function
  | .mk name params returns body s =>
    .mk name (params.map fun p => { p with span := f p.span }) returns (mapBody f body) (f s)

/-- A statement with other spans. -/
def Stmt.mapSpans (f : Span → Span) : Stmt → Stmt
  | .block body s => .block (mapBody f body) (f s)
  | .declare word name type init s => .declare word name type (mapOptional f init) (f s)
  | .constant name type init s => .constant name type (init.mapSpans f) (f s)
  | .expr e s => .expr (e.mapSpans f) (f s)
  | .print e s => .print (e.mapSpans f) (f s)
  | .if_ c a b s => .if_ (c.mapSpans f) (a.mapSpans f) (mapStatement f b) (f s)
  | .while_ c body s => .while_ (c.mapSpans f) (body.mapSpans f) (f s)
  | .for_ init c update body s =>
    .for_ (mapStatement f init) (mapOptional f c) (mapOptional f update) (body.mapSpans f) (f s)
  | .break_ s => .break_ (f s)
  | .continue_ s => .continue_ (f s)
  | .return_ value s => .return_ (mapOptional f value) (f s)
  | .function g => .function (g.mapSpans f)

/-- A statement, where there is one, with other spans. -/
def mapStatement (f : Span → Span) : Option Stmt → Option Stmt
  | none => none
  | some s => some (s.mapSpans f)

/-- An expression, where there is one, with other spans. -/
def mapOptional (f : Span → Span) : Option Expr → Option Expr
  | none => none
  | some e => some (e.mapSpans f)

/-- Statements with other spans. -/
def mapBody (f : Span → Span) : List Stmt → List Stmt
  | [] => []
  | s :: ss => s.mapSpans f :: mapBody f ss

end

/-- A span that lies further behind. -/
def Span.shift (offset : Nat) (s : Span) : Span := ⟨s.start + offset, s.stop + offset⟩

end Scriptlet
