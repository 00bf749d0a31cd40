import Scriptlet.Tree.Basic

/-!
# The spans in a tree

An error of a running program is blamed on a node of its tree, or on a parameter of
a function in it.  So the spans that can be blamed are those in the tree.
-/

namespace Scriptlet

mutual

/-- The spans of an expression and of its parts. -/
def Expr.spans : Expr → List Span
  | .number _ s | .string _ s | .boolean _ s | .null s | .identifier _ s => [s]
  | .group e s | .member e _ s | .unary _ e s | .stepAfter _ e s => s :: e.spans
  | .array es s => s :: itemSpans es
  | .object ps s => s :: propertySpans ps
  | .function f => f.spans
  | .index e k s => s :: (e.spans ++ k.spans)
  | .call c args s => s :: (c.spans ++ itemSpans args)
  | .binary _ l r s => s :: (l.spans ++ r.spans)
  | .conditional c a b s => s :: (c.spans ++ (a.spans ++ b.spans))
  | .assign _ t v s => s :: (t.spans ++ v.spans)

/-- The spans in some expressions. -/
def itemSpans : List Expr → List Span
  | [] => []
  | e :: es => e.spans ++ itemSpans es

/-- The spans in the properties of an object. -/
def propertySpans : List (String × Expr) → List Span
  | [] => []
  | (_, e) :: ps => e.spans ++ propertySpans ps

/-- The spans of a function, of its parameters and of its body. -/
def Function.spans : Function → List Span
  | .mk _ params _ body s => s :: (params.map Param.span ++ bodySpans body)

/-- The spans of a statement and of its parts. -/
def Stmt.spans : Stmt → List Span
  | .block body s => s :: bodySpans body
  | .declare _ _ _ init s => s :: optionalSpans init
  | .constant _ _ init s => s :: init.spans
  | .expr e s | .print e s => s :: e.spans
  | .if_ c a b s => s :: (c.spans ++ (a.spans ++ statementSpans b))
  | .while_ c body s => s :: (c.spans ++ body.spans)
  | .for_ init c update body s =>
    s :: (statementSpans init ++ (optionalSpans c ++ (optionalSpans update ++ body.spans)))
  | .break_ s | .continue_ s => [s]
  | .return_ value s => s :: optionalSpans value
  | .function f => f.spans

/-- The spans in a statement, where there is one. -/
def statementSpans : Option Stmt → List Span
  | none => []
  | some s => s.spans

/-- The spans in an expression, where there is one. -/
def optionalSpans : Option Expr → List Span
  | none => []
  | some e => e.spans

/-- The spans in some statements. -/
def bodySpans : List Stmt → List Span
  | [] => []
  | s :: ss => s.spans ++ bodySpans ss

end

/-- The spans in a program. -/
def Program.spans (p : Program) : List Span := bodySpans p.body

/-! ## Nodes -/

theorem Function.span_mem_spans (f : Function) : f.span ∈ f.spans := by
  cases f
  exact .head _

theorem Expr.span_mem_spans (e : Expr) : e.span ∈ e.spans := by
  cases e with
  | function f => exact f.span_mem_spans
  | number | string | boolean | null | identifier | group | array | object | member | index
  | call | unary | stepAfter | binary | conditional | assign => exact .head _

theorem Stmt.span_mem_spans (s : Stmt) : s.span ∈ s.spans := by
  cases s with
  | function f => exact f.span_mem_spans
  | block | declare | constant | expr | print | if_ | while_ | for_ | break_ | continue_
  | return_ => exact .head _

/-! ## Parts in a row -/

theorem mem_itemSpans {s : Span} : ∀ {es : List Expr}, s ∈ itemSpans es ↔ ∃ e ∈ es, s ∈ e.spans
  | [] => by simp [itemSpans]
  | e :: es => by simp [itemSpans, mem_itemSpans]

theorem mem_propertySpans {s : Span} : ∀ {ps : List (String × Expr)},
    s ∈ propertySpans ps ↔ ∃ p ∈ ps, s ∈ p.2.spans
  | [] => by simp [propertySpans]
  | (name, e) :: ps => by simp [propertySpans, mem_propertySpans]

theorem mem_bodySpans {s : Span} : ∀ {ss : List Stmt}, s ∈ bodySpans ss ↔ ∃ t ∈ ss, s ∈ t.spans
  | [] => by simp [bodySpans]
  | t :: ss => by simp [bodySpans, mem_bodySpans]

end Scriptlet
