import Scriptlet.Tree.Basic

/-!
# Well-shaped trees

A tree says by itself how its operands are grouped, whereas a text says it by
precedence and parentheses.  A tree is *well shaped* if it can be written down
without adding parentheses.  Every kind of expression has a level, tighter ones
have lower levels, and an operand must be tight enough for its place.

Some trees are ambiguous for other reasons.  An expression statement must not
look like a block or like a declared function.  An `else` belongs to the nearest
`if` without one, so the first branch of an `if` with an `else` must not end in
an `if` without one.  A variable without an annotation has the type of its
initializer, so one with an initializer has some type.
-/

namespace Scriptlet

/-! ## Levels -/

/-- The level of a binary operation. -/
def BinaryOp.level : BinaryOp → Nat
  | .mul | .div | .rem => 4
  | .add | .sub => 5
  | .gt | .ge | .lt | .le => 6
  | .eq | .ne => 7
  | .and => 8
  | .or => 9

namespace Expr

/-- How loosely an expression holds together.  The loosest level is 11. -/
def level : Expr → Nat
  | .number _ _ | .string _ _ | .boolean _ _ | .null _ | .identifier _ _ | .group _ _
  | .array _ _ | .object _ _ | .function _ => 0
  | .member _ _ _ | .index _ _ _ | .call _ _ _ => 1
  | .stepAfter _ _ _ => 2
  | .unary _ _ _ => 3
  | .binary op _ _ _ => op.level
  | .conditional _ _ _ _ => 10
  | .assign _ _ _ _ => 11

/-- Whether the text of an expression starts with a brace or with the keyword of
a function. -/
def opensLikeStatement : Expr → Bool
  | .object _ _ | .function _ => true
  | .member e _ _ | .index e _ _ | .call e _ _ | .stepAfter _ e _ | .binary _ e _ _
  | .conditional e _ _ _ | .assign _ e _ _ => e.opensLikeStatement
  | .number _ _ | .string _ _ | .boolean _ _ | .null _ | .identifier _ _ | .group _ _
  | .array _ _ | .unary _ _ _ => false

/-- Whether an expression is a function without a name. -/
def isAnonymous : Expr → Bool
  | .function f => f.name.isNone
  | _ => false

end Expr

namespace Stmt

/-- Whether a statement declares a variable or a constant. -/
def isVariable : Stmt → Bool
  | .declare _ _ _ _ _ | .constant _ _ _ _ => true
  | _ => false

/-- Whether a statement ends in an `if` without `else`. -/
def endsOpen : Stmt → Bool
  | .if_ _ _ none _ => true
  | .if_ _ _ (some b) _ | .while_ _ b _ | .for_ _ _ _ b _ => b.endsOpen
  | _ => false

end Stmt

/-! ## Shape -/

mutual

/-- Whether an expression is well shaped. -/
def Expr.isShaped : Expr → Bool
  | .number _ _ | .string _ _ | .boolean _ _ | .null _ | .identifier _ _ => true
  | .group e _ => e.isShaped
  | .array es _ => areShaped es
  | .object ps _ => propertiesShaped ps
  | .function f => f.isShaped
  | .member e _ _ => e.level ≤ 1 && e.isShaped
  | .index e k _ => e.level ≤ 1 && e.isShaped && k.isShaped
  | .call e args _ => e.level ≤ 1 && e.isShaped && areShaped args
  | .unary _ e _ => e.level ≤ 3 && e.isShaped
  | .stepAfter _ e _ => e.level ≤ 2 && e.isShaped
  | .binary op l r _ => l.level ≤ op.level && r.level < op.level && l.isShaped && r.isShaped
  | .conditional c a b _ => c.level ≤ 9 && c.isShaped && a.isShaped && b.isShaped
  | .assign _ t v _ => t.isAssignable && t.isShaped && v.isShaped

/-- Whether all of some expressions are well shaped. -/
def areShaped : List Expr → Bool
  | [] => true
  | e :: es => e.isShaped && areShaped es

/-- Whether all properties of an object are well shaped. -/
def propertiesShaped : List (String × Expr) → Bool
  | [] => true
  | (_, e) :: ps => e.isShaped && propertiesShaped ps

/-- Whether a function is well shaped. -/
def Function.isShaped : Function → Bool
  | .mk _ _ _ body _ => allShaped body

/-- Whether a statement is well shaped. -/
def Stmt.isShaped : Stmt → Bool
  | .block body _ => allShaped body
  | .declare _ _ _ none _ => true
  | .declare _ _ type (some init) _ => type.isSome && init.isShaped
  | .constant _ type init _ => type.isSome && init.isShaped
  | .expr e _ => e.isShaped && (!e.opensLikeStatement || e.isAnonymous)
  | .print e _ => e.isShaped
  | .if_ c a none _ => c.isShaped && !a.isVariable && a.isShaped
  | .if_ c a (some b) _ =>
    c.isShaped && !a.isVariable && a.isShaped && !a.endsOpen && !b.isVariable && b.isShaped
  | .while_ c body _ => c.isShaped && !body.isVariable && body.isShaped
  | .for_ init c update body _ =>
    initShaped init && optionalShaped c && optionalShaped update && !body.isVariable &&
      body.isShaped
  | .break_ _ | .continue_ _ => true
  | .return_ value _ => optionalShaped value
  | .function f => f.name.isSome && f.isShaped

/-- Whether the first clause of a loop is missing, or a well-shaped declaration
or expression.  It may open like a statement. -/
def initShaped : Option Stmt → Bool
  | none => true
  | some (.expr e _) => e.isShaped
  | some s => s.isVariable && s.isShaped

/-- Whether an expression is missing or well shaped. -/
def optionalShaped : Option Expr → Bool
  | none => true
  | some e => e.isShaped

/-- Whether all of some statements are well shaped. -/
def allShaped : List Stmt → Bool
  | [] => true
  | s :: ss => s.isShaped && allShaped ss

end

/-- A declaration may be the first clause of a loop if it may stand by itself. -/
theorem initShaped_of_isVariable {s : Stmt} (variable_ : s.isVariable = true) :
    initShaped (some s) = s.isShaped := by
  cases s with
  | declare | constant => rfl
  | block | expr | print | if_ | while_ | for_ | break_ | continue_ | return_ | function =>
    cases variable_

/-- Whether a program is well shaped. -/
def Program.isShaped (p : Program) : Bool := allShaped p.body

/-! ## Trees without spans -/

mutual

/-- An expression without its spans. -/
def Expr.bare : Expr → Expr
  | .number n _ => .number n default
  | .string s _ => .string s default
  | .boolean b _ => .boolean b default
  | .null _ => .null default
  | .identifier name _ => .identifier name default
  | .group e _ => .group e.bare default
  | .array es _ => .array (bareAll es) default
  | .object ps _ => .object (bareProperties ps) default
  | .function f => .function f.bare
  | .member e property _ => .member e.bare property default
  | .index e k _ => .index e.bare k.bare default
  | .call e args _ => .call e.bare (bareAll args) default
  | .unary op e _ => .unary op e.bare default
  | .stepAfter op e _ => .stepAfter op e.bare default
  | .binary op l r _ => .binary op l.bare r.bare default
  | .conditional c a b _ => .conditional c.bare a.bare b.bare default
  | .assign op t v _ => .assign op t.bare v.bare default

/-- Expressions without their spans. -/
def bareAll : List Expr → List Expr
  | [] => []
  | e :: es => e.bare :: bareAll es

/-- Properties without their spans. -/
def bareProperties : List (String × Expr) → List (String × Expr)
  | [] => []
  | (name, e) :: ps => (name, e.bare) :: bareProperties ps

/-- A function without its spans. -/
def Function.bare : Function → Function
  | .mk name params returns body _ =>
    .mk name (params.map fun p => { p with span := default }) returns (bareStatements body) default

/-- A statement without its spans. -/
def Stmt.bare : Stmt → Stmt
  | .block body _ => .block (bareStatements body) default
  | .declare word name type init _ => .declare word name type (bareOptional init) default
  | .constant name type init _ => .constant name type init.bare default
  | .expr e _ => .expr e.bare default
  | .print e _ => .print e.bare default
  | .if_ c a b _ => .if_ c.bare a.bare (bareStatement? b) default
  | .while_ c body _ => .while_ c.bare body.bare default
  | .for_ init c update body _ =>
    .for_ (bareStatement? init) (bareOptional c) (bareOptional update) body.bare default
  | .break_ _ => .break_ default
  | .continue_ _ => .continue_ default
  | .return_ value _ => .return_ (bareOptional value) default
  | .function f => .function f.bare

/-- A statement, where there is one, without its spans. -/
def bareStatement? : Option Stmt → Option Stmt
  | none => none
  | some s => some s.bare

/-- An expression, where there is one, without its spans. -/
def bareOptional : Option Expr → Option Expr
  | none => none
  | some e => some e.bare

/-- Statements without their spans. -/
def bareStatements : List Stmt → List Stmt
  | [] => []
  | s :: ss => s.bare :: bareStatements ss

end

theorem bareAll_eq_map (es : List Expr) : bareAll es = es.map Expr.bare := by
  induction es with
  | nil => rfl
  | cons e es ih => rw [bareAll, ih, List.map_cons]

theorem bareProperties_eq_map (ps : List (String × Expr)) :
    bareProperties ps = ps.map (Prod.map id Expr.bare) := by
  induction ps with
  | nil => rfl
  | cons p ps ih => rw [bareProperties, ih, List.map_cons, Prod.map, id]

theorem bareStatements_eq_map (ss : List Stmt) : bareStatements ss = ss.map Stmt.bare := by
  induction ss with
  | nil => rfl
  | cons s ss ih => rw [bareStatements, ih, List.map_cons]

theorem bareOptional_eq_map (e : Option Expr) : bareOptional e = e.map Expr.bare := by
  cases e <;> rfl

theorem bareStatement?_eq_map (s : Option Stmt) : bareStatement? s = s.map Stmt.bare := by
  cases s <;> rfl

/-- A program without its spans. -/
def Program.bare (p : Program) : Program := ⟨bareStatements p.body⟩

end Scriptlet
