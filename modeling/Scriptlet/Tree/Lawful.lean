import Scriptlet.Tree.Basic

/-!
# Lawful trees

A statement *declares* a name if running it can declare the name in the scope that
it runs in.  Blocks, `for` loops and functions have scopes of their own, and what
stands in them is declared there.

A tree is *lawful* if all names that it declares anywhere are of a given sort, if
only a name, a member or an element is assigned to, and if each function that is
declared has a name.
-/

namespace Scriptlet

/-! ## Declared names -/

mutual

/-- The names that a statement can declare in the scope that it runs in. -/
def Stmt.declares : Stmt → List String
  | .declare _ name _ _ _ | .constant name _ _ _ => [name]
  | .function f => f.name.toList
  | .if_ _ a b _ => a.declares ++ statementDeclares b
  | .while_ _ body _ => body.declares
  | .block _ _ | .for_ _ _ _ _ _ | .expr _ _ | .print _ _ | .break_ _ | .continue_ _
  | .return_ _ _ => []

/-- The names that a statement can declare, where there is one. -/
def statementDeclares : Option Stmt → List String
  | none => []
  | some s => s.declares

end

/-- The names that statements can declare in the scope that they run in. -/
def allDeclare (ss : List Stmt) : List String := ss.flatMap Stmt.declares

/-- Whether a statement can declare nothing in the scope that it runs in, whatever its
parts. -/
def Stmt.isSealed : Stmt → Bool
  | .block _ _ | .for_ _ _ _ _ _ | .expr _ _ | .print _ _ | .break_ _ | .continue_ _
  | .return_ _ _ => true
  | .declare _ _ _ _ _ | .constant _ _ _ _ | .function _ | .if_ _ _ _ _ | .while_ _ _ _ => false

theorem Stmt.declares_of_isSealed {s : Stmt} (h : s.isSealed = true) : s.declares = [] := by
  cases s with
  | block | for_ | expr | print | break_ | continue_ | return_ => rw [declares]
  | declare | constant | function | if_ | while_ => cases h

/-! ## Lawful trees -/

section

variable (may : String → Bool)

mutual

/-- Whether an expression is lawful. -/
def Expr.isLawful : Expr → Bool
  | .number _ _ | .string _ _ | .boolean _ _ | .null _ | .identifier _ _ => true
  | .group e _ | .member e _ _ | .unary _ e _ | .stepAfter _ e _ => e.isLawful
  | .array es _ => areLawful es
  | .object ps _ => propertiesLawful ps
  | .function f => f.isLawful
  | .index e k _ => e.isLawful && k.isLawful
  | .call c args _ => c.isLawful && areLawful args
  | .binary _ l r _ => l.isLawful && r.isLawful
  | .conditional c a b _ => c.isLawful && a.isLawful && b.isLawful
  | .assign _ t v _ => t.isAssignable && t.isLawful && v.isLawful

/-- Whether some expressions are lawful. -/
def areLawful : List Expr → Bool
  | [] => true
  | e :: es => e.isLawful && areLawful es

/-- Whether the properties of an object are lawful. -/
def propertiesLawful : List (String × Expr) → Bool
  | [] => true
  | (_, e) :: ps => e.isLawful && propertiesLawful ps

/-- Whether a function is lawful.  Its parameters are declared when it is called. -/
def Function.isLawful : Function → Bool
  | .mk name params _ body _ =>
    name.all may && params.all (fun p => may p.name) && allLawful body

/-- Whether a statement is lawful. -/
def Stmt.isLawful : Stmt → Bool
  | .block body _ => allLawful body
  | .declare _ name _ init _ => may name && optionalLawful init
  | .constant name _ init _ => may name && init.isLawful
  | .expr e _ | .print e _ => e.isLawful
  | .if_ c a b _ => c.isLawful && a.isLawful && statementLawful b
  | .while_ c body _ => c.isLawful && body.isLawful
  | .for_ init c update body _ =>
    statementLawful init && optionalLawful c && optionalLawful update && body.isLawful
  | .break_ _ | .continue_ _ => true
  | .return_ value _ => optionalLawful value
  | .function f => f.name.isSome && f.isLawful

/-- Whether a statement is missing or lawful. -/
def statementLawful : Option Stmt → Bool
  | none => true
  | some s => s.isLawful

/-- Whether an expression is missing or lawful. -/
def optionalLawful : Option Expr → Bool
  | none => true
  | some e => e.isLawful

/-- Whether all of some statements are lawful. -/
def allLawful : List Stmt → Bool
  | [] => true
  | s :: ss => s.isLawful && allLawful ss

end

theorem areLawful_eq_all (es : List Expr) : areLawful may es = es.all (Expr.isLawful may) := by
  induction es with
  | nil => rfl
  | cons e es ih => rw [areLawful, ih, List.all_cons]

theorem propertiesLawful_eq_all (ps : List (String × Expr)) :
    propertiesLawful may ps = ps.all fun p => p.2.isLawful may := by
  induction ps with
  | nil => rfl
  | cons p ps ih => rw [propertiesLawful, ih, List.all_cons]

theorem allLawful_eq_all (ss : List Stmt) : allLawful may ss = ss.all (Stmt.isLawful may) := by
  induction ss with
  | nil => rfl
  | cons s ss ih => rw [allLawful, ih, List.all_cons]

/-- Whether a program is lawful. -/
def Program.isLawful (p : Program) : Bool := allLawful may p.body

variable {may}

mutual

/-- What a lawful statement declares may be declared. -/
theorem Stmt.may_of_declares : ∀ {s : Stmt}, s.isLawful may = true →
    ∀ n ∈ s.declares, may n = true
  | .declare _ name _ _ _, lawful, n, declared => by
    simp only [Stmt.isLawful, Bool.and_eq_true] at lawful
    obtain rfl : n = name := List.mem_singleton.mp declared
    exact lawful.1
  | .constant name _ _ _, lawful, n, declared => by
    simp only [Stmt.isLawful, Bool.and_eq_true] at lawful
    obtain rfl : n = name := List.mem_singleton.mp declared
    exact lawful.1
  | .function (.mk name _ _ _ _), lawful, n, declared => by
    simp only [Stmt.isLawful, Function.isLawful, Bool.and_eq_true] at lawful
    obtain rfl : name = some n := Option.mem_toList.mp declared
    exact lawful.2.1.1
  | .if_ _ a b _, lawful, n, declared => by
    simp only [Stmt.isLawful, Bool.and_eq_true] at lawful
    cases List.mem_append.mp declared with
    | inl first => exact Stmt.may_of_declares lawful.1.2 n first
    | inr second => exact may_of_statementDeclares lawful.2 n second
  | .while_ _ body _, lawful, n, declared => by
    simp only [Stmt.isLawful, Bool.and_eq_true] at lawful
    exact Stmt.may_of_declares lawful.2 n declared
  | .block _ _, _, _, declared | .for_ _ _ _ _ _, _, _, declared | .expr _ _, _, _, declared
  | .print _ _, _, _, declared | .break_ _, _, _, declared | .continue_ _, _, _, declared
  | .return_ _ _, _, _, declared => nomatch declared

theorem may_of_statementDeclares : ∀ {s : Option Stmt}, statementLawful may s = true →
    ∀ n ∈ statementDeclares s, may n = true
  | none, _, _, declared => nomatch declared
  | some _, lawful, n, declared => Stmt.may_of_declares lawful n declared

end

end

end Scriptlet
