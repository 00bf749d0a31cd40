import Scriptlet.Heap.Fault
import Scriptlet.Tree.Basic

/-!
# Where signals stand

A statement is *well placed* if each `break` and `continue` in it has a loop
around it that receives it, and each `return` a function.  A function hides the
loops around it, so its body is placed as if it stood alone.

The *signals* of a statement are those that can come out of it.  They are written
in the statement itself, outside of all functions in it.  A loop lets `return`
through and keeps the others.
-/

namespace Scriptlet

/-! ## Placement -/

mutual

/-- Whether all functions in an expression are well placed. -/
def Expr.isPlaced : Expr → Bool
  | .number _ _ | .string _ _ | .boolean _ _ | .null _ | .identifier _ _ => true
  | .group e _ | .member e _ _ | .unary _ e _ | .stepAfter _ e _ => e.isPlaced
  | .array es _ => arePlaced es
  | .object ps _ => propertiesPlaced ps
  | .function f => f.isPlaced
  | .index e k _ => e.isPlaced && k.isPlaced
  | .call c args _ => c.isPlaced && arePlaced args
  | .binary _ l r _ => l.isPlaced && r.isPlaced
  | .conditional c a b _ => c.isPlaced && a.isPlaced && b.isPlaced
  | .assign _ t v _ => t.isPlaced && v.isPlaced

/-- Whether all functions in some expressions are well placed. -/
def arePlaced : List Expr → Bool
  | [] => true
  | e :: es => e.isPlaced && arePlaced es

/-- Whether all functions in the properties of an object are well placed. -/
def propertiesPlaced : List (String × Expr) → Bool
  | [] => true
  | (_, e) :: ps => e.isPlaced && propertiesPlaced ps

/-- Whether the body of a function is well placed. -/
def Function.isPlaced : Function → Bool
  | .mk _ _ _ body _ => allPlaced false true body

/-- Whether a statement is well placed, inside of a loop or not and inside of a function or
not. -/
def Stmt.isPlaced (inLoop inFunction : Bool) : Stmt → Bool
  | .block body _ => allPlaced inLoop inFunction body
  | .declare _ _ _ init _ => optionalPlaced init
  | .constant _ _ init _ => init.isPlaced
  | .expr e _ | .print e _ => e.isPlaced
  | .if_ c a b _ =>
    c.isPlaced && a.isPlaced inLoop inFunction && statementPlaced inLoop inFunction b
  | .while_ c body _ => c.isPlaced && body.isPlaced true inFunction
  | .for_ init c update body _ =>
    statementPlaced inLoop inFunction init && optionalPlaced c && optionalPlaced update &&
      body.isPlaced true inFunction
  | .break_ _ | .continue_ _ => inLoop
  | .return_ value _ => inFunction && optionalPlaced value
  | .function f => f.isPlaced

/-- Whether a statement is missing or well placed. -/
def statementPlaced (inLoop inFunction : Bool) : Option Stmt → Bool
  | none => true
  | some s => s.isPlaced inLoop inFunction

/-- Whether an expression is missing or all functions in it are well placed. -/
def optionalPlaced : Option Expr → Bool
  | none => true
  | some e => e.isPlaced

/-- Whether all of some statements are well placed. -/
def allPlaced (inLoop inFunction : Bool) : List Stmt → Bool
  | [] => true
  | s :: ss => s.isPlaced inLoop inFunction && allPlaced inLoop inFunction ss

end

/-- Whether a program is well placed. -/
def Program.isPlaced (p : Program) : Bool := allPlaced false false p.body

/-! ## Signals -/

/-- Whether a statement is a loop. -/
def Stmt.isLoop : Stmt → Bool
  | .while_ _ _ _ | .for_ _ _ _ _ _ => true
  | _ => false

mutual

/-- The signals that can come out of a statement, each with the span it is written at. -/
def Stmt.signals : Stmt → List (Signal × Span)
  | .block body _ => allSignals body
  | .if_ _ a b _ => a.signals ++ statementSignals b
  | .while_ _ body _ | .for_ _ _ _ body _ => body.signals.filter fun g => g.1 = .return_
  | .break_ s => [(.break_, s)]
  | .continue_ s => [(.continue_, s)]
  | .return_ _ s => [(.return_, s)]
  | .declare _ _ _ _ _ | .constant _ _ _ _ | .expr _ _ | .print _ _ | .function _ => []

/-- The signals that can come out of a statement, where there is one. -/
def statementSignals : Option Stmt → List (Signal × Span)
  | none => []
  | some s => s.signals

/-- The signals that can come out of some statements. -/
def allSignals : List Stmt → List (Signal × Span)
  | [] => []
  | s :: ss => s.signals ++ allSignals ss

end

end Scriptlet
