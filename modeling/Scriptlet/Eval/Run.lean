import Scriptlet.Eval.Evaluate
import Scriptlet.Failure
import Scriptlet.Tree.Parser

/-!
# Running programs

A program runs statement by statement on a machine.  Its value is that of its
last expression statement, or null.  A signal that reaches the top level is an
error.

A source text is read first and then run on a new machine.  How that ends says
whether it finished, failed, broke the machine down or went on for ever, and the
lines printed on the way are kept in each case.
-/

namespace Scriptlet

/-- The fuel for running programs: more steps than any machine takes. -/
def ample : Nat := 1000000000000000000

/-- Runs the statements of a program.  `last` is the value so far. -/
def runStatements (p : Performer) (last : Value) : List Stmt → Action Value
  | [] => return last
  | s :: rest => do
    match (← p.execute s) with
    | .normal v =>
      match s with
      | .expr _ _ => runStatements p v rest
      | _ => runStatements p last rest
    | flow =>
      match flow.escape? with
      | some f => Action.fail f
      | none => runStatements p last rest

/-- Runs a program. -/
def Program.run (fuel : Nat) (program : Program) : Action Value :=
  runStatements (Evaluate.perform fuel) .null program.body

/-- How a computation from source text ends. -/
inductive Ending (α : Type) where
  /-- It gives a result. -/
  | finished (a : α)
  /-- It fails. -/
  | failed (f : Failure)
  /-- It breaks the machine down. -/
  | crashed (c : Crash)
  /-- It does not end. -/
  | endless
deriving Repr

/-- The ending of a computation that halted. -/
def Halt.ending {α : Type} : Halt → Ending α
  | .fault f => .failed (.runtime f)
  | .crash c => .crashed c
  | .endless => .endless

/-- The program of a text that is to be run as a whole. -/
def readProgram (source : String) : Except Failure Program :=
  match tokenize source with
  | .error e => .error (.lexical e)
  | .ok tokens =>
    match parseProgram tokens with
    | .error e => .error (.syntactic e)
    | .ok p => .ok p

/-- The expression that a text starts with. -/
def readExpression (source : String) : Except Failure Expr :=
  match tokenize source with
  | .error e => .error (.lexical e)
  | .ok tokens =>
    match parseExpression tokens with
    | .error e => .error (.syntactic e)
    | .ok e => .ok e

/-- Runs a source text on a new machine.  Gives the program and the lines
printed. -/
def runSource (fuel : Nat) (source : String) : Ending Program × Array String :=
  match readProgram source with
  | .error f => (.failed f, #[])
  | .ok p =>
    match p.run fuel Machine.initial with
    | .ok _ m => (.finished p, m.output)
    | .error h m => (h.ending, m.output)

example : (runSource 100 "let x = 2; print 1 + x * 3;").2 = #["7"] := by decide +kernel

end Scriptlet
