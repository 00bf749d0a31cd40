import Scriptlet.Heap.Fault
import Scriptlet.Tree.Refusal

/-!
# Failures

What can go wrong on the way from a source text to a result: reading its
characters, reading its tokens, or running its statements.  A failure belongs to
a category, says what happened, and has a span in the source.
-/

namespace Scriptlet

/-- A failure of a program. -/
inductive Failure where
  /-- A character that starts no token. -/
  | lexical (e : LexError)
  /-- Tokens that spell no program. -/
  | syntactic (e : ParseError)
  /-- An error of a running program. -/
  | runtime (f : Fault)
deriving DecidableEq, Repr, Inhabited

/-- The categories of failures. -/
inductive Failure.Category where
  | lexical | syntactic | declaration | binding | type | arity | callTarget | controlEscape
  | recursion
deriving DecidableEq, Repr, Inhabited

/-- The category of a runtime error. -/
def Fault.category : Fault → Failure.Category
  | .duplicate _ _ | .reserved _ _ => .declaration
  | .undeclared _ _ | .constant _ _ => .binding
  | .mismatch _ _ _ _ | .type _ _ => .type
  | .arity _ _ _ _ => .arity
  | .notCallable _ _ => .callTarget
  | .escape _ _ => .controlEscape
  | .recursion _ _ => .recursion

namespace Failure

/-- The category of a failure. -/
def category : Failure → Category
  | .lexical _ | .syntactic (.lexical _) => .lexical
  | .syntactic _ => .syntactic
  | .runtime f => f.category

/-- Where a failure lies. -/
def span : Failure → Span
  | .lexical e => e.span
  | .syntactic e => e.span
  | .runtime f => f.span

/-- What a failure says. -/
def message : Failure → String
  | .lexical e => "Lex error: " ++ e.message
  | .syntactic e => "Parse error: " ++ e.message
  | .runtime f => "Runtime error: " ++ f.message

end Failure

end Scriptlet
