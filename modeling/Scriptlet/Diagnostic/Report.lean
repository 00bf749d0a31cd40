import Scriptlet.Failure

/-!
# Reports

A report is what a reader is told about a failure: a message, and a label on a
part of the source.  The message says what happened and the label what is wrong
with that part.

The label needs something to stand on (`labelRange`).  A failure at the end of
the source is labelled at its last byte, and an empty span is widened to one
byte.
-/

namespace Scriptlet

/-- A message, and a label on a range of the source. -/
structure Report where
  /-- What happened. -/
  message : String
  /-- What is wrong with the labelled part. -/
  label : String
  /-- The labelled part. -/
  range : Span
deriving DecidableEq, Repr, Inhabited

/-- A way to draw a report over a source.  It is given the name and the text of the source. -/
abbrev Drawing := (name source : String) → Report → String

/-- The range to label for a span, in a source of a given length. -/
def labelRange (s : Span) (length : Nat) : Span :=
  if length ≤ s.start then ⟨length - 1, length⟩
  else if s.isEmpty then ⟨s.start, s.start + 1⟩
  else s

/-- The message for a character that starts no token. -/
def LexError.headline : String := "Lexer Error"

/-- The message for a syntax error. -/
def ParseError.headline : ParseError → String
  | .unexpected found e =>
    if found.kind = .eof then "Unexpected end of input, expected " ++ e.text
    else "Unexpected token '" ++ found.lexeme ++ "'"
  | .invalidTarget _ _ _ => "Invalid assignment target"
  | .unterminated _ _ _ => "Unterminated string literal"
  | .lexical _ => LexError.headline

/-- The label for a syntax error. -/
def ParseError.label : ParseError → String
  | .unexpected _ e => "Expected " ++ e.text
  | .invalidTarget _ _ _ => "Only variables, members and indexes can be assigned to"
  | .unterminated _ _ _ => "This string is missing its closing quote"
  | .lexical e => e.problem

/-- The label for a runtime error. -/
def Fault.label : Fault → String
  | .duplicate _ _ => "Already declared in this scope"
  | .reserved _ _ => "Reserved words cannot be used as names"
  | .undeclared _ _ => "This name is not declared in any enclosing scope"
  | .constant _ _ => "Constants cannot be reassigned"
  | .mismatch _ expected found _ => "Expected " ++ expected.text ++ ", found " ++ found.text
  | .type fault _ => fault.message
  | .arity _ _ found _ => "Called with " ++ toString found ++ " argument(s)"
  | .notCallable _ _ => "This expression is not a function"
  | .escape signal _ => "Not inside " ++ signal.context
  | .recursion _ _ => "Too many nested calls"

namespace Failure

/-- The message of a failure's report. -/
def headline : Failure → String
  | .lexical _ => LexError.headline
  | .syntactic e => e.headline
  | .runtime f => f.message

/-- The label of a failure's report. -/
def label : Failure → String
  | .lexical e => e.problem
  | .syntactic e => e.label
  | .runtime f => f.label

/-- The report of a failure in a source of a given length in bytes. -/
def report (f : Failure) (length : Nat) : Report :=
  ⟨f.headline, f.label, labelRange f.span length⟩

/-- The report of a failure, drawn over the source that has a given name. -/
def drawn (draw : Drawing) (f : Failure) (name source : String) : String :=
  draw name source (f.report source.utf8ByteSize)

end Failure

end Scriptlet
