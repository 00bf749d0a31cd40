import Scriptlet.Token.Stream

/-!
# Refused tokens

A parser that cannot go on refuses the tokens it has left.  The first of them
is the one that does not fit, or there is none and the input ended too early.
The cause says what was wrong.  Keeping all the tokens that are left, and not
only the first, tells at which token of the input the parser stopped.

Towards the reader a refusal becomes a `ParseError`, which names the place.
-/

namespace Scriptlet

/-! ## Expectations -/

/-- What the grammar asks for at a point. -/
inductive Expectation where
  | expression | groupClose | argumentsClose | property | indexClose | arrayClose
  | propertyName | propertyColon | objectClose | conditionalColon
  | variableName | variableEnd | constantName | constantInitializer | constantEnd | typeName
  | printEnd | breakEnd | continueEnd | returnEnd | expressionEnd | blockOpen | blockClose
  | ifOpen | ifClose | whileOpen | whileClose | forOpen | forConditionEnd | forClose
  | parametersOpen | parameterName | parametersClose
deriving DecidableEq, Repr, Inhabited

/-- How an expectation is shown. -/
def Expectation.text : Expectation → String
  | .expression => "expression"
  | .groupClose => "')' after expression"
  | .argumentsClose => "')' after arguments"
  | .property => "property name after '.'"
  | .indexClose => "']' after index"
  | .arrayClose => "']' after array elements"
  | .propertyName => "property name"
  | .propertyColon => "':' after property name"
  | .objectClose => "'\x7d' after object properties"
  | .conditionalColon => "':' in conditional expression"
  | .variableName => "variable name"
  | .variableEnd => "';' after variable declaration"
  | .constantName => "constant name"
  | .constantInitializer => "'=' and an initializer for constant"
  | .constantEnd => "';' after constant declaration"
  | .typeName => "type name (number, string, boolean, any)"
  | .printEnd => "';' after print value"
  | .breakEnd => "';' after 'break'"
  | .continueEnd => "';' after 'continue'"
  | .returnEnd => "';' after return value"
  | .expressionEnd => "';' after expression"
  | .blockOpen => "'\x7b' to start a block"
  | .blockClose => "'\x7d' after block"
  | .ifOpen => "'(' after 'if'"
  | .ifClose => "')' after if condition"
  | .whileOpen => "'(' after 'while'"
  | .whileClose => "')' after while condition"
  | .forOpen => "'(' after 'for'"
  | .forConditionEnd => "';' after loop condition"
  | .forClose => "')' after for clauses"
  | .parametersOpen => "'(' before parameters"
  | .parameterName => "parameter name"
  | .parametersClose => "')' after parameters"

/-! ## Refusals -/

/-- Why tokens are refused. -/
inductive Refusal.Cause where
  /-- The first token is not what the grammar asks for. -/
  | unexpected (expected : Expectation)
  /-- The first token assigns to an expression that cannot be assigned to. -/
  | invalidTarget (target : Span)
  /-- The first token is a string whose closing quote is missing. -/
  | unterminated
deriving DecidableEq, Repr, Inhabited

/-- The tokens at which a parser stopped, and why. -/
structure Refusal where
  /-- The tokens that are left. -/
  rest : List Token
  /-- What is wrong with the first of them. -/
  cause : Refusal.Cause
deriving DecidableEq, Repr, Inhabited

/-! ## Errors -/

/-- A syntax error. -/
inductive ParseError where
  /-- A token that does not fit. -/
  | unexpected (found : Token) (expected : Expectation)
  /-- An assignment to something else than a variable, a member or an index. -/
  | invalidTarget (target : Span) (line column : Nat)
  /-- A string without a closing quote. -/
  | unterminated (span : Span) (line column : Nat)
  /-- A character of the text that starts no token. -/
  | lexical (e : LexError)
deriving DecidableEq, Repr, Inhabited

/-- The error of a refusal.  Where no token is left, `stop` is the token found. -/
def Refusal.toError (stop : Token) (r : Refusal) : ParseError :=
  let found := r.rest.headD stop
  match r.cause with
  | .unexpected e => .unexpected found e
  | .invalidTarget target => .invalidTarget target found.line found.column
  | .unterminated => .unterminated found.span found.line found.column

namespace ParseError

/-- Where the error lies. -/
def span : ParseError → Span
  | .unexpected found _ => found.span
  | .invalidTarget target _ _ => target
  | .unterminated s _ _ => s
  | .lexical e => e.span

/-- How a token that does not fit is shown. -/
def foundText (t : Token) : String :=
  if t.kind = .eof then "end of input" else "'" ++ t.lexeme ++ "'"

/-- A line and a column as text. -/
def placeText (line column : Nat) : String := toString line ++ ":" ++ toString column

/-- What the error says. -/
def message : ParseError → String
  | .unexpected found e =>
    "Expected " ++ e.text ++ ", found " ++ foundText found ++ " at " ++
      placeText found.line found.column
  | .invalidTarget _ line column => "Invalid assignment target at " ++ placeText line column
  | .unterminated _ line column => "Unterminated string literal at " ++ placeText line column
  | .lexical e => "Lexer Error during parse: " ++ e.message

end ParseError

end Scriptlet
