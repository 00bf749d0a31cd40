import Scriptlet.Token.Stream

/-!
# Whether an input is complete

A dialogue reads lines until they form an input.  An input is complete when its
brackets are closed, each by its own kind, and its last string is too.  More
text can complete it as long as no bracket has been closed that was not open.
If one has, no text that follows can help.

The brackets that are open are kept on a stack, the innermost first.  A text
that does not even scan counts as complete, since reading it will say what is
wrong.
-/

namespace Scriptlet

/-- The shapes of brackets. -/
inductive Bracket where
  | paren | brace | square
deriving DecidableEq, Repr, Inhabited

/-- The bracket that a kind of token opens. -/
def Bracket.opened? : Kind → Option Bracket
  | .symbol .leftParen => some .paren
  | .symbol .leftBrace => some .brace
  | .symbol .leftBracket => some .square
  | _ => none

/-- The bracket that a kind of token closes. -/
def Bracket.closed? : Kind → Option Bracket
  | .symbol .rightParen => some .paren
  | .symbol .rightBrace => some .brace
  | .symbol .rightBracket => some .square
  | _ => none

/-- What a dialogue does with the text so far. -/
inductive Verdict where
  /-- It is an input. -/
  | complete
  /-- More text may make it one. -/
  | incomplete
  /-- A token closes a bracket that is not open. -/
  | unmatched (t : Token)
deriving DecidableEq, Repr, Inhabited

/-- Judges tokens that follow some open brackets. -/
def Verdict.ofTokens (stack : List Bracket) : List Token → Verdict
  | [] => if stack.isEmpty then .complete else .incomplete
  | t :: rest =>
    if t.isUnterminated then .incomplete
    else
      match Bracket.opened? t.kind, Bracket.closed? t.kind with
      | some b, _ => ofTokens (b :: stack) rest
      | none, some b =>
        match stack with
        | [] => .unmatched t
        | innermost :: stack => if innermost = b then ofTokens stack rest else .unmatched t
      | none, none => ofTokens stack rest

/-- Judges a text. -/
def Verdict.ofText (text : String) : Verdict :=
  match tokenize text with
  | .ok tokens => Verdict.ofTokens [] tokens
  | .error _ => .complete

example : Verdict.ofText "f([1, 2" = .incomplete := by decide +kernel

example : Verdict.ofText "f([1, 2])" = .complete := by decide +kernel

/-- What is said about a token that closes no bracket. -/
def Token.unmatchedMessage (t : Token) : String :=
  "  - Unmatched '" ++ t.lexeme ++ "' at " ++ toString t.line ++ ":" ++ toString t.column

end Scriptlet
