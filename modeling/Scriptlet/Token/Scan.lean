import Scriptlet.Token.Basic
import Scriptlet.Token.Quoted

/-!
# Scanning

The scanner reads a text piece by piece.  A piece is a token or a comment, and
the first character decides which.  The longest reading wins: two characters
that form a symbol are one symbol, `//` and `/*` open a comment, and a number
takes a point only if a digit follows.

A *cut* divides the characters after the first one into those that belong to
its piece and the rest.  Its proof field says that nothing is lost.  The
characters that can start no piece are those for which `scan` finds no cut.

`pieces` reads a whole text, up to the first such character.  The pieces and
what is left join to the text (`join_pieces`).
-/

namespace Scriptlet

/-! ## Cuts -/

/-- A division of a text: the part that completes a piece, and the rest. -/
structure Cut (text : List Char) where
  /-- The kind of token the piece makes.  A comment makes none. -/
  kind : Option Kind
  /-- What belongs to the piece after its first character. -/
  body : List Char
  /-- What follows the piece. -/
  rest : List Char
  /-- Nothing is lost. -/
  body_append_rest : body ++ rest = text

namespace Cut

/-- The piece is its first character alone. -/
def short (kind : Kind) (text : List Char) : Cut text := ⟨some kind, [], text, rfl⟩

/-- The piece takes one more character. -/
def more (kind : Kind) (c : Char) (text : List Char) : Cut (c :: text) :=
  ⟨some kind, [c], text, rfl⟩

/-- The piece takes characters as long as they are in a class. -/
def run (kind : Option Kind) (p : Char → Bool) (text : List Char) : Cut text :=
  ⟨kind, text.takeWhile p, text.dropWhile p, List.takeWhile_append_dropWhile⟩

theorem length_rest_le {text : List Char} (cut : Cut text) : cut.rest.length ≤ text.length := by
  have joined := congrArg List.length cut.body_append_rest
  rw [List.length_append] at joined
  omega

end Cut

/-! ## Classes of characters -/

namespace Scan

/-- White space of the language. -/
def isSpace (c : Char) : Bool := c == ' ' || c == '\t' || c == '\r' || c == '\n'

/-- The characters that may start a name. -/
def isNameStart (c : Char) : Bool := c.isAlpha || c == '_'

/-- The characters that may continue a name. -/
def isNamePart (c : Char) : Bool := c.isAlphanum || c == '_'

/-! ## Symbols -/

/-- The symbol that one character makes. -/
def single? : Char → Option Symbol
  | '(' => some .leftParen | ')' => some .rightParen
  | '{' => some .leftBrace | '}' => some .rightBrace
  | '[' => some .leftBracket | ']' => some .rightBracket
  | ',' => some .comma | '.' => some .dot | ';' => some .semicolon | ':' => some .colon
  | '?' => some .question | '+' => some .plus | '-' => some .minus | '*' => some .star
  | '/' => some .slash | '%' => some .percent | '!' => some .bang | '=' => some .equal
  | '>' => some .greater | '<' => some .less | '|' => some .pipe | '&' => some .amp
  | _ => none

/-- The symbol that two characters make. -/
def double? : Char → Char → Option Symbol
  | '!', '=' => some .bangEqual | '=', '=' => some .equalEqual
  | '>', '=' => some .greaterEqual | '<', '=' => some .lessEqual
  | '&', '&' => some .andAnd | '|', '|' => some .orOr
  | '+', '=' => some .plusEqual | '-', '=' => some .minusEqual
  | '*', '=' => some .starEqual | '/', '=' => some .slashEqual
  | '%', '=' => some .percentEqual | '+', '+' => some .plusPlus
  | '-', '-' => some .minusMinus
  | _, _ => none

/-- A symbol, the longer one where two characters make one. -/
def symbol (c : Char) (text : List Char) : Option (Cut text) :=
  match text with
  | [] => (single? c).map fun s => .short (.symbol s) []
  | d :: rest =>
    match double? c d with
    | some s => some (.more (.symbol s) d rest)
    | none => (single? c).map fun s => .short (.symbol s) (d :: rest)

/-! ## Comments -/

/-- Splits the text of a block comment after its first star: up to the first
star and slash, or up to the end. -/
def splitBlock : List Char → List Char × List Char
  | [] => ([], [])
  | c :: cs =>
    if c = '*' ∧ cs.head? = some '/' then (['*', '/'], cs.tail)
    else
      let tail := splitBlock cs
      (c :: tail.1, tail.2)

theorem splitBlock_append (cs : List Char) : (splitBlock cs).1 ++ (splitBlock cs).2 = cs := by
  induction cs with
  | nil => rfl
  | cons c cs ih =>
    unfold splitBlock
    split
    · next h =>
      obtain ⟨rfl, second⟩ := h
      cases cs with
      | nil => simp at second
      | cons d ds =>
        obtain rfl : d = '/' := by simpa using second
        rfl
    · simpa using ih

/-- A comment, if a slash and this text start one. -/
def comment (text : List Char) : Option (Cut text) :=
  match text with
  | '/' :: rest =>
    some ⟨none, '/' :: rest.takeWhile (· ≠ '\n'), rest.dropWhile (· ≠ '\n'), by simp⟩
  | '*' :: rest =>
    some ⟨none, '*' :: (splitBlock rest).1, (splitBlock rest).2, by simp [splitBlock_append]⟩
  | _ => none

/-! ## Literals -/

/-- A number: digits, and after a point more digits. -/
def number (text : List Char) : Cut text :=
  match fraction : text.dropWhile Char.isDigit with
  | '.' :: d :: rest =>
    if d.isDigit then
      ⟨some .number,
        text.takeWhile Char.isDigit ++ '.' :: d :: rest.takeWhile Char.isDigit,
        rest.dropWhile Char.isDigit,
        by rw [List.append_assoc, List.cons_append, List.cons_append,
            List.takeWhile_append_dropWhile, ← fraction, List.takeWhile_append_dropWhile]⟩
    else .run (some .number) Char.isDigit text
  | _ => .run (some .number) Char.isDigit text

/-- A string literal, from the text after its opening quote. -/
def string (text : List Char) : Cut text :=
  ⟨some .string, (Quoted.split text).1, (Quoted.split text).2, Quoted.split_append text⟩

/-- A name.  Its kind is that of an identifier unless the spelling is reserved. -/
def name (c : Char) (text : List Char) : Cut text :=
  let body := text.takeWhile isNamePart
  let kind := (Keyword.find? (String.ofList (c :: body))).getD .identifier
  .run (some kind) isNamePart text

end Scan

/-! ## One piece -/

open Scan in
/-- The piece that a character starts, with the rest of the text.  There is none
if no piece starts with that character. -/
def scan (c : Char) (text : List Char) : Option (Cut text) :=
  if isSpace c then some (.run (some .space) isSpace text)
  else if c.isDigit then some (number text)
  else if isNameStart c then some (name c text)
  else if c = '"' then some (string text)
  else if c = '/' then (comment text).or (symbol c text)
  else symbol c text

/-! ## All pieces -/

/-- A piece of a text. -/
structure Piece where
  /-- The kind of token it makes.  A comment makes none. -/
  kind : Option Kind
  /-- Its characters. -/
  text : List Char

/-- The pieces of a text, and what is left from the first character on that
starts no piece. -/
def pieces (text : List Char) : List Piece × List Char :=
  match text with
  | [] => ([], [])
  | c :: cs =>
    match scan c cs with
    | none => ([], c :: cs)
    | some cut =>
      let next := pieces cut.rest
      (⟨cut.kind, c :: cut.body⟩ :: next.1, next.2)
termination_by text.length
decreasing_by
  have := cut.length_rest_le
  simp only [List.length_cons]
  omega

/-- The pieces of a text and what is left of it are the text. -/
theorem join_pieces (text : List Char) :
    (pieces text).1.flatMap Piece.text ++ (pieces text).2 = text := by
  fun_induction pieces text with
  | case1 => rfl
  | case2 => rfl
  | case3 c cs cut found next ih => simp [next, ih, cut.body_append_rest]

end Scriptlet
