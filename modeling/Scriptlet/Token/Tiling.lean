import Scriptlet.Token.Stream

/-!
# Tokens in a text

A text is *tiled* by tokens with gaps between them.  A token covers its own
characters and its span says where these lie.  A gap holds nothing but complete
comments, one after the other.

A comment is complete if it goes on as long as it may.  A line comment stops
before a newline or at the end of the text, and a block comment right after the
first star and slash, or at the end of the text if there are none.  So whether
a comment is complete depends on the text after it.

The scanner moves a place over a text character by character.  The place after a
text can also be counted at once, from the text alone (`Place.after`).

The text between two tokens that are written down is *spacing*: white space and
complete comments.  Here a line comment is complete with the newline after it.
Spacing that starts with white space *separates* the tokens around it, whatever
they are.  A text is *spaced* if it consists of the lexemes of tokens with
separators between them.  A string without its closing quote can only be the last
one, since it takes all text up to the end.
-/

namespace Scriptlet

/-! ## Comments -/

/-- A complete comment, with the text after it. -/
inductive Comment : List Char → List Char → Prop
  /-- Two slashes and the rest of the line. -/
  | line {body rest : List Char} :
    '\n' ∉ body → (∀ c ∈ rest.head?, c = '\n') → Comment ('/' :: '/' :: body) rest
  /-- From a slash and a star to the first star and slash after them. -/
  | block {body rest : List Char} :
    ¬ ['*', '/'] <:+: body ++ ['*'] → Comment ('/' :: '*' :: body ++ ['*', '/']) rest
  /-- A slash and a star without a star and a slash after them. -/
  | unclosed {body : List Char} : ¬ ['*', '/'] <:+: body → Comment ('/' :: '*' :: body) []

/-- Complete comments one after the other, with the text after them. -/
inductive Gap : List Char → List Char → Prop
  /-- Nothing. -/
  | nil {rest : List Char} : Gap [] rest
  /-- A comment before a gap. -/
  | cons {comment gap rest : List Char} :
    Comment comment (gap ++ rest) → Gap gap rest → Gap (comment ++ gap) rest

/-! ## Tilings -/

/-- Tokens with gaps between them cover a text that starts at a byte offset, up to what is
left of it. -/
inductive Tiles : Nat → List Char → List Token → List Char → Prop
  /-- After the last token there is a gap. -/
  | stop {offset : Nat} {gap left : List Char} : Gap gap left → Tiles offset (gap ++ left) [] left
  /-- A token comes after a gap and spans its own characters, of which there are some. -/
  | token {offset : Nat} {gap rest left : List Char} {t : Token} {ts : List Token} :
    Gap gap (t.lexeme.toList ++ rest) → t.lexeme.toList ≠ [] →
    t.span.start = offset + Place.bytes gap →
    t.span.stop = t.span.start + Place.bytes t.lexeme.toList →
    Tiles t.span.stop rest ts left →
    Tiles offset (gap ++ (t.lexeme.toList ++ rest)) (t :: ts) left

/-- A span cuts a text out of a source, from the start of a character to the start of
another one or to the end. -/
def Span.Cuts (s : Span) (source text : List Char) : Prop :=
  ∃ before after, source = before ++ (text ++ after) ∧ s.start = Place.bytes before ∧
    s.stop = s.start + Place.bytes text

/-- Gaps and the lexemes of tokens, in turns. -/
def weave : List (List Char) → List Token → List Char
  | gap :: gaps, t :: ts => gap ++ (t.lexeme.toList ++ weave gaps ts)
  | _, _ => []

/-! ## Positions -/

/-- The place after a text.  The line is one more than the newlines, and the column is one more
than the characters behind the last of them. -/
def Place.after (text : List Char) : Place where
  offset := bytes text
  line := text.count '\n' + 1
  column := (text.reverse.takeWhile (· ≠ '\n')).length + 1

example : Place.after "é\nab".toList = ⟨5, 2, 3⟩ := by decide

/-- Where a token starts. -/
def Token.place (t : Token) : Place := ⟨t.span.start, t.line, t.column⟩

/-- Where the character is that starts no token. -/
def LexError.place (e : LexError) : Place := ⟨e.span.start, e.line, e.column⟩

/-! ## Spaced texts

The *content* of a token is its kind, its lexeme and its literal, without the place.  A token
stands *alone* if it is what its own lexeme is read as.
-/

/-- What a token is, wherever it stands. -/
def Token.content (t : Token) : Kind × String × Option Literal := (t.kind, t.lexeme, t.literal)

/-- White space and complete comments. -/
inductive Spacing : List Char → Prop
  /-- Nothing. -/
  | nil : Spacing []
  /-- A character of white space. -/
  | space {c : Char} {rest : List Char} : Scan.isSpace c = true → Spacing rest → Spacing (c :: rest)
  /-- Two slashes, a line of text and a newline. -/
  | line {body rest : List Char} : '\n' ∉ body → Spacing rest →
    Spacing ('/' :: '/' :: body ++ '\n' :: rest)
  /-- From a slash and a star to the first star and slash after them. -/
  | block {body rest : List Char} : ¬ ['*', '/'] <:+: body ++ ['*'] → Spacing rest →
    Spacing ('/' :: '*' :: body ++ ['*', '/'] ++ rest)

/-- Spacing that starts with white space. -/
def Separator (text : List Char) : Prop :=
  Spacing text ∧ ∃ c ∈ text.head?, Scan.isSpace c = true

/-- The token is what its lexeme is read as, and no white space. -/
def Token.Alone (t : Token) : Prop :=
  t.kind ≠ .space ∧ ∃ stop, tokenize t.lexeme = .ok [t, stop]

/-- A text of lexemes with separators between them.  One may stand behind the last lexeme too. -/
inductive Spaced : List Token → List Char → Prop
  /-- No lexeme. -/
  | nil : Spaced [] []
  /-- The last lexeme, with nothing behind it. -/
  | last {t : Token} : t.Alone → Spaced [t] t.lexeme.toList
  /-- A lexeme with an end of its own, and a separator behind it. -/
  | cons {t : Token} {ts : List Token} {gap rest : List Char} :
    t.Alone → t.isUnterminated = false → Separator gap → Spaced ts rest →
    Spaced (t :: ts) (t.lexeme.toList ++ (gap ++ rest))

end Scriptlet
