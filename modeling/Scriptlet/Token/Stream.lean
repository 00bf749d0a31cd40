import Scriptlet.Number.Reader
import Scriptlet.Token.Scan

/-!
# Token streams

A source text becomes a stream of tokens.  The stream ends with the token that
marks the end of the input, or with the first character that starts no token.
Nothing comes after either.

The pieces of the text are placed one after the other (`place`).  A piece moves
the place over its characters, so each token carries the line and the column
that a reader counts, over comments and line breaks alike.
-/

namespace Scriptlet

/-- A character that starts no token. -/
structure LexError where
  /-- The character. -/
  character : Char
  /-- The bytes it takes. -/
  span : Span
  /-- Its line. -/
  line : Nat
  /-- Its column. -/
  column : Nat
deriving DecidableEq, Repr, Inhabited

/-- What the scanner makes of a source. -/
structure TokenStream where
  /-- The tokens in order, white space included. -/
  tokens : List Token
  /-- The last item: the end of the input, or an error. -/
  last : Except LexError Token

namespace TokenStream

/-- The literal that a lexeme of a given kind stands for. -/
def literal? (kind : Kind) (lexeme : List Char) : Option Literal :=
  match kind with
  | .number => some (.number ((Number.read? lexeme).getD Number.nan))
  | .string =>
    let (value, unterminated) := Quoted.decode lexeme
    some (.string (String.ofList value) unterminated)
  | .word .true_ => some (.boolean true)
  | .word .false_ => some (.boolean false)
  | .word .null => some .null
  | _ => none

/-- The token with a given kind and lexeme at a place. -/
def token (kind : Kind) (p : Place) (lexeme : List Char) : Token where
  kind := kind
  lexeme := String.ofList lexeme
  literal := literal? kind lexeme
  span := p.spanTo (p.advance lexeme)
  line := p.line
  column := p.column

/-- The token that marks the end of the input. -/
def endToken (p : Place) : Token where
  kind := .eof
  lexeme := ""
  literal := none
  span := p.spanTo p
  line := p.line
  column := p.column

/-- The error for a character at a place. -/
def unexpected (p : Place) (c : Char) : LexError where
  character := c
  span := p.spanTo (p.step c)
  line := p.line
  column := p.column

/-- The tokens of pieces that start at a place. -/
def place (p : Place) : List Piece → List Token
  | [] => []
  | piece :: rest =>
    let tail := place (p.advance piece.text) rest
    match piece.kind with
    | none => tail
    | some kind => token kind p piece.text :: tail

/-- The place after pieces that start at a place. -/
def placeAfter (p : Place) (ps : List Piece) : Place :=
  ps.foldl (fun q piece => q.advance piece.text) p

/-- How a stream ends, from what is left of the text at a place. -/
def ending (p : Place) : List Char → Except LexError Token
  | [] => .ok (endToken p)
  | c :: _ => .error (unexpected p c)

end TokenStream

/-- The token stream of a source. -/
def stream (source : String) : TokenStream :=
  let (ps, left) := pieces source.toList
  ⟨TokenStream.place .origin ps, TokenStream.ending (TokenStream.placeAfter .origin ps) left⟩

/-- The tokens of a source, white space and the end of the input included, or
the first error. -/
def tokenize (source : String) : Except LexError (List Token) :=
  let s := stream source
  s.last.map fun t => s.tokens ++ [t]

/-- What a lexical error says, without its place. -/
def LexError.problem (e : LexError) : String :=
  "Unexpected character '" ++ String.ofList [e.character] ++ "'"

/-- What a lexical error says. -/
def LexError.message (e : LexError) : String :=
  e.problem ++ " at " ++ toString e.line ++ ":" ++ toString e.column

end Scriptlet
