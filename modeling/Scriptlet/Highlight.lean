import Scriptlet.Token.Stream

/-!
# Highlighting

A source text is cut into chunks for display.  A token gives a chunk with a
class, which decides its colour.  White space, comments, and all that follows a
lexical error are raw chunks.  The comments between two tokens form one chunk.
The chunks join to the source whatever it is, so highlighting never fails.

Chunks are rendered in two ways.  In HTML the class becomes a `span` element,
and the four characters with a meaning in markup are escaped.  On a terminal it
becomes a colour code in front of the text and a reset behind it.
-/

namespace Scriptlet

namespace Highlight

/-! ## Classes -/

/-- What a token counts as for display. -/
inductive Class where
  | bracket | string | stringError | number | identifier | keyword | control | boolean
  | type | operator | plain
deriving DecidableEq, Repr, Inhabited

/-- The class name in HTML. -/
def Class.css : Class → String
  | .bracket => "tok-bracket"
  | .string => "tok-string"
  | .stringError => "tok-string-error"
  | .number => "tok-number"
  | .identifier => "tok-identifier"
  | .keyword => "tok-keyword"
  | .control => "tok-control"
  | .boolean => "tok-boolean"
  | .type => "tok-type"
  | .operator => "tok-operator"
  | .plain => "tok-default"

/-- The terminal code that starts a class.  Some classes have no colour. -/
def Class.code? : Class → Option String
  | .bracket => some "\x1b[34m"
  | .string => some "\x1b[32m"
  | .stringError => some "\x1b[1;31m"
  | .number => some "\x1b[33m"
  | .keyword => some "\x1b[35m"
  | .control => some "\x1b[1;35m"
  | .boolean => some "\x1b[36m"
  | .type => some "\x1b[1;36m"
  | .operator => some "\x1b[37m"
  | .identifier | .plain => none

/-- The class of a symbol. -/
def ofSymbol : Symbol → Class
  | .leftParen | .rightParen | .leftBrace | .rightBrace | .leftBracket | .rightBracket => .bracket
  | .comma | .dot | .semicolon | .colon | .question => .plain
  | _ => .operator

/-- The class of a reserved word. -/
def ofWord : Word → Class
  | .if_ | .else_ | .while_ | .for_ | .return_ | .break_ | .continue_ => .control
  | .true_ | .false_ | .null => .boolean
  | .stringType | .numberType | .booleanType | .anyType => .type
  | _ => .keyword

/-- The class of a kind of token.  Of a string it matters whether its closing
quote is missing. -/
def classify (kind : Kind) (unterminated : Bool) : Class :=
  match kind with
  | .symbol s => ofSymbol s
  | .word w => ofWord w
  | .identifier => .identifier
  | .string => if unterminated then .stringError else .string
  | .number => .number
  | .space | .comment | .eof => .plain

/-! ## Chunks -/

/-- A part of the source for display. -/
inductive Chunk where
  /-- The text of a token, with its class. -/
  | token (cls : Class) (text : List Char)
  /-- Text without a class. -/
  | raw (text : List Char)
deriving DecidableEq, Repr, Inhabited

/-- The source text of a chunk. -/
def Chunk.text : Chunk → List Char
  | .token _ text => text
  | .raw text => text

/-- A raw chunk, unless there is no text. -/
def gap (text : List Char) : List Chunk := if text.isEmpty then [] else [.raw text]

/-- The chunk of a token. -/
def chunk (kind : Kind) (text : List Char) : Chunk :=
  if kind = .space then .raw text else .token (classify kind (Quoted.decode text).2) text

/-- The chunks of pieces.  `pending` are the comments since the last token, and
`left` is what the scanner could not read. -/
def chunksFrom (pending : List Char) (ps : List Piece) (left : List Char) : List Chunk :=
  match ps with
  | [] => gap (pending ++ left)
  | piece :: rest =>
    match piece.kind with
    | none => chunksFrom (pending ++ piece.text) rest left
    | some kind => gap pending ++ chunk kind piece.text :: chunksFrom [] rest left

/-- The chunks of a source. -/
def chunks (source : String) : List Chunk :=
  let (ps, left) := pieces source.toList
  chunksFrom [] ps left

/-! ## Rendering -/

/-- A character of HTML text. -/
def escapeChar : Char → List Char
  | '&' => "&amp;".toList
  | '<' => "&lt;".toList
  | '>' => "&gt;".toList
  | '"' => "&quot;".toList
  | c => [c]

/-- Text for HTML. -/
def escape (text : List Char) : List Char := text.flatMap escapeChar

/-- A chunk in HTML. -/
def Chunk.html : Chunk → List Char
  | .token cls text =>
    "<span class=\"".toList ++ cls.css.toList ++ "\">".toList ++ escape text ++ "</span>".toList
  | .raw text => escape text

/-- A chunk on a terminal. -/
def Chunk.ansi : Chunk → List Char
  | .token cls text =>
    match cls.code? with
    | some code => code.toList ++ text ++ "\x1b[0m".toList
    | none => text
  | .raw text => text

/-- A source in HTML. -/
def html (source : String) : String := String.ofList ((chunks source).flatMap Chunk.html)

/-- A source on a terminal. -/
def ansi (source : String) : String := String.ofList ((chunks source).flatMap Chunk.ansi)

end Highlight

end Scriptlet
