import Scriptlet.Span
import Scriptlet.Number.Basic

/-!
# Tokens

A token is a piece of source text with its kind, the literal it stands for, and
where it was found.  A kind is a symbol, a reserved word, or one of the open
classes: identifiers, strings, numbers.  White space is a token too, so that a
source can be put together again from its tokens and the comments between them.
Comments make no token.  The kind `eof` marks the end of the input.

Several spellings may share a kind.  `plus` is the symbol `+` and `emit` is the
word `return`.  A token keeps its own spelling as its lexeme.

A kind is shown in two ways.  `Kind.text` is for messages and shows a symbol by its
characters.  `Kind.name` spells everything out in one word, under which a listing
shows it, and no two kinds share a name.
-/

namespace Scriptlet

/-! ## Kinds -/

/-- Punctuation and operators. -/
inductive Symbol where
  | leftParen | rightParen | leftBrace | rightBrace | leftBracket | rightBracket
  | comma | dot | semicolon | colon | question
  | plus | minus | star | slash | percent | bang | equal | greater | less | pipe | amp
  | bangEqual | equalEqual | greaterEqual | lessEqual | andAnd | orOr
  | plusEqual | minusEqual | starEqual | slashEqual | percentEqual | plusPlus | minusMinus
deriving DecidableEq, Repr, Inhabited

/-- Reserved words. -/
inductive Word where
  | var | let_ | const | function | return_ | break_ | continue_
  | if_ | else_ | while_ | for_ | true_ | false_ | null | print
  | stringType | numberType | booleanType | anyType
  | import_ | export_ | from_ | as_ | default_
deriving DecidableEq, Repr, Inhabited

/-- What a token is. -/
inductive Kind where
  /-- Punctuation or an operator. -/
  | symbol (s : Symbol)
  /-- A reserved word. -/
  | word (w : Word)
  /-- A name that is not reserved. -/
  | identifier
  /-- A string literal. -/
  | string
  /-- A number literal. -/
  | number
  /-- A run of white space. -/
  | space
  /-- A comment.  The scanner skips comments and never yields this kind. -/
  | comment
  /-- The end of the input. -/
  | eof
deriving DecidableEq, Repr, Inhabited

/-- How a symbol is written. -/
def Symbol.text : Symbol → String
  | .leftParen => "(" | .rightParen => ")" | .leftBrace => "\x7b" | .rightBrace => "\x7d"
  | .leftBracket => "[" | .rightBracket => "]" | .comma => "," | .dot => "."
  | .semicolon => ";" | .colon => ":" | .question => "?" | .plus => "+" | .minus => "-"
  | .star => "*" | .slash => "/" | .percent => "%" | .bang => "!" | .equal => "="
  | .greater => ">" | .less => "<" | .pipe => "|" | .amp => "&" | .bangEqual => "!="
  | .equalEqual => "==" | .greaterEqual => ">=" | .lessEqual => "<=" | .andAnd => "&&"
  | .orOr => "||" | .plusEqual => "+=" | .minusEqual => "-=" | .starEqual => "*="
  | .slashEqual => "/=" | .percentEqual => "%=" | .plusPlus => "++" | .minusMinus => "--"

/-- How a reserved word is shown.  The type names are marked as types. -/
def Word.text : Word → String
  | .var => "var" | .let_ => "let" | .const => "const" | .function => "function"
  | .return_ => "return" | .break_ => "break" | .continue_ => "continue" | .if_ => "if"
  | .else_ => "else" | .while_ => "while" | .for_ => "for" | .true_ => "true"
  | .false_ => "false" | .null => "null" | .print => "print" | .stringType => "string type"
  | .numberType => "number type" | .booleanType => "boolean type" | .anyType => "any type"
  | .import_ => "import" | .export_ => "export" | .from_ => "from" | .as_ => "as"
  | .default_ => "default"

/-- How a kind is shown. -/
def Kind.text : Kind → String
  | .symbol s => s.text
  | .word w => w.text
  | .identifier => "identifier"
  | .string => "string"
  | .number => "number"
  | .space => "whitespace"
  | .comment => "comment"
  | .eof => "end of input"

/-! ## Names of kinds -/

/-- The name of a symbol. -/
def Symbol.name : Symbol → String
  | .leftParen => "LeftParen" | .rightParen => "RightParen" | .leftBrace => "LeftBrace"
  | .rightBrace => "RightBrace" | .leftBracket => "LeftBracket"
  | .rightBracket => "RightBracket" | .comma => "Comma" | .dot => "Dot"
  | .semicolon => "Semicolon" | .colon => "Colon" | .question => "Question" | .plus => "Plus"
  | .minus => "Minus" | .star => "Star" | .slash => "Slash" | .percent => "Percent"
  | .bang => "Bang" | .equal => "Equal" | .greater => "Greater" | .less => "Less"
  | .pipe => "Pipe" | .amp => "Amp" | .bangEqual => "BangEqual" | .equalEqual => "EqualEqual"
  | .greaterEqual => "GreaterEqual" | .lessEqual => "LessEqual" | .andAnd => "AndAnd"
  | .orOr => "OrOr" | .plusEqual => "PlusEqual" | .minusEqual => "MinusEqual"
  | .starEqual => "StarEqual" | .slashEqual => "SlashEqual"
  | .percentEqual => "PercentEqual" | .plusPlus => "PlusPlus" | .minusMinus => "MinusMinus"

/-- The name of a reserved word. -/
def Word.name : Word → String
  | .var => "Var" | .let_ => "Let" | .const => "Const" | .function => "Function"
  | .return_ => "Return" | .break_ => "Break" | .continue_ => "Continue" | .if_ => "If"
  | .else_ => "Else" | .while_ => "While" | .for_ => "For" | .true_ => "True"
  | .false_ => "False" | .null => "Null" | .print => "Print" | .stringType => "StringType"
  | .numberType => "NumberType" | .booleanType => "BooleanType" | .anyType => "AnyType"
  | .import_ => "Import" | .export_ => "Export" | .from_ => "From" | .as_ => "As"
  | .default_ => "Default"

/-- The name of a kind. -/
def Kind.name : Kind → String
  | .symbol s => s.name
  | .word w => w.name
  | .identifier => "Identifier"
  | .string => "String"
  | .number => "Number"
  | .space => "Whitespace"
  | .comment => "BlockComment"
  | .eof => "Eof"

/-- All symbols. -/
def Symbol.all : List Symbol :=
  [.leftParen, .rightParen, .leftBrace, .rightBrace, .leftBracket, .rightBracket, .comma, .dot,
   .semicolon, .colon, .question, .plus, .minus, .star, .slash, .percent, .bang, .equal,
   .greater, .less, .pipe, .amp, .bangEqual, .equalEqual, .greaterEqual, .lessEqual, .andAnd,
   .orOr, .plusEqual, .minusEqual, .starEqual, .slashEqual, .percentEqual, .plusPlus,
   .minusMinus]

/-- All reserved words. -/
def Word.all : List Word :=
  [.var, .let_, .const, .function, .return_, .break_, .continue_, .if_, .else_, .while_, .for_,
   .true_, .false_, .null, .print, .stringType, .numberType, .booleanType, .anyType, .import_,
   .export_, .from_, .as_, .default_]

/-- All kinds. -/
def Kind.all : List Kind :=
  Symbol.all.map .symbol ++ Word.all.map .word ++
    [.identifier, .string, .number, .space, .comment, .eof]

theorem Symbol.mem_all (s : Symbol) : s ∈ Symbol.all := by cases s <;> decide

theorem Word.mem_all (w : Word) : w ∈ Word.all := by cases w <;> decide

theorem Kind.mem_all (k : Kind) : k ∈ Kind.all := by
  cases k <;> simp [Kind.all, Symbol.mem_all, Word.mem_all]

/-! ## Keywords

The spellings that cannot be used as names.  Most stand for a reserved word, some for
an operator.  A few words have a second spelling.
-/

/-- Every reserved spelling with the kind it stands for. -/
def Keyword.table : List (String × Kind) :=
  [("var", .word .var), ("let", .word .let_), ("const", .word .const), ("loyal", .word .const),
   ("function", .word .function), ("declare", .word .function), ("return", .word .return_),
   ("emit", .word .return_), ("break", .word .break_), ("continue", .word .continue_),
   ("if", .word .if_), ("else", .word .else_), ("while", .word .while_), ("for", .word .for_),
   ("true", .word .true_), ("false", .word .false_), ("null", .word .null),
   ("print", .word .print), ("say", .word .print), ("string", .word .stringType),
   ("number", .word .numberType), ("boolean", .word .booleanType), ("any", .word .anyType),
   ("import", .word .import_), ("export", .word .export_), ("from", .word .from_),
   ("as", .word .as_), ("default", .word .default_), ("equals", .symbol .equal),
   ("plus", .symbol .plus), ("minus", .symbol .minus), ("into", .symbol .star),
   ("by", .symbol .slash), ("isgre", .symbol .greater), ("isless", .symbol .less)]

/-- The kind a spelling is reserved for. -/
def Keyword.find? (spelling : String) : Option Kind := Keyword.table.lookup spelling

/-- Whether a spelling is reserved. -/
def Keyword.isReserved (spelling : String) : Bool := (Keyword.find? spelling).isSome

/-! ## Tokens -/

/-- What a token stands for, where it stands for a value. -/
inductive Literal where
  /-- A number. -/
  | number (n : Number)
  /-- A decoded string, and whether its closing quote was missing. -/
  | string (value : String) (unterminated : Bool)
  /-- A truth value. -/
  | boolean (b : Bool)
  /-- The null value. -/
  | null
deriving DecidableEq, Repr, Inhabited

/-- A token of the source. -/
structure Token where
  /-- What it is. -/
  kind : Kind
  /-- Its exact source text. -/
  lexeme : String
  /-- The value it stands for. -/
  literal : Option Literal
  /-- Where its text lies in the source. -/
  span : Span
  /-- The line it starts in. -/
  line : Nat
  /-- The column it starts at. -/
  column : Nat
deriving DecidableEq, Repr, Inhabited

/-- Whether a token is a string whose closing quote is missing. -/
def Token.isUnterminated (t : Token) : Bool :=
  match t.literal with
  | some (.string _ unterminated) => unterminated
  | _ => false

/-- The tokens that are not white space. -/
def Token.significant (tokens : List Token) : List Token :=
  tokens.filter fun t => t.kind ≠ .space

end Scriptlet
