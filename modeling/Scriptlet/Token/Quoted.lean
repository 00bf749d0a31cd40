/-!
# String literals

A string literal starts with a double quote and ends at the next one that no
backslash precedes.  If there is none it runs to the end of the text, which is
not an error of the scanner.  `Quoted.split` finds the end.

Three escapes have a meaning: a double quote, a newline as `n` and a tab as
`t`.  A backslash before any other character stands for itself, and so does
that character.  `Quoted.decode` reads a lexeme and says whether its closing
quote was missing.

Both walk the text in the same steps, a backslash with the character after it
at once, so they find the same closing quote.

Not every text is the value of a literal, since no escape stands for a backslash
(`Quoted.isWritable`).  Those that are can be written by `Quoted.encode`.

The closing quote can also be looked for with a flag, which a backslash sets and any
character after it clears (`Quoted.closing?`).  Decoding stops at a quote of its own
(`Quoted.unread`).  `Quoted.Steps` is the grammar of what stands between the quotes,
with what it stands for.
-/

namespace Scriptlet.Quoted

/-- Splits the text after an opening quote: the rest of the literal, closing
quote included, and what follows it. -/
def split : List Char → List Char × List Char
  | [] => ([], [])
  | '\\' :: c :: cs =>
    let tail := split cs
    ('\\' :: c :: tail.1, tail.2)
  | c :: cs =>
    if c = '"' then ([c], cs)
    else
      let tail := split cs
      (c :: tail.1, tail.2)

/-- What an escaped character stands for. -/
def escaped (c : Char) : List Char :=
  if c = '"' then ['"']
  else if c = 'n' then ['\n']
  else if c = 't' then ['\t']
  else ['\\', c]

/-- The value of a literal without its opening quote, and whether the closing
quote is missing.  What follows the closing quote is not read. -/
def decodeBody : List Char → List Char × Bool
  | [] => ([], true)
  | '\\' :: c :: cs =>
    let tail := decodeBody cs
    (escaped c ++ tail.1, tail.2)
  | c :: cs =>
    if c = '"' then ([], false)
    else
      let tail := decodeBody cs
      (c :: tail.1, tail.2)

/-- The value of a literal, and whether its closing quote is missing. -/
def decode : List Char → List Char × Bool
  | '"' :: cs => decodeBody cs
  | cs => decodeBody cs

/-- Splitting loses no character. -/
theorem split_append (cs : List Char) : (split cs).1 ++ (split cs).2 = cs := by
  fun_induction split cs with
  | case1 => rfl
  | case2 c cs tail ih => simpa [tail] using ih
  | case3 => rfl
  | case4 c cs _ _ tail ih => simpa [tail] using ih

example : split "a\\\"b\" c".toList = ("a\\\"b\"".toList, " c".toList) := by rfl

example : decode "\"a\\n\\q".toList = ("a\n\\q".toList, true) := by rfl

/-! ## Writing literals -/

/-- Whether a text is the value of a literal.  A backslash, read with the character after it, must
not end the text and must not make an escape. -/
def isWritable : List Char → Bool
  | [] => true
  | '\\' :: c :: cs => (c ≠ '"' && c ≠ 'n' && c ≠ 't') && isWritable cs
  | c :: cs => c ≠ '\\' && isWritable cs

/-- A character that no backslash stands before, in a literal. -/
def encodeChar (c : Char) : List Char :=
  if c = '"' then ['\\', '"']
  else if c = '\n' then ['\\', 'n']
  else if c = '\t' then ['\\', 't']
  else [c]

/-- A text in a literal.  What stands behind a backslash is left as it is. -/
def encodeBody : List Char → List Char
  | [] => []
  | '\\' :: c :: cs => '\\' :: c :: encodeBody cs
  | c :: cs => encodeChar c ++ encodeBody cs

/-- A literal for a text. -/
def encode (cs : List Char) : List Char := '"' :: (encodeBody cs ++ ['"'])

example : encode "\\\\\"\n".toList = "\"\\\\\\\"\\n\"".toList := by rfl

/-! ## The closing quote -/

/-- Looks for the closing quote in the text after an opening quote, from a byte of that text on.
The flag says whether the next character is escaped.  Gives the byte behind the quote. -/
def closing? (flag : Bool) (at_ : Nat) : List Char → Option Nat
  | [] => none
  | c :: cs =>
    if flag then closing? false (at_ + c.utf8Size) cs
    else if c = '\\' then closing? true (at_ + c.utf8Size) cs
    else if c = '"' then some (at_ + 1)
    else closing? false (at_ + c.utf8Size) cs

/-- What decoding leaves unread: the text behind the quote it stops at. -/
def unread : List Char → List Char
  | [] => []
  | '\\' :: _ :: cs => unread cs
  | c :: cs => if c = '"' then cs else unread cs

/-- The characters between the quotes of a literal and what they stand for. -/
inductive Steps : List Char → List Char → Prop
  /-- Nothing stands for nothing. -/
  | nil : Steps [] []
  /-- A backslash is read with the character after it. -/
  | pair (c : Char) {cs value : List Char} :
    Steps cs value → Steps ('\\' :: c :: cs) (escaped c ++ value)
  /-- Another character stands for itself.  It is no quote. -/
  | plain {c : Char} {cs value : List Char} :
    c ≠ '\\' → c ≠ '"' → Steps cs value → Steps (c :: cs) (c :: value)

example : closing? false 0 "é\\\\\"b\"".toList = some 5 := by decide

end Scriptlet.Quoted
