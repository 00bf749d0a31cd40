import Scriptlet.Token.Stream

/-!
# Completing words

The word under the cursor is completed by the keywords and names that extend
it.  The text before the cursor decides which word that is: its last token, if
that is a word and ends at the cursor.  Where there is no such word there is
nothing to complete.
-/

namespace Scriptlet

/-- Where to put a completion, and what may be put there. -/
structure Completion where
  /-- The offset of the word to replace. -/
  start : Nat
  /-- The words that may replace it, in ascending order. -/
  candidates : List String
deriving DecidableEq, Repr, Inhabited

namespace Completion

/-- The characters in the first bytes of a text. -/
def takeBytes : Nat → List Char → List Char
  | _, [] => []
  | n, c :: cs => if c.utf8Size ≤ n then c :: takeBytes (n - c.utf8Size) cs else []

/-- The word that ends a text, if its last token is one. -/
def word? (text : String) (pos : Nat) : Option String :=
  match tokenize text with
  | .error _ => none
  | .ok tokens =>
    match (tokens.filter fun t => t.kind ≠ .eof).getLast? with
    | none => none
    | some t =>
      if t.span.stop = pos ∧ t.lexeme.toList.head?.any Scan.isNameStart then some t.lexeme
      else none

/-- Whether a word is longer than another one and starts with it. -/
def isExtension (word longer : String) : Bool :=
  word.toList.isPrefixOf longer.toList && longer ≠ word

/-- Words in ascending order, each once. -/
def sorted (words : List String) : List String :=
  (words.mergeSort fun a b => decide (a ≤ b)).eraseReps

/-- Completes the word before an offset of a line, from the keywords and some
visible names. -/
def complete (names : List String) (line : String) (pos : Nat) : Completion :=
  match word? (String.ofList (takeBytes pos line.toList)) pos with
  | none => ⟨pos, []⟩
  | some word =>
    let words := Keyword.table.map Prod.fst ++ names
    ⟨pos - word.utf8ByteSize, sorted (words.filter (isExtension word))⟩

example : (complete [] "let x = pr" 10).candidates = ["print"] := by decide +kernel

end Completion

end Scriptlet
