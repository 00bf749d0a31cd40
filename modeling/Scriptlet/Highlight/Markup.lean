import Scriptlet.Highlight

/-!
# Markup

Highlighted text mixes the characters of a source with markup.  This module says
what the markup is and how a reader takes it away, without looking at how it is
made.

A *table* lists words with what they stand for.  `Table.resolve` goes through a
text from left to right and puts what a word stands for in its place.  Tags and
colour codes stand for nothing, and an entity stands for the character that it
escapes.
-/

namespace Scriptlet

namespace Highlight

/-- The class of a token. -/
def classOf (t : Token) : Class := classify t.kind t.isUnterminated

/-- The chunks that have a class, each with the byte offset it starts at, if the first of all
chunks starts at a given offset. -/
def classed (offset : Nat) : List Chunk → List (Nat × Class × List Char)
  | [] => []
  | .raw text :: cs => classed (offset + Place.bytes text) cs
  | .token cls text :: cs => (offset, cls, text) :: classed (offset + Place.bytes text) cs

/-! ## Tables -/

/-- Words with what they stand for. -/
abbrev Table := List (List Char × List Char)

namespace Table

/-- The first word of a table that a text starts with, and what it stands for. -/
def word? (table : Table) (text : List Char) : Option (List Char × List Char) :=
  table.find? fun w => w.1.isPrefixOf text

/-- Puts what the words stand for in their places, from left to right. -/
def resolve (table : Table) (text : List Char) : List Char :=
  match text with
  | [] => []
  | c :: cs =>
    match table.word? (c :: cs) with
    | none => c :: table.resolve cs
    | some w => w.2 ++ table.resolve (cs.drop (w.1.length - 1))
termination_by text.length
decreasing_by
  · exact Nat.lt_succ_self _
  · simp only [List.length_drop, List.length_cons]
    omega

end Table

/-! ## The markup -/

/-- All classes. -/
def Class.all : List Class :=
  [.bracket, .string, .stringError, .number, .identifier, .keyword, .control, .boolean, .type,
    .operator, .plain]

theorem Class.mem_all (cls : Class) : cls ∈ Class.all := by cases cls <;> decide

/-- The tag in front of a text of a class. -/
def Class.tag (cls : Class) : List Char :=
  "<span class=\"".toList ++ cls.css.toList ++ "\">".toList

/-- The tag behind a text of a class. -/
def closingTag : List Char := "</span>".toList

/-- The tags.  They stand for nothing. -/
def tags : Table := (closingTag, []) :: Class.all.map fun cls => (cls.tag, [])

/-- The escapes of HTML text. -/
def entities : Table :=
  [("&amp;".toList, ['&']), ("&lt;".toList, ['<']), ("&gt;".toList, ['>']),
    ("&quot;".toList, ['"'])]

/-- The colour codes.  They stand for nothing. -/
def codes : Table :=
  ("\x1b[0m".toList, []) :: (Class.all.filterMap Class.code?).map fun code => (code.toList, [])

/-- The characters that text with markup has for markup only. -/
def isReserved (c : Char) : Bool := c == '<' || c == '>' || c == '"'

/-! ## Marked text -/

/-- A text, character by character, without any that has a meaning in markup.  For those there
are entities. -/
inductive Escaped : List Char → List Char → Prop
  /-- Nothing. -/
  | nil : Escaped [] []
  /-- A character without a meaning in markup stands for itself. -/
  | plain {c : Char} {out text : List Char} :
    isReserved c = false → c ≠ '&' → Escaped out text → Escaped (c :: out) (c :: text)
  /-- An entity stands for a character. -/
  | entity {word : List Char} {c : Char} {out text : List Char} :
    (word, [c]) ∈ entities → Escaped out text → Escaped (word ++ out) (c :: text)

/-- Chunks one after the other: escaped text, between tags where the chunk has a class. -/
inductive Marked : List Char → List Chunk → Prop
  /-- Nothing. -/
  | nil : Marked [] []
  /-- Text without a class. -/
  | raw {out text rest : List Char} {cs : List Chunk} :
    Escaped out text → Marked rest cs → Marked (out ++ rest) (.raw text :: cs)
  /-- Text of a class. -/
  | token {cls : Class} {out text rest : List Char} {cs : List Chunk} :
    Escaped out text → Marked rest cs →
    Marked (cls.tag ++ out ++ closingTag ++ rest) (.token cls text :: cs)

end Highlight

end Scriptlet
