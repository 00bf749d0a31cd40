/-!
# Spans and places

A *span* is a half-open range of byte offsets into a source text.  Tokens, tree
nodes and errors carry one.  A *place* is a byte offset together with the line
and the column that a reader counts.  Lines and columns start at 1, columns
count characters, and only a newline starts a new line.

A place moves over a text one character at a time (`Place.step`), so a place
moved over two texts in a row is the place moved over both
(`Place.advance_append`).
-/

namespace Scriptlet

/-! ## Spans -/

/-- A range of byte offsets: `start` is inside, `stop` is not. -/
structure Span where
  /-- The offset of the first byte. -/
  start : Nat
  /-- The offset after the last byte. -/
  stop : Nat
deriving DecidableEq, Repr, Inhabited

namespace Span

/-- The smallest span that covers two spans. -/
def merge (a b : Span) : Span := ⟨min a.start b.start, max a.stop b.stop⟩

/-- Whether a span holds no byte. -/
def isEmpty (s : Span) : Bool := decide (s.stop ≤ s.start)

/-- The text of a span, `start..stop`. -/
def text (s : Span) : String := toString s.start ++ ".." ++ toString s.stop

@[simp] theorem start_merge (a b : Span) : (a.merge b).start = min a.start b.start := rfl

@[simp] theorem stop_merge (a b : Span) : (a.merge b).stop = max a.stop b.stop := rfl

end Span

/-! ## Places -/

/-- Where a text has been read to. -/
structure Place where
  /-- Bytes read so far. -/
  offset : Nat
  /-- The line, counted from 1. -/
  line : Nat
  /-- The column in characters, counted from 1. -/
  column : Nat
deriving DecidableEq, Repr, Inhabited

namespace Place

/-- The start of a text. -/
def origin : Place := ⟨0, 1, 1⟩

/-- The place after one more character. -/
def step (p : Place) (c : Char) : Place :=
  if c = '\n' then ⟨p.offset + c.utf8Size, p.line + 1, 1⟩
  else ⟨p.offset + c.utf8Size, p.line, p.column + 1⟩

/-- The place after more text. -/
def advance (p : Place) (text : List Char) : Place := text.foldl step p

@[simp] theorem advance_nil (p : Place) : p.advance [] = p := rfl

@[simp] theorem advance_cons (p : Place) (c : Char) (cs : List Char) :
    p.advance (c :: cs) = (p.step c).advance cs := rfl

theorem advance_append (p : Place) (a b : List Char) :
    p.advance (a ++ b) = (p.advance a).advance b := List.foldl_append

/-- The number of bytes that a text takes. -/
def bytes : List Char → Nat
  | [] => 0
  | c :: cs => c.utf8Size + bytes cs

theorem offset_advance (p : Place) (cs : List Char) :
    (p.advance cs).offset = p.offset + bytes cs := by
  induction cs generalizing p with
  | nil => rfl
  | cons c cs ih =>
    rw [advance_cons, ih]
    have step_offset : (p.step c).offset = p.offset + c.utf8Size := by
      unfold step; split <;> rfl
    simp [step_offset, bytes, Nat.add_assoc]

/-- The span from one place to another. -/
def spanTo (p q : Place) : Span := ⟨p.offset, q.offset⟩

end Place

end Scriptlet
