import Scriptlet.Diagnostic.Report
import Scriptlet.Text.Width

/-!
# Drawing reports

A report is drawn as a box beside the source.  The box names the source with a
line and a column, shows the labelled lines with their numbers, and ties the
label to the labelled part by a rule.

The source is cut into lines after every character that breaks a line.  A line
is shown without the blanks at its end.  A tab is shown as spaces up to the next
multiple of four characters, and any other blank as one space.  Wide characters
take two columns and combining ones none, so the rules under a line count
columns and not characters.

A label within one line is drawn under it.  A label over several lines is drawn
as a bracket from its first to its last line.

The offsets of a report count bytes, and here they are taken to count
characters.  After a character of more than one byte the label stands too far
to the right.
-/

namespace Scriptlet.Layout

/-! ## Lines -/

/-- Whether a character ends a line. -/
def isBreak (c : Char) : Bool :=
  c.toNat ∈ [0xa, 0xb, 0xc, 0xd, 0x85, 0x2028, 0x2029]

/-- The lines of a text, each with what ends it.  A carriage return and a newline
end a line together. -/
def splitLines : List Char → List (List Char)
  | [] => []
  | '\r' :: '\n' :: cs => ['\r', '\n'] :: splitLines cs
  | c :: cs =>
    if isBreak c then [c] :: splitLines cs
    else
      match splitLines cs with
      | [] => [[c]]
      | line :: rest => (c :: line) :: rest

example : splitLines "a\r\nb".toList = ["a\r\n".toList, "b".toList] := by rfl

/-- Cutting a text into lines loses nothing. -/
theorem flatten_splitLines (cs : List Char) : (splitLines cs).flatten = cs := by
  fun_induction splitLines cs with
  | case1 => rfl
  | case2 cs ih => simp [ih]
  | case3 c cs _ _ ih => simp [ih]
  | case4 c cs _ _ none ih => simp_all
  | case5 c cs _ _ line rest some ih => simp_all

/-- A line of a source. -/
structure Line where
  /-- Its number, counted from 0. -/
  number : Nat
  /-- The offset of its first character. -/
  start : Nat
  /-- Its characters, with those that end it. -/
  text : List Char
deriving Inhabited

/-- Lines with their numbers and offsets, from a given number and offset on. -/
def locate (number start : Nat) : List (List Char) → List Line
  | [] => []
  | text :: rest => ⟨number, start, text⟩ :: locate (number + 1) (start + text.length) rest

/-- The lines of a source.  An empty source is one empty line. -/
def lines (cs : List Char) : List Line :=
  if cs.isEmpty then [⟨0, 0, []⟩] else locate 0 0 (splitLines cs)

/-- The line at an offset: the last one that does not start behind it. -/
def lineAt (ls : List Line) (offset : Nat) : Line :=
  ((ls.takeWhile fun l => l.start ≤ offset).getLast?).getD default

/-! ## Columns -/

/-- The columns that a character takes in a line, from its index in the line. -/
def columns (index : Nat) (c : Char) : Nat :=
  if c = '\t' then 4 - index % 4
  else if Text.isBlank c then 1
  else Text.width c

/-- How a character is shown in a line. -/
def shown (index : Nat) (c : Char) : List Char :=
  if Text.isBlank c then List.replicate (columns index c) ' ' else [c]

/-- The characters of a line that are shown. -/
def Line.visible (l : Line) : List Char := Text.trimEnd l.text

/-- A line as it is shown. -/
def Line.shown (l : Line) : List Char :=
  l.visible.zipIdx.flatMap fun (c, i) => Layout.shown i c

/-- The columns that the character at an index of a line takes.  Behind the end
of the line it is one. -/
def Line.columns (l : Line) (index : Nat) : Nat :=
  match l.visible[index]? with
  | some c => Layout.columns index c
  | none => 1

/-- The columns of the first characters of a line. -/
def Line.width (l : Line) (count : Nat) : Nat :=
  (List.range count).foldl (fun w i => w + l.columns i) 0

/-! ## Boxes -/

/-- A number of equal characters. -/
def times (n : Nat) (c : Char) : List Char := List.replicate n c

/-- A character followed by a rule, in a number of columns. -/
def corner (c : Char) (columns : Nat) : List Char := (c :: times (columns - 1) '─').take columns

/-- A row of a label: one part for each character of a line. -/
def row (l : Line) (count : Nat) (part : (index columns : Nat) → List Char) : List Char :=
  (List.range count).flatMap fun i => part i (l.columns i)

/-- The left edge of a box, which shows line numbers. -/
structure Gutter where
  /-- The digits of the largest line number. -/
  digits : Nat

namespace Gutter

/-- The margin of rows that show no line number. -/
def margin (g : Gutter) : List Char := times (g.digits + 2) ' '

/-- The margin and the side of the box. -/
def side (g : Gutter) : List Char := g.margin ++ ['│', ' ']

/-- The number of a line and the side of the box. -/
def numbered (g : Gutter) (l : Line) : List Char :=
  let number := Nat.toDigits 10 (l.number + 1)
  ' ' :: times (g.digits - number.length) ' ' ++ number ++ [' ', '│', ' ']

/-- A label within one line. -/
def within (g : Gutter) (l : Line) (range : Span) (label : List Char) : List (List Char) :=
  if l.start + l.text.length < range.stop then [g.side]
  else
    let count := range.stop - l.start + 2
    let middle := (range.start + range.stop) / 2 - l.start
    let isLabelled (i : Nat) : Bool := range.start ≤ l.start + i && l.start + i < range.stop
    let rule := row l count fun i w =>
      if i = middle then corner '┬' w
      else if isLabelled i then times w '─'
      else times w ' '
    let tail := row l count fun i w =>
      if i < middle then times w ' '
      else if i = middle then corner '╰' w
      else times w '─'
    [g.numbered l ++ l.shown, g.side ++ rule, g.side ++ tail ++ ' ' :: label]

/-- The row that stands for lines left out. -/
def ellipsis (g : Gutter) : List Char := g.margin ++ "┆ ┆   ".toList

/-- A label over several lines.  One that ends behind the last line never comes
to its end: the last line is left out and there is no text. -/
def across (g : Gutter) (first last : Line) (range : Span) (label : List Char) :
    List (List Char) :=
  let opening := g.numbered first ++ ['╭', '─', '▶', ' '] ++ first.shown
  if last.start + last.text.length < range.stop then [opening, g.ellipsis]
  else
    let width := last.width (last.text.length + 2)
    opening :: (if first.number + 1 < last.number then [g.ellipsis] else []) ++
    [g.numbered last ++ ['├', '─', '▶', ' '] ++ last.shown,
      g.side ++ "│   ".toList ++ times width ' ',
      g.side ++ "╰───".toList ++ times width '─' ++ ' ' :: label]

end Gutter

/-! ## Reports -/

/-- The rows of a report's box.  There is no box if the label lies outside the
source. -/
def box (name : List Char) (source : List Char) (r : Report) : List (List Char) :=
  let s := r.range.start
  let last := r.range.stop - 1
  if source.length < s ∨ source.length < last then []
  else
    let ls := lines source
    let a := lineAt ls s
    let b := lineAt ls last
    let g : Gutter := ⟨(Nat.toDigits 10 (b.number + 1)).length⟩
    let place :=
      name ++ ':' :: Nat.toDigits 10 (a.number + 1) ++ ':' :: Nat.toDigits 10 (s - a.start + 1)
    let label := r.label.toList
    [g.margin ++ "╭─[ ".toList ++ place ++ " ]".toList, g.margin ++ ['│']] ++
      (if a.number = b.number then g.within a r.range label else g.across a b r.range label) ++
      [times (g.digits + 2) '─' ++ ['╯']]

/-- A report as text. -/
def draw (name source : String) (r : Report) : String :=
  let rows := ("Error: ".toList ++ r.message.toList) :: box name.toList source.toList r
  String.ofList (rows.flatMap fun row => row ++ ['\n'])

end Scriptlet.Layout

namespace Scriptlet

/-- The drawn report of a failure in a source with a given name. -/
def Failure.render (f : Failure) (name source : String) : String :=
  f.drawn Layout.draw name source

end Scriptlet
