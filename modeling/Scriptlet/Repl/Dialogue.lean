import Scriptlet.Diagnostic.Layout
import Scriptlet.Eval.Run
import Scriptlet.Repl.Balance
import Scriptlet.Text.Cluster

/-!
# The dialogue

The dialogue reads its input line by line and gathers lines until they form an
input.  The input runs on a machine that all inputs share, so definitions stay.
What it prints is shown, then its value unless that is null.  A failure is shown
as a report against the input, and the dialogue goes on.  It is over after an
input that breaks the machine down or comes to no end, or whose value has no
text.

There are two parts.  What is made of an input, once it is there (`submit`), says
what is to be reported, and how a report is drawn is a parameter (`Turn.written`).
How lines become inputs (`feed`) goes by what a terminal does.

A backspace takes back what was typed before it, also on an earlier line of the
same input.  It takes back what a reader saw last, which is a whole cluster.
Where nothing is left to take back it does nothing.  The clusters are those of
the text as it was typed, so what comes to stand side by side does not become one
cluster.  How much to take back is kept as a number of bytes below 256.  Of a
longer cluster only the excess over a multiple of 256 is taken back.

A line with an unmatched bracket is not dropped.  The text so far is kept without
its line break, and the complaint is repeated after each further line, unless
backspaces take the bracket back.
-/

namespace Scriptlet

/-! ## Backspaces -/

namespace Backspace

/-- What is left of a typed text. -/
structure Typed where
  /-- The text, its last character first. -/
  reversed : List Char
  /-- The bytes to take back for each cluster, for the last one first. -/
  sizes : List Nat
deriving Inhabited

/-- Drops the characters in the first bytes of a text. -/
def dropBytes : Nat → List Char → List Char
  | 0, cs => cs
  | _, [] => []
  | n + 1, c :: cs => dropBytes (n + 1 - c.utf8Size) cs

/-- Takes in one more cluster. -/
def Typed.take (t : Typed) (cluster : List Char) : Typed :=
  if cluster = ['\x08'] then
    match t.sizes with
    | [] => t
    | size :: sizes => ⟨dropBytes size t.reversed, sizes⟩
  else ⟨cluster.reverse ++ t.reversed, Place.bytes cluster % 256 :: t.sizes⟩

/-- The text that typed characters leave. -/
def apply (cs : List Char) : List Char :=
  ((Text.clusters cs).foldl Typed.take ⟨[], []⟩).reversed.reverse

example : apply "12\x083".toList = "13".toList := by decide +kernel

example : apply "\x08e\u0301\x08\x08x".toList = ['x'] := by decide +kernel

end Backspace

/-! ## Outputs -/

/-- What is written to the two outputs. -/
structure Written where
  /-- Results. -/
  out : String
  /-- Complaints. -/
  err : String
deriving DecidableEq, Repr, Inhabited

namespace Written

/-- Nothing. -/
def nothing : Written := ⟨"", ""⟩

/-- One after the other. -/
def append (a b : Written) : Written := ⟨a.out ++ b.out, a.err ++ b.err⟩

/-- Lines of results. -/
def lines (ls : List String) : Written := ⟨String.join (ls.map (· ++ "\n")), ""⟩

/-- A complaint. -/
def complaint (text : String) : Written := ⟨"", text⟩

end Written

namespace Dialogue

/-- What is written before the first line. -/
def greeting : Written :=
  .lines ["Loyal REPL v0.1.0", "Type 'exit' or press Ctrl-D to quit.", "No previous history."]

/-- What is written at the end of the input. -/
def farewell : Written := .lines ["", "Exiting."]

/-- The name of the source that reports are shown against. -/
def sourceName : String := "REPL"

/-! ## Inputs -/

/-- What is made of an input. -/
structure Turn where
  /-- The input, without blanks around it. -/
  input : String
  /-- The machine after it. -/
  machine : Machine
  /-- The results to show. -/
  results : List String
  /-- The failure to report. -/
  failure : Option Failure
  /-- Whether the dialogue is over. -/
  isLast : Bool
deriving Inhabited

/-- What is written in a turn. -/
def Turn.written (draw : Drawing) (t : Turn) : Written :=
  let report := match t.failure with
    | some f => .complaint (f.drawn draw sourceName t.input)
    | none => .nothing
  (Written.lines t.results).append report

/-- Runs an input on a machine whose output has been shown. -/
def evaluate (fuel : Nat) (m : Machine) (input : String) : Turn :=
  match parseText input with
  | .error e => ⟨input, m, [], some (.syntactic e), false⟩
  | .ok p =>
    let turn (m : Machine) (value : List String) (failure : Option Failure) (isLast : Bool) : Turn :=
      ⟨input, { m with output := #[] }, m.output.toList ++ value, failure, isLast⟩
    match p.run fuel { m with output := #[] } with
    | .ok .null m => turn m [] none false
    | .ok v m =>
      match m.heap.display v with
      | some text => turn m [text] none false
      | none => turn m [] none true
    | .error (.fault f) m => turn m [] (some (.runtime f)) false
    | .error (.crash _) m => turn m [] none true
    | .error .endless m => turn m [] none true

/-- Whether an input asks for the end, in capitals or not. -/
def isExit (input : List Char) : Bool := input.map Char.toLower = "exit".toList

/-- Takes an input, maybe with blanks around it. -/
def submit (fuel : Nat) (m : Machine) (text : List Char) : Turn :=
  let input := Text.trim text
  if input.isEmpty then ⟨String.ofList input, m, [], none, false⟩
  else if isExit input then ⟨String.ofList input, m, [], none, true⟩
  else evaluate fuel m (String.ofList input)

end Dialogue

/-! ## Lines -/

/-- The state between two lines. -/
structure Dialogue where
  /-- The machine that the inputs run on. -/
  machine : Machine
  /-- The text of the input so far. -/
  buffer : List Char
  /-- Whether the dialogue is over. -/
  isOver : Bool
deriving Inhabited

namespace Dialogue

/-- The dialogue before the first line. -/
def initial : Dialogue := ⟨Machine.initial, [], false⟩

/-- A text without the newline that ends it and a carriage return before that,
and what was taken off. -/
def splitBreak (text : List Char) : List Char × List Char :=
  match text.reverse with
  | '\n' :: '\r' :: cs => (cs.reverse, ['\r', '\n'])
  | '\n' :: cs => (cs.reverse, ['\n'])
  | _ => (text, [])

/-- Takes a line, with the newline that ends it if there is one. -/
def feed (draw : Drawing) (fuel : Nat) (d : Dialogue) (line : List Char) : Dialogue × Written :=
  let (typed, lineBreak) := splitBreak (d.buffer ++ line)
  let text := Backspace.apply typed
  match Verdict.ofText (String.ofList text) with
  | .complete =>
    let t := submit fuel d.machine text
    (⟨t.machine, [], t.isLast⟩, t.written draw)
  | .incomplete => ({ d with buffer := text ++ lineBreak }, .nothing)
  | .unmatched t => ({ d with buffer := text }, .complaint t.unmatchedMessage)

/-- Takes lines until the dialogue is over or the input ends. -/
def run (draw : Drawing) (fuel : Nat) (d : Dialogue) : List (List Char) → Written
  | [] => farewell
  | line :: rest =>
    let (d, w) := feed draw fuel d line
    if d.isOver then w else w.append (run draw fuel d rest)

/-- The lines of a text, each with the newline that ends it. -/
def splitLines : List Char → List (List Char)
  | [] => []
  | c :: cs =>
    if c = '\n' then [c] :: splitLines cs
    else
      match splitLines cs with
      | [] => [[c]]
      | line :: rest => (c :: line) :: rest

/-- All that a dialogue writes for a given input. -/
def transcript (fuel : Nat) (input : String) : Written :=
  greeting.append (run Layout.draw fuel initial (splitLines input.toList))

end Dialogue

end Scriptlet
