import Scriptlet.Cli
import Scriptlet.Repl.Dialogue

/-!
# The program

Reads the arguments and the source, and writes what the command line answers.
The dialogue on the standard streams is `Scriptlet.converse`.
-/

namespace Scriptlet

/-- The error of a file that could not be read.  A failure to open a file names
it, and a failure to read from an open one does not. -/
def readErrorOf : IO.Error → Cli.ReadError
  | .noFileOrDirectory _ _ _ => .missing
  | .inappropriateType (some _) _ _ => .notDirectory
  | .inappropriateType none _ _ => .directory
  | .invalidArgument _ _ _ => .tooLong
  | e => .other e.toString

/-- Reads all bytes of a stream. -/
partial def readAll (stream : IO.FS.Stream) (before : ByteArray) : IO ByteArray := do
  let more ← stream.read 65536
  if more.isEmpty then return before else readAll stream (before ++ more)

/-- Reads a file, or the standard input. -/
def readSource (path : Option String) : IO (Except Cli.ReadError String) := do
  match path with
  | none => return Cli.decode (← readAll (← IO.getStdin) ByteArray.empty)
  | some path =>
    try
      return Cli.decode (← IO.FS.readBinFile path)
    catch e => return .error (readErrorOf e)

/-- Writes to the two outputs. -/
def write (out err : String) : IO Unit := do
  IO.print out
  IO.eprint err

/-- Takes lines from the standard input until the dialogue is over. -/
partial def converseFrom (d : Dialogue) : IO Unit := do
  let line ← (← IO.getStdin).getLine
  if line.isEmpty then write Dialogue.farewell.out Dialogue.farewell.err
  else
    let (d, w) := d.feed Layout.draw ample line.toList
    write w.out w.err
    unless d.isOver do converseFrom d

/-- The dialogue on the standard streams. -/
def converse : IO Unit := do
  write Dialogue.greeting.out Dialogue.greeting.err
  converseFrom Dialogue.initial

end Scriptlet

/-- Answers the arguments. -/
def main (args : List String) : IO UInt32 := do
  let source ← match Scriptlet.Cli.Request.ofArgs args with
    | .work _ path => Scriptlet.readSource path
    | _ => pure (.error .missing)
  let r := Scriptlet.Cli.answer Scriptlet.ample args fun _ => source
  Scriptlet.write r.out r.err
  return r.code.toUInt32
