import Scriptlet.Diagnostic.Layout
import Scriptlet.Eval.Run
import Scriptlet.Highlight
import Scriptlet.Text.Escape
import Scriptlet.Token.Basic

/-!
# The command line

The program takes at most one file.  It runs the file, highlights it or lists
its tokens.  Without a file it runs what it reads from the standard input.

Two parts are kept apart.  `Request.ofArgs` says what the arguments ask for, and
`perform` does it with the source, which somebody else has read.  `answer` puts
them together over any way of reading sources.
-/

namespace Scriptlet.Cli

/-! ## Requests -/

/-- What to do with a source. -/
inductive Command where
  /-- Run it. -/
  | run
  /-- Show it in HTML. -/
  | highlight
  /-- List its tokens. -/
  | tokens
deriving DecidableEq, Repr, Inhabited

/-- What the arguments ask for. -/
inductive Request where
  /-- How the program is used. -/
  | help
  /-- Nothing that the program does. -/
  | misuse
  /-- A command on a file, or on the standard input. -/
  | work (command : Command) (path : Option String)
deriving DecidableEq, Repr, Inhabited

/-- What arguments ask for. -/
def Request.ofArgs : List String → Request
  | [] => .work .run none
  | [arg] =>
    if arg = "--help" ∨ arg = "-h" then .help
    else if "--".toList.isPrefixOf arg.toList then .misuse
    else .work .run (some arg)
  | [flag, path] =>
    if flag = "--highlight" then .work .highlight (some path)
    else if flag = "--tokens" then .work .tokens (some path)
    else .misuse
  | _ => .misuse

/-- How the program is used. -/
def usage : String :=
  "Usage: loyal [--highlight | --tokens] [FILE]\n" ++
    "Runs FILE (or standard input when no file is given).\n"

/-! ## Sources -/

/-- Why a source cannot be read. -/
inductive ReadError where
  /-- There is no such file. -/
  | missing
  /-- It is a directory. -/
  | directory
  /-- A part of the path is a file and not a directory. -/
  | notDirectory
  /-- The path or one of its parts is longer than a path or a part may be. -/
  | tooLong
  /-- Its bytes are no text. -/
  | notText
  /-- Something else. -/
  | other (message : String)
deriving DecidableEq, Repr, Inhabited

/-- What a read error says. -/
def ReadError.message : ReadError → String
  | .missing => "No such file or directory (os error 2)"
  | .directory => "Is a directory (os error 21)"
  | .notDirectory => "Not a directory (os error 20)"
  | .tooLong => "File name too long (os error 36)"
  | .notText => "stream did not contain valid UTF-8"
  | .other message => message

/-- The text that bytes encode. -/
def decode (bytes : ByteArray) : Except ReadError String :=
  match String.fromUTF8? bytes with
  | some text => .ok text
  | none => .error .notText

/-- The name under which a source is shown. -/
def sourceName (path : Option String) : String := path.getD "<stdin>"

/-! ## Results -/

/-- What the program leaves behind. -/
structure Result where
  /-- The exit code. -/
  code : Nat
  /-- What it wrote to the standard output. -/
  out : String
  /-- What it wrote to the standard error. -/
  err : String
deriving DecidableEq, Repr, Inhabited

/-- Lines of text. -/
def unlines (lines : List String) : String := String.join (lines.map (· ++ "\n"))

/-- A failure with its report. -/
def failed (out : String) (f : Failure) (name source : String) : Result :=
  ⟨1, out, f.render name source⟩

/-- A token in a listing. -/
def tokenLine (t : Token) : String :=
  toString t.line ++ ":" ++ toString t.column ++ "\t" ++ t.kind.name ++ "\t" ++
    String.ofList (Text.Style.listing.quote t.lexeme.toList)

/-- Does a command with a source. -/
def perform (fuel : Nat) (command : Command) (name source : String) : Result :=
  match command with
  | .run =>
    let (ending, output) := runSource fuel source
    let out := unlines output.toList
    match ending with
    | .finished _ => ⟨0, out, ""⟩
    | .failed f => failed out f name source
    -- What the system says about a program that broke down is not said by the program.
    | .crashed _ => ⟨101, out, ""⟩
    | .endless => ⟨134, out, ""⟩
  | .highlight => ⟨0, Highlight.html source, ""⟩
  | .tokens =>
    match tokenize source with
    | .ok tokens => ⟨0, unlines ((Token.significant tokens).map tokenLine), ""⟩
    | .error e => failed "" (.lexical e) name source

/-- Does a command with a source that may not be readable. -/
def performOn (fuel : Nat) (command : Command) (path : Option String)
    (source : Except ReadError String) : Result :=
  match source with
  | .ok text => perform fuel command (sourceName path) text
  | .error e => ⟨1, "", "Error reading " ++ sourceName path ++ ": " ++ e.message ++ "\n"⟩

/-- Answers arguments, given how sources are read. -/
def answer (fuel : Nat) (args : List String) (read : Option String → Except ReadError String) :
    Result :=
  match Request.ofArgs args with
  | .help => ⟨0, usage, ""⟩
  | .misuse => ⟨2, "", usage⟩
  | .work command path => performOn fuel command path (read path)

end Scriptlet.Cli
