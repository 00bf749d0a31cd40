import Scriptlet.Heap.Basic

/-!
# Runtime errors

Everything that can go wrong while a program runs, with the span to blame.  An
error is a cause with the facts that its message mentions.

A computation may also not end: a program may loop for ever, and a container
that holds itself has no finite text.  And it may break the machine down that it
runs on (`Crash`).  `Halt` keeps both apart from errors.
-/

namespace Scriptlet

/-- An operation on values of sorts that it is not defined for. -/
inductive TypeFault where
  /-- Negating something else than a number. -/
  | negation (found : Tag)
  /-- A step of something else than a variable. -/
  | stepTarget (op : StepOp)
  /-- A step of a variable that holds no number. -/
  | stepOperand (op : StepOp) (found : Tag)
  /-- Adding values neither of which is a string, not both numbers. -/
  | addition (left right : Tag)
  /-- Arithmetic on something else than numbers. -/
  | arithmetic (op : BinaryOp) (left right : Tag)
  /-- An order between values that have none. -/
  | comparison (op : BinaryOp) (left right : Tag)
  /-- Writing to an array at something that is no index. -/
  | arrayIndex (key : String)
  /-- Writing to something that holds no elements. -/
  | container (key : String) (found : Tag)
  /-- Assigning to an expression that is no place. -/
  | target
  /-- A function result of another type than declared. -/
  | result (function : String) (expected : TypeName) (found : Tag)
  /-- A signal that leaves a function and is none of the known ones. -/
  | control
deriving DecidableEq, Repr, Inhabited

/-- What a type fault says. -/
def TypeFault.message : TypeFault → String
  | .negation found => "Unary '-' expects a number but got " ++ found.text
  | .stepTarget op => "Operator '" ++ op.text ++ "' can only be applied to a variable"
  | .stepOperand op found =>
    "Operator '" ++ op.text ++ "' expects a number but got " ++ found.text
  | .addition left right =>
    "Operator '+' expects numbers or strings but got " ++ left.text ++ " and " ++ right.text
  | .arithmetic op left right =>
    "Operator '" ++ op.text ++ "' expects numbers but got " ++ left.text ++ " and " ++
      right.text
  | .comparison op left right =>
    "Operator '" ++ op.text ++ "' cannot compare " ++ left.text ++ " with " ++ right.text
  | .arrayIndex key => "Invalid array index " ++ key
  | .container key found =>
    "Cannot set property '" ++ key ++ "' on a value of type " ++ found.text
  | .target => "Invalid assignment target"
  | .result function expected found =>
    "Function '" ++ function ++ "' must return " ++ expected.text ++ " but returned " ++
      found.text
  | .control => "Unexpected control flow"

/-- The statements that end other statements early. -/
inductive Signal where
  | break_ | continue_ | return_
deriving DecidableEq, Repr, Inhabited

/-- How a signal is written. -/
def Signal.text : Signal → String
  | .break_ => "break"
  | .continue_ => "continue"
  | .return_ => "return"

/-- What a signal must stand inside of. -/
def Signal.context : Signal → String
  | .break_ | .continue_ => "a loop"
  | .return_ => "a function"

/-- A runtime error. -/
inductive Fault where
  /-- A second declaration of a name in one frame. -/
  | duplicate (name : String) (span : Span)
  /-- A declaration of a reserved word. -/
  | reserved (name : String) (span : Span)
  /-- A name that no visible frame binds. -/
  | undeclared (name : String) (span : Span)
  /-- An assignment to a constant. -/
  | constant (name : String) (span : Span)
  /-- A value of another type than declared. -/
  | mismatch (name : String) (expected : TypeName) (found : Tag) (span : Span)
  /-- An operation that its operands do not allow. -/
  | type (fault : TypeFault) (span : Span)
  /-- A call with the wrong number of arguments. -/
  | arity (name : String) (expected found : Nat) (span : Span)
  /-- A call of something that is no function. -/
  | notCallable (found : Tag) (span : Span)
  /-- A signal with nothing around it to receive it. -/
  | escape (signal : Signal) (span : Span)
  /-- Too many calls inside each other. -/
  | recursion (limit : Nat) (span : Span)
deriving DecidableEq, Repr, Inhabited

namespace Fault

/-- The span to blame. -/
def span : Fault → Span
  | .duplicate _ s | .reserved _ s | .undeclared _ s | .constant _ s | .mismatch _ _ _ s
  | .type _ s | .arity _ _ _ s | .notCallable _ s | .escape _ s | .recursion _ s => s

/-- What the error says. -/
def message : Fault → String
  | .duplicate name _ => "Variable '" ++ name ++ "' is already declared in this scope"
  | .reserved name _ => "'" ++ name ++ "' is a reserved word and cannot be declared"
  | .undeclared name _ => "Undeclared variable '" ++ name ++ "'"
  | .constant name _ => "Cannot assign to '" ++ name ++ "' because it is a constant"
  | .mismatch name expected found _ =>
    "Type error: '" ++ name ++ "' is declared as " ++ expected.text ++ " but got " ++
      found.text
  | .type fault _ => "Type error: " ++ fault.message
  | .arity name expected found _ =>
    "Function '" ++ name ++ "' expects " ++ toString expected ++ " argument(s) but got " ++
      toString found
  | .notCallable found _ => "Cannot call a value of type " ++ found.text
  | .escape signal _ => "'" ++ signal.text ++ "' used outside of " ++ signal.context
  | .recursion limit _ => "Maximum call depth exceeded (limit: " ++ toString limit ++ ")"

end Fault

/-- The same error, with another span to blame. -/
def Fault.at : Fault → Span → Fault
  | .duplicate name _, s => .duplicate name s
  | .reserved name _, s => .reserved name s
  | .undeclared name _, s => .undeclared name s
  | .constant name _, s => .constant name s
  | .mismatch name expected found _, s => .mismatch name expected found s
  | .type fault _, s => .type fault s
  | .arity name expected found _, s => .arity name expected found s
  | .notCallable found _, s => .notCallable found s
  | .escape signal _, s => .escape signal s
  | .recursion limit _, s => .recursion limit s

@[simp] theorem Fault.at_span (f : Fault) : f.at f.span = f := by cases f <;> rfl

@[simp] theorem Fault.span_at (f : Fault) (s : Span) : (f.at s).span = s := by cases f <;> rfl

/-- Whether an error is that of a signal that nobody receives. -/
def Fault.isEscape : Fault → Bool
  | .escape _ _ => true
  | _ => false

/-- What a machine breaks down at. -/
inductive Crash where
  /-- An object is looked into while it is being written to. -/
  | borrowed
  /-- An array would get longer than can be counted. -/
  | capacity
deriving DecidableEq, Repr, Inhabited

/-- Why a computation gives no value. -/
inductive Halt where
  /-- It failed. -/
  | fault (f : Fault)
  /-- It broke the machine down.  This is no error of the program, and nothing comes after it. -/
  | crash (c : Crash)
  /-- It does not end, or not within the steps it was given. -/
  | endless
deriving DecidableEq, Repr, Inhabited

namespace Halt

/-- A result that may be an error. -/
def ofExcept {α : Type} : Except Fault α → Except Halt α
  | .ok a => .ok a
  | .error f => .error (.fault f)

/-- A result that is missing if the computation does not end. -/
def ofOption {α : Type} : Option α → Except Halt α
  | some a => .ok a
  | none => .error .endless

end Halt

end Scriptlet
