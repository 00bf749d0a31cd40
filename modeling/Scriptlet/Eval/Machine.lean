import Scriptlet.Heap.Operator
import Scriptlet.Heap.Scope
import Scriptlet.Heap.Slot

/-!
# The machine

A machine holds everything that a running program can change: the heap, the
scope that names are looked up in, how many calls are being made, and the lines
printed so far.

An action changes a machine and gives a value, or halts.  Either way the machine
goes on from where the action left it, so a program that fails keeps what it
did before.  The actions of this module are single steps.  Each of them either
checks that it can be done and then does it, or halts with the machine
unchanged.
-/

namespace Scriptlet

/-- The state of a running program. -/
structure Machine where
  /-- The cells. -/
  heap : Heap
  /-- The scope at the point that is being evaluated. -/
  scope : Scope
  /-- The number of function calls being made. -/
  depth : Nat
  /-- The lines printed so far. -/
  output : Array String
deriving Inhabited

/-- How many function calls may be made inside each other. -/
def maxDepth : Nat := 1000

/-- What a running program does. -/
abbrev Action (α : Type) := EStateM Halt Machine α

namespace Machine

/-- The root scope.  It is the first frame ever made. -/
def globals : Scope := ⟨0, []⟩

/-- The machine before the first program. -/
def initial : Machine :=
  let (scope, heap) := Heap.empty.newGlobal
  ⟨heap, scope, 0, #[]⟩

end Machine

namespace Action

/-- The machine that an action leaves, however it ends. -/
def after {α : Type} (act : Action α) (m : Machine) : Machine :=
  match act m with
  | .ok _ m => m
  | .error _ m => m

/-- Gives what can be read off the heap and the current scope. -/
@[inline] def query {α : Type} (f : Heap → Scope → Except Halt α) : Action α := fun m =>
  match f m.heap m.scope with
  | .ok a => .ok a m
  | .error e => .error e m

/-- Halts with an error. -/
@[inline] def fail {α : Type} (f : Fault) : Action α := query fun _ _ => .error (.fault f)

/-! ## Names -/

/-- The value of a name. -/
def lookup (name : String) (span : Span) : Action Value :=
  query fun h s => Halt.ofExcept (h.lookup s name span)

/-- The value of a name in the root scope. -/
def lookupGlobal (name : String) (span : Span) : Action Value :=
  query fun h _ => Halt.ofExcept (h.lookup Machine.globals name span)

/-- Binds a new name in the current scope. -/
def declare (name : String) (b : Binding) (span : Span) : Action Unit := fun m =>
  match m.heap.declareFault? m.scope name span with
  | some e => .error (.fault e) m
  | none => .ok () { m with heap := m.heap.bind m.scope.own name b }

/-- Gives a name another value. -/
def assign (name : String) (v : Value) (span : Span) : Action Unit := fun m =>
  match m.heap.assignFrame m.scope name v span with
  | .error e => .error (.fault e) m
  | .ok frame => .ok () { m with heap := m.heap.rebind frame name v }

/-- Fails if a value does not have the type that a name is declared with. -/
def checkValue (name : String) (type : Option TypeName) (v : Value) (span : Span) : Action Unit :=
  query fun _ _ => Halt.ofExcept (checkType name type v span)

/-! ## Cells -/

/-- Makes an array. -/
def newArray (elements : Array Value) : Action Value := fun m =>
  let (v, heap) := m.heap.newArray elements
  .ok v { m with heap := heap }

/-- Makes an object. -/
def newObject (ps : Properties) : Action Value := fun m =>
  let (v, heap) := m.heap.newObject ps
  .ok v { m with heap := heap }

/-- What a function value stands for. -/
def callable (ref : Nat) : Action Callable :=
  query fun h _ => .ok (h.functions.getD ref default)

/-- Makes a function that remembers the current scope. -/
def newClosure (f : Function) : Action Value := fun m =>
  let (v, heap) := m.heap.newFunction (.closure f m.scope)
  .ok v { m with heap := heap }

/-- Reads a slot. -/
def readSlot (container key : Value) : Action Value :=
  query fun h _ => Halt.ofOption (h.readSlot container key)

/-- Writes a slot. -/
def writeSlot (container key v : Value) (span : Span) : Action Unit := fun m =>
  match m.heap.slot container key span with
  | .error e => .error e m
  | .ok s => .ok () { m with heap := m.heap.setSlot s v }

/-! ## Operators and output -/

/-- Applies an operator. -/
def applyBinary (op : BinaryOp) (left right : Value) (span : Span) : Action Value :=
  query fun h _ => h.applyBinary op left right span

/-- Prints a line. -/
def emit (line : String) : Action Unit := fun m =>
  .ok () { m with output := m.output.push line }

/-- The text of a value. -/
def display (v : Value) : Action String :=
  query fun h _ => Halt.ofOption (h.display v)

/-- Prints the text of a value as a line. -/
def emitValue (v : Value) : Action Unit := do
  let text ← display v
  emit text

/-! ## Scopes and calls -/

/-- A new scope inside a given one. -/
def newEnclosed (outer : Scope) : Action Scope := fun m =>
  let (s, heap) := m.heap.newEnclosed outer
  .ok s { m with heap := heap }

/-- The current scope. -/
def scope : Action Scope := query fun _ s => .ok s

/-- Acts in a given scope and comes back from it, however the action ends. -/
@[inline] def within {α : Type} (s : Scope) (act : Action α) : Action α := fun m =>
  let back := m.scope
  match act { m with scope := s } with
  | .ok a m => .ok a { m with scope := back }
  | .error e m => .error e { m with scope := back }

/-- Acts one call deeper and comes back, however the action ends. -/
@[inline] def deeper {α : Type} (act : Action α) : Action α := fun m =>
  match act { m with depth := m.depth + 1 } with
  | .ok a m => .ok a { m with depth := m.depth - 1 }
  | .error e m => .error e { m with depth := m.depth - 1 }

/-- Acts in a new scope inside a given one. -/
def enclosed {α : Type} (outer : Scope) (act : Action α) : Action α := do
  let inner ← newEnclosed outer
  within inner act

/-- Acts one call deeper, unless as many calls are being made as may be. -/
def nested {α : Type} (span : Span) (act : Action α) : Action α := fun m =>
  if maxDepth ≤ m.depth then fail (.recursion maxDepth span) m else deeper act m

@[simp] theorem scope_after_within {α : Type} (s : Scope) (act : Action α) (m : Machine) :
    ((within s act).after m).scope = m.scope := by
  unfold after within
  cases act { m with scope := s } <;> rfl

end Action

end Scriptlet
