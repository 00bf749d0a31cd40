import Scriptlet.Number.Decimal
import Scriptlet.Tree.Basic

/-!
# Values and the heap

A value is a number, a string, a truth value, null, or a reference to something
shared: an array, an object or a function.  Copying a value copies the
reference, so all copies see a later change.

What the references refer to lies on the heap.  A new cell always goes to the
end, and no cell is ever removed, so a reference stays good for ever.  Variables
live in *frames*, and a frame is a cell too.  A *scope* is the list of the
frames that are visible at a point, the innermost first.  A function remembers
the scope it was made in.
-/

namespace Scriptlet

/-! ## Values -/

/-- A value of the language.  A reference is an index into the heap. -/
inductive Value where
  | number (n : Number)
  | string (s : String)
  | boolean (b : Bool)
  | null
  | array (ref : Nat)
  | object (ref : Nat)
  | function (ref : Nat)
deriving DecidableEq, Repr, Inhabited

/-- The sorts of values. -/
inductive Tag where
  | number | string | boolean | null | array | object | function
deriving DecidableEq, Repr, Inhabited

/-- How a sort is called. -/
def Tag.text : Tag → String
  | .number => "number"
  | .string => "string"
  | .boolean => "boolean"
  | .null => "null"
  | .array => "array"
  | .object => "object"
  | .function => "function"

namespace Value

/-- The sort of a value. -/
def tag : Value → Tag
  | .number _ => .number
  | .string _ => .string
  | .boolean _ => .boolean
  | .null => .null
  | .array _ => .array
  | .object _ => .object
  | .function _ => .function

/-- Whether a value counts as true.  Null, false, zero, what is no number, and
the empty string do not. -/
def isTruthy : Value → Bool
  | .null => false
  | .boolean b => b
  | .number n => !n.isZero && !n.isNaN
  | .string s => !s.isEmpty
  | _ => true

/-- Whether a value has a type. -/
def satisfies (v : Value) (type : TypeName) : Bool :=
  match type, v with
  | .any, _ => true
  | .number, .number _ => true
  | .string, .string _ => true
  | .boolean, .boolean _ => true
  | _, _ => false

end Value

/-! ## Frames and scopes -/

/-- What a name is bound to. -/
structure Binding where
  /-- The value. -/
  value : Value
  /-- Whether it can be assigned to. -/
  isConstant : Bool
  /-- The type that assigned values must have. -/
  type : Option TypeName
deriving DecidableEq, Repr, Inhabited

/-- The names of one block, call or loop with their bindings, the newest first. -/
abbrev Frame := List (String × Binding)

/-- The visible frames: one's own, and those around it from the inside out. -/
structure Scope where
  /-- The frame that declarations go to. -/
  own : Nat
  /-- The frames around it. -/
  outer : List Nat
deriving DecidableEq, Repr, Inhabited

/-- All frames of a scope, innermost first. -/
def Scope.frames (s : Scope) : List Nat := s.own :: s.outer

/-! ## Functions -/

/-- The functions that are part of the language. -/
inductive Builtin where
  /-- Writes a value as a line of output. -/
  | print
deriving DecidableEq, Repr, Inhabited

/-- The name of a built-in function. -/
def Builtin.name : Builtin → String
  | .print => "print"

/-- The number of arguments that a built-in function takes. -/
def Builtin.arity : Builtin → Nat
  | .print => 1

/-- What can be called. -/
inductive Callable where
  /-- A function of the program with the scope it was made in. -/
  | closure (f : Function) (scope : Scope)
  /-- A function of the language. -/
  | builtin (b : Builtin)

/-- What a reference without a cell stands for. -/
instance : Inhabited Callable := ⟨.builtin .print⟩

namespace Callable

/-- The name, if there is one. -/
def name : Callable → Option String
  | .closure f _ => f.name
  | .builtin b => some b.name

/-- The number of arguments. -/
def arity : Callable → Nat
  | .closure f _ => f.params.length
  | .builtin b => b.arity

/-- How a function without a name is called. -/
def anonymous : String := "<anonymous>"

/-- A text that tells the two sorts of functions apart. -/
def label : Callable → String
  | .closure f _ => "Closure(" ++ f.name.getD anonymous ++ ")"
  | .builtin b => "Native(" ++ b.name ++ ")"

end Callable

/-! ## Objects -/

/-- The properties of an object, in ascending order of their names. -/
abbrev Properties := List (String × Value)

/-- Sets a property. -/
def Properties.insert (key : String) (v : Value) : Properties → Properties
  | [] => [(key, v)]
  | (k, w) :: rest =>
    if key < k then (key, v) :: (k, w) :: rest
    else if key = k then (key, v) :: rest
    else (k, w) :: insert key v rest

/-- The value of a property. -/
def Properties.get? (key : String) (ps : Properties) : Option Value := ps.lookup key

theorem lookup_cons_ite {β : Type} (k a : String) (b : β) (rest : List (String × β)) :
    ((a, b) :: rest).lookup k = if k = a then some b else rest.lookup k := by
  by_cases same : k = a
  · simp [same]
  · simp [List.lookup_cons, beq_false_of_ne same, same]

/-- Setting a property gives it its value and leaves the others as they are. -/
theorem Properties.get?_insert (k key : String) (v : Value) (ps : Properties) :
    get? k (ps.insert key v) = if k = key then some v else get? k ps := by
  unfold get?
  induction ps with
  | nil => simp [insert, lookup_cons_ite]
  | cons p rest ih =>
    obtain ⟨name, w⟩ := p
    unfold insert
    simp only [lookup_cons_ite]
    split
    · simp only [lookup_cons_ite]
    · split
      · next same => subst same; simp only [lookup_cons_ite]; split <;> rfl
      · simp only [lookup_cons_ite, ih]; grind

example :
    Properties.insert "a" .null [("b", .null)] = [("a", .null), ("b", .null)] := by decide

/-! ## The heap -/

/-- All cells, each sort with references of its own. -/
structure Heap where
  /-- The frames. -/
  frames : Array Frame
  /-- The arrays. -/
  arrays : Array (Array Value)
  /-- The objects. -/
  objects : Array Properties
  /-- The functions. -/
  functions : Array Callable
deriving Inhabited

namespace Heap

/-- The heap without cells. -/
def empty : Heap := ⟨#[], #[], #[], #[]⟩

/-- A new frame with given bindings. -/
@[inline] def newFrame (h : Heap) (f : Frame) : Nat × Heap :=
  (h.frames.size, { h with frames := h.frames.push f })

/-- A new array. -/
@[inline] def newArray (h : Heap) (elements : Array Value) : Value × Heap :=
  (.array h.arrays.size, { h with arrays := h.arrays.push elements })

/-- A new object. -/
@[inline] def newObject (h : Heap) (ps : Properties) : Value × Heap :=
  (.object h.objects.size, { h with objects := h.objects.push ps })

/-- A new function.  It differs from every function made before. -/
@[inline] def newFunction (h : Heap) (c : Callable) : Value × Heap :=
  (.function h.functions.size, { h with functions := h.functions.push c })

/-- The elements of an array. -/
def elements (h : Heap) (ref : Nat) : Array Value := h.arrays.getD ref #[]

/-- The properties of an object. -/
def properties (h : Heap) (ref : Nat) : Properties := h.objects.getD ref []

/-- The bindings of a frame. -/
def bindings (h : Heap) (ref : Nat) : Frame := h.frames.getD ref []

/-- The values that a container holds directly.  Other values hold none. -/
def inside (h : Heap) : Value → List Value
  | .array ref => (h.elements ref).toList
  | .object ref => (h.properties ref).map Prod.snd
  | .number _ | .string _ | .boolean _ | .null | .function _ => []

/-- The number of arrays and objects. -/
def containers (h : Heap) : Nat := h.arrays.size + h.objects.size

end Heap

end Scriptlet
