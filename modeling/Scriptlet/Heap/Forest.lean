import Scriptlet.Heap.Scope

/-!
# Forests of scopes

A host may use scopes without a program.  It makes some, one inside another or on
its own, and declares and assigns names in them.  A *forest* is what it comes to:
a heap, and all scopes made so far, each with the scope that it was made in.

The scope that a name is found in is said here by going from each scope to the one
around it (`Forest.nearest`).  The scopes themselves carry lists of frames and no
such link.
-/

namespace Scriptlet

/-- A scope with the number of the scope around it, if there is one. -/
structure Node where
  /-- The scope. -/
  scope : Scope
  /-- The number of the scope around it. -/
  parent : Option Nat
deriving Repr

/-- A heap with the scopes that were made on it, the oldest first. -/
structure Forest where
  /-- The heap. -/
  heap : Heap
  /-- The scopes. -/
  nodes : List Node

/-- What a host may do.  Scopes are numbered in the order in which they are made. -/
inductive Operation where
  /-- Makes a scope of its own. -/
  | newRoot
  /-- Makes a scope of its own that binds the built-in functions. -/
  | newGlobal
  /-- Makes a scope inside another one. -/
  | newEnclosed (outer : Nat)
  /-- Declares a name. -/
  | declare (scope : Nat) (name : String) (b : Binding) (span : Span)
  /-- Gives a name another value. -/
  | assign (scope : Nat) (name : String) (v : Value) (span : Span)
  /-- Makes an array to pass as a value. -/
  | newArray (elements : Array Value)
  /-- Makes an object to pass as a value. -/
  | newObject (ps : Properties)
  /-- Makes a function to pass as a value. -/
  | newFunction (c : Callable)

namespace Forest

/-- The forest without scopes. -/
def empty : Forest := ⟨Heap.empty, []⟩

/-- Adds a scope that was just made. -/
def add (F : Forest) (parent : Option Nat) (made : Scope × Heap) : Forest :=
  ⟨made.2, F.nodes ++ [⟨made.1, parent⟩]⟩

/-- Changes the heap by an operation in a scope.  If the operation fails, nothing changes. -/
def change (F : Forest) (i : Nat) (op : Scope → Except Fault Heap) : Forest :=
  match F.nodes[i]? with
  | none => F
  | some node =>
    match op node.scope with
    | .ok h => { F with heap := h }
    | .error _ => F

/-- The forest after an operation.  Without the scope that it asks for, nothing changes. -/
def operate (F : Forest) : Operation → Forest
  | .newRoot => F.add none (F.heap.newRoot [])
  | .newGlobal => F.add none F.heap.newGlobal
  | .newEnclosed i =>
    match F.nodes[i]? with
    | none => F
    | some node => F.add (some i) (F.heap.newEnclosed node.scope)
  | .declare i name b span => F.change i fun s => F.heap.declare s name b span
  | .assign i name v span => F.change i fun s => F.heap.assign s name v span
  | .newArray elements => { F with heap := (F.heap.newArray elements).2 }
  | .newObject ps => { F with heap := (F.heap.newObject ps).2 }
  | .newFunction c => { F with heap := (F.heap.newFunction c).2 }

/-- The forest that operations come to, one after the other. -/
def grown (ops : List Operation) : Forest := ops.foldl operate empty

/-! ## Finding names -/

/-- The binding of a name in a scope, without the scopes around it. -/
def binding? (F : Forest) (i : Nat) (name : String) : Option Binding :=
  F.nodes[i]?.bind fun node => F.heap.bindingIn? node.scope.own name

/-- The scope around a scope, which is an older one. -/
def parent? (F : Forest) (i : Nat) : Option Nat :=
  (F.nodes[i]?.bind Node.parent).filter (· < i)

theorem lt_of_parent? {F : Forest} {i j : Nat} (h : F.parent? i = some j) : j < i := by
  simpa using (Option.filter_eq_some_iff.mp h).2

/-- The nearest scope that binds a name, on the way from a scope outwards, with the binding. -/
def nearest (F : Forest) (name : String) (i : Nat) : Option (Nat × Binding) :=
  match F.binding? i name with
  | some b => some (i, b)
  | none =>
    match _around : F.parent? i with
    | some j => F.nearest name j
    | none => none
termination_by i
decreasing_by exact lt_of_parent? _around

/-- The scope itself comes first, and then the scopes around it. -/
theorem nearest_eq (F : Forest) (name : String) (i : Nat) :
    F.nearest name i =
      match F.binding? i name with
      | some b => some (i, b)
      | none => (F.parent? i).bind (F.nearest name) := by
  rw [nearest]
  cases F.binding? i name with
  | some b => rfl
  | none =>
    dsimp only
    split
    next j around => rw [around, Option.bind_some]
    next alone => rw [alone, Option.bind_none]

/-- A heap that differs from that of a forest in one binding, of a name in a scope. -/
structure Changes (F : Forest) (h : Heap) (i : Nat) (name : String) (b : Binding) : Prop where
  /-- No scope binds anything else than before. -/
  binding : ∀ j n, binding? { F with heap := h } j n =
    if j = i ∧ n = name then some b else F.binding? j n
  /-- A look-up that does not come to the binding gives what it gave before. -/
  lookup : ∀ j node, F.nodes[j]? = some node → ∀ n span, h.lookup node.scope n span =
    if n = name ∧ (nearest { F with heap := h } n j).map Prod.fst = some i then .ok b.value
    else F.heap.lookup node.scope n span
  /-- Arrays, objects and functions stay. -/
  rest : h.arrays = F.heap.arrays ∧ h.objects = F.heap.objects ∧ h.functions = F.heap.functions

end Forest

end Scriptlet
