import Scriptlet.Heap.Fault
import Scriptlet.Token.Basic

/-!
# Names in scopes

A name is resolved to the innermost frame of a scope that binds it.  Reading
gives the value bound there, and assigning replaces it, unless the binding is
constant or asks for another type.  Declaring adds a binding to the scope's own
frame, which must not bind the name yet.  An operation that fails changes
nothing.

A reserved word cannot be declared.  The root scope of a program binds `print`
all the same, since it is put there directly (`Heap.newGlobal`).
-/

namespace Scriptlet

namespace Heap

/-! ## Making scopes -/

/-- A scope of its own, with nothing around it. -/
@[inline] def newRoot (h : Heap) (f : Frame) : Scope × Heap :=
  let (own, h) := h.newFrame f
  (⟨own, []⟩, h)

/-- A scope inside another one. -/
@[inline] def newEnclosed (h : Heap) (outer : Scope) : Scope × Heap :=
  let (own, h) := h.newFrame []
  (⟨own, outer.frames⟩, h)

/-- A root scope that binds the built-in functions as constants. -/
def newGlobal (h : Heap) : Scope × Heap :=
  let (print, h) := h.newFunction (.builtin .print)
  h.newRoot [(Builtin.print.name, ⟨print, true, none⟩)]

/-! ## Resolving names -/

/-- The binding of a name in a frame. -/
def bindingIn? (h : Heap) (frame : Nat) (name : String) : Option Binding :=
  (h.bindings frame).lookup name

/-- The first of some frames that binds a name, with the binding. -/
def resolveIn (h : Heap) (name : String) : List Nat → Option (Nat × Binding)
  | [] => none
  | frame :: rest =>
    match h.bindingIn? frame name with
    | some b => some (frame, b)
    | none => resolveIn h name rest

/-- The innermost frame of a scope that binds a name, with the binding. -/
def resolve (h : Heap) (s : Scope) (name : String) : Option (Nat × Binding) :=
  h.resolveIn name s.frames

/-- The value of a name. -/
def lookup (h : Heap) (s : Scope) (name : String) (span : Span) : Except Fault Value :=
  match h.resolve s name with
  | some (_, b) => .ok b.value
  | none => .error (.undeclared name span)

/-- The names that can be looked up, from the inside out.  A name may occur more
than once. -/
def names (h : Heap) (s : Scope) : List String :=
  s.frames.flatMap fun frame => (h.bindings frame).map Prod.fst

end Heap

/-! ## Changing bindings -/

/-- Fails if a value does not have the type that a name is declared with. -/
def checkType (name : String) (type : Option TypeName) (v : Value) (span : Span) :
    Except Fault Unit :=
  match type with
  | some expected =>
    if v.satisfies expected then .ok () else .error (.mismatch name expected v.tag span)
  | none => .ok ()

/-- Replaces the value of a name in a frame. -/
def Frame.set (f : Frame) (name : String) (v : Value) : Frame :=
  f.map fun (n, b) => (n, if n = name then { b with value := v } else b)

/-- Replacing a value keeps which names a frame binds, and how. -/
theorem Frame.lookup_set (f : Frame) (name n : String) (v : Value) :
    (f.set name v).lookup n =
      (f.lookup n).map fun b => if n = name then { b with value := v } else b := by
  induction f with
  | nil => rfl
  | cons p rest ih =>
    obtain ⟨m, b⟩ := p
    simp only [set, List.map_cons, lookup_cons_ite] at ih ⊢
    split
    · next same => simp [same]
    · exact ih

namespace Heap

/-- Adds a binding to a frame. -/
@[inline] def bind (h : Heap) (frame : Nat) (name : String) (b : Binding) : Heap :=
  { h with frames := h.frames.modify frame fun f => (name, b) :: f }

/-- Replaces the value of a name that a frame binds. -/
@[inline] def rebind (h : Heap) (frame : Nat) (name : String) (v : Value) : Heap :=
  { h with frames := h.frames.modify frame fun f => Frame.set f name v }

/-- Why a name cannot be declared in a scope, if it cannot. -/
def declareFault? (h : Heap) (s : Scope) (name : String) (span : Span) : Option Fault :=
  if Keyword.isReserved name then some (.reserved name span)
  else if (h.bindingIn? s.own name).isSome then some (.duplicate name span)
  else none

/-- The frame in which a name can be given a value. -/
def assignFrame (h : Heap) (s : Scope) (name : String) (v : Value) (span : Span) :
    Except Fault Nat :=
  match h.resolve s name with
  | none => .error (.undeclared name span)
  | some (frame, b) =>
    if b.isConstant then .error (.constant name span)
    else
      match checkType name b.type v span with
      | .error e => .error e
      | .ok () => .ok frame

/-- Binds a new name in a scope's own frame. -/
@[inline] def declare (h : Heap) (s : Scope) (name : String) (b : Binding) (span : Span) :
    Except Fault Heap :=
  match h.declareFault? s name span with
  | some e => .error e
  | none => .ok (h.bind s.own name b)

/-- Gives a name another value. -/
@[inline] def assign (h : Heap) (s : Scope) (name : String) (v : Value) (span : Span) :
    Except Fault Heap :=
  match h.assignFrame s name v span with
  | .error e => .error e
  | .ok frame => .ok (h.rebind frame name v)

/-! ## What the changes do to bindings -/

theorem bindings_newFrame (h : Heap) (f : Frame) (frame : Nat) :
    (h.newFrame f).2.bindings frame =
      if frame = h.frames.size then f else h.bindings frame := by
  simp only [newFrame, bindings, Array.getD_eq_getD_getElem?, Array.getElem?_push]
  split <;> rfl

/-- Modifying a frame changes what that frame binds and nothing else. -/
theorem bindings_modify (h : Heap) (target frame : Nat) (g : Frame → Frame) :
    Heap.bindings { h with frames := h.frames.modify target g } frame =
      if frame = target ∧ target < h.frames.size then g (h.bindings frame)
      else h.bindings frame := by
  simp only [bindings, Array.getD_eq_getD_getElem?, Array.getElem?_modify]
  by_cases same : target = frame
  · subst same
    by_cases inside : target < h.frames.size
    · simp [inside]
    · simp [inside]
  · simp [same, Ne.symm same]

/-- A new binding is found under its name, and the others are found as before. -/
theorem bindingIn?_bind (h : Heap) (target frame : Nat) (name n : String) (b : Binding) :
    (h.bind target name b).bindingIn? frame n =
      if (frame = target ∧ target < h.frames.size) ∧ n = name then some b
      else h.bindingIn? frame n := by
  simp only [bindingIn?, bind, bindings_modify]
  by_cases here : frame = target ∧ target < h.frames.size
  · simp [here, lookup_cons_ite]
  · simp [here]

/-- A new value is found under its name, and the rest as before. -/
theorem bindingIn?_rebind (h : Heap) (target frame : Nat) (name n : String) (v : Value) :
    (h.rebind target name v).bindingIn? frame n =
      if frame = target ∧ n = name then
        (h.bindingIn? frame n).map fun b => { b with value := v }
      else h.bindingIn? frame n := by
  simp only [bindingIn?, rebind, bindings_modify]
  by_cases here : frame = target ∧ target < h.frames.size
  · by_cases same : n = name
    · simp [here, same, Frame.lookup_set]
    · simp [here, same, Frame.lookup_set]
  · by_cases aimed : frame = target
    · have outside : ¬ target < h.frames.size := fun inside => here ⟨aimed, inside⟩
      simp [aimed, outside, bindings, Array.getD_eq_getD_getElem?]
    · simp [aimed]

end Heap

end Scriptlet
