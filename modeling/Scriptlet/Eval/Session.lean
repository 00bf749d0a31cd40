import Scriptlet.Eval.Run

/-!
# Sessions

A host keeps a machine and serves requests on it one after the other.  Whether a
request gives a value or halts, the next one goes on from the machine it left.
After a crash there is no next one, but what holds in all sessions does not depend
on that, so it is not asked for.
In between the host may make arrays, objects and functions, to pass them as
arguments.
-/

namespace Scriptlet

/-- What a host can ask for. -/
inductive Request where
  /-- The value of a program. -/
  | run (program : Program)
  /-- The value of an expression. -/
  | evaluate (e : Expr)
  /-- The value of a call. -/
  | call (callee : Value) (args : List Value) (span : Span)

/-- Serves a request. -/
def Request.serve (p : Performer) : Request → Action Value
  | .run program => runStatements p .null program.body
  | .evaluate e => p.evaluate e
  | .call callee args span => p.call callee args span

/-- A heap with some new cells, and all others as they are. -/
structure Heap.Supplies (h h' : Heap) : Prop where
  /-- The frames are the same. -/
  frames : h'.frames = h.frames
  /-- Arrays may be added. -/
  arrays : ∃ new, h'.arrays = h.arrays ++ new
  /-- Objects may be added. -/
  objects : ∃ new, h'.objects = h.objects ++ new
  /-- Functions may be added. -/
  functions : ∃ new, h'.functions = h.functions ++ new

/-- The machines that a session may come to from a given one. -/
inductive Machine.Later (m : Machine) : Machine → Prop
  /-- Nothing happens. -/
  | refl : Later m m
  /-- A request is served, and gives a value or halts. -/
  | serve {m' : Machine} (fuel : Nat) (r : Request) : Later m m' →
      Later m ((r.serve (Evaluate.perform fuel)).after m')
  /-- The host makes values. -/
  | supply {m' : Machine} {h : Heap} : Later m m' → m'.heap.Supplies h →
      Later m { m' with heap := h }

/-- The machines that a session may come to if it keeps to certain requests, and the host
to certain functions. -/
inductive Machine.LaterBy (asks : Request → Prop) (makes : Callable → Prop) (m : Machine) :
    Machine → Prop
  /-- Nothing happens. -/
  | refl : LaterBy asks makes m m
  /-- A request is served, and gives a value or halts. -/
  | serve {m' : Machine} (fuel : Nat) {r : Request} : LaterBy asks makes m m' → asks r →
      LaterBy asks makes m ((r.serve (Evaluate.perform fuel)).after m')
  /-- The host makes values. -/
  | supply {m' : Machine} {h : Heap} : LaterBy asks makes m m' → m'.heap.Supplies h →
      (∀ c ∈ h.functions, c ∈ m'.heap.functions ∨ makes c) →
      LaterBy asks makes m { m' with heap := h }

/-- The machine after the host has made a function in the current scope. -/
def Machine.withFunction (m : Machine) (f : Function) : Machine :=
  { m with heap := (m.heap.newFunction (.closure f m.scope)).2 }

theorem Machine.later_withFunction (m : Machine) (f : Function) : m.Later (m.withFunction f) :=
  .supply .refl ⟨rfl, ⟨#[], rfl⟩, ⟨#[], rfl⟩, ⟨#[.closure f m.scope], rfl⟩⟩

/-- The machines that a session may come to. -/
def Machine.Reached (m : Machine) : Prop := Machine.initial.Later m

end Scriptlet
