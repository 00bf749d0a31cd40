import Scriptlet.Proofs.Eval.Discipline
import Scriptlet.Proofs.Eval.Restoration

/-!
# Who adds names to a scope

Only declarations add names to a scope, and they do so in the scope that they run
in.  Evaluating an expression or calling a function adds no name to a scope that is
there already, although both may run any number of declarations: these run in the
scopes of calls, which are new.  A statement adds the names at most that it declares
itself, outside of the scopes in it.  All this holds however a task ends.

It is what the discipline of all programs says (`Discipline.free`).
-/

open Scriptlet.Action Scriptlet.Evaluate

namespace Scriptlet

/-- A heap with the frames of another one, each with the names that it had. -/
def Heap.SameNames (h h' : Heap) : Prop :=
  h.frames.size ≤ h'.frames.size ∧
    ∀ frame < h.frames.size, h'.namesIn frame = h.namesIn frame

theorem Heap.Adds.sameNames {own : Nat} {h h' : Heap} (adds : h.Adds own [] h') :
    h.SameNames h' :=
  ⟨adds.size, fun _ inside => adds.namesIn_eq inside⟩

theorem Discipline.holds_free (h : Heap) : Discipline.free.Holds h := fun _ _ _ => trivial

/-- However a task ends, it adds only names that it declares, and those in the scope that it
starts in. -/
theorem perform_adds (fuel : Nat) (t : Task) (m : Machine) :
    m.heap.Adds m.scope.own t.declares ((perform fuel t).after m).heap := by
  have known : Discipline.free.task t := by
    cases t <;> simp [Discipline.task, Discipline.free]
  exact (Discipline.free.performs fuel known (Discipline.holds_free m.heap)).after.adds

theorem Request.adds (fuel : Nat) (r : Request) (m : Machine) :
    m.heap.Adds m.scope.own r.declares ((r.serve (perform fuel)).after m).heap := by
  have known : Discipline.free.request r := by
    cases r <;> simp [Discipline.request, Discipline.free]
  exact (Discipline.free.serves fuel known (Discipline.holds_free m.heap)).after.adds

/-- In a session only the scope that it starts in gets more names. -/
theorem Machine.Later.adds {m m' : Machine} (later : m.Later m') :
    ∃ ns, m.heap.Adds m.scope.own ns m'.heap := by
  induction later with
  | refl => exact ⟨[], .refl _ _ _⟩
  | @serve m' fuel r later ih =>
    obtain ⟨ns, adds⟩ := ih
    have more := r.adds fuel m'
    rw [later.restores.1] at more
    refine ⟨ns ++ r.declares, (adds.mono ?_).trans (more.mono ?_)⟩
    · exact fun n => List.mem_append_left _
    · exact fun n => List.mem_append_right _
  | supply _ supplies ih =>
    obtain ⟨ns, adds⟩ := ih
    exact ⟨ns, adds.trans (.of_frames supplies.frames)⟩

/-- Expressions, calls, and statements with scopes of their own add no name to a scope that
is there already.  Any other statement adds names to the current scope only, and only such
as it declares outside of the scopes in it.  No scope ever loses a name, in one step or in a
session. -/
theorem names_come_from_declarations :
    (∀ (fuel : Nat) (e : Expr) (m : Machine),
      m.heap.SameNames (((perform fuel).evaluate e).after m).heap) ∧
    (∀ (fuel : Nat) (callee : Value) (args : List Value) (span : Span) (m : Machine),
      m.heap.SameNames (((perform fuel).call callee args span).after m).heap) ∧
    (∀ (fuel : Nat) (s : Stmt) (m : Machine), s.isSealed = true →
      m.heap.SameNames (((perform fuel).execute s).after m).heap) ∧
    (∀ (fuel : Nat) (s : Stmt) (m : Machine), ∀ frame < m.heap.frames.size,
      ∃ new, (((perform fuel).execute s).after m).heap.namesIn frame =
          new ++ m.heap.namesIn frame ∧
        ∀ n ∈ new, frame = m.scope.own ∧ n ∈ s.declares) ∧
    ∀ m m' : Machine, m.Later m' → ∀ frame < m.heap.frames.size,
      ∃ new, m'.heap.namesIn frame = new ++ m.heap.namesIn frame ∧
        ∀ n ∈ new, frame = m.scope.own := by
  refine ⟨fun fuel e m => (perform_adds fuel (.evaluate e) m).sameNames,
    fun fuel callee args span m => (perform_adds fuel (.call callee args span) m).sameNames,
    fun fuel s m is_sealed => ?_, fun fuel s m => (perform_adds fuel (.execute s) m).names, ?_⟩
  · have adds := perform_adds fuel (.execute s) m
    rw [Task.declares, Stmt.declares_of_isSealed is_sealed] at adds
    exact adds.sameNames
  · intro m m' later frame inside
    obtain ⟨ns, adds⟩ := later.adds
    obtain ⟨new, grown, allowed⟩ := adds.names frame inside
    exact ⟨new, grown, fun n added => (allowed n added).1⟩

/-- A variable in a block is not added to the scope around the block. -/
theorem names_come_from_declarations_in_block :
    ∃ s : Stmt, s = .block [.declare .let_ "x" none none default] default ∧
      s.isSealed = true ∧ 0 < Machine.initial.heap.frames.size ∧
      (((perform 3).execute s).after Machine.initial).heap.namesIn 0 = ["print"] ∧
      ∃ new, Machine.initial.heap.namesIn 0 = new ++ Machine.initial.heap.namesIn 0 ∧
        ∀ n ∈ new, 0 = Machine.initial.scope.own := by
  obtain ⟨-, -, within_scopes, -, sessions⟩ := names_come_from_declarations
  have there : 0 < Machine.initial.heap.frames.size := by decide
  refine ⟨_, rfl, rfl, there, ?_, sessions _ _ .refl 0 there⟩
  exact (within_scopes 3 _ Machine.initial rfl).2 0 there

end Scriptlet
