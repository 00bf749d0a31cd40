import Scriptlet.Proofs.Eval.Printing

/-!
# Scopes that are there

A scope lists frames by their references, and a reference is as good as the frame behind it.
A machine is *grounded* if every frame of its scope is there, and every frame of a scope that
a function remembers.  No frame is ever removed, so what is grounded stays so.  New scopes are
made inside of the current one and of those that functions remember.

All machines that a session comes to are grounded, between two requests and in the middle of
one, as long as the functions that the host makes remember scopes that are there
(`Machine.VisitedGrounded.grounded`).

Which scopes are there depends on the heap, so evaluation is compared with itself at stages
(`congruence_grounded`).
-/

open Scriptlet.Action Scriptlet.Evaluate

namespace Scriptlet

/-! ## Grounded machines -/

/-- All frames of a scope are among the first ones. -/
def Scope.Below (n : Nat) (s : Scope) : Prop := ∀ frame ∈ s.frames, frame < n

/-- A scope stays below a number of frames when there are more. -/
theorem Scope.Below.mono {n n' : Nat} {s : Scope} (below : s.Below n) (le : n ≤ n') :
    s.Below n' :=
  fun frame inside => Nat.lt_of_lt_of_le (below frame inside) le

theorem Callable.ScopeIn.mono {n n' : Nat} {c : Callable} (below : c.ScopeIn (Scope.Below n))
    (le : n ≤ n') : c.ScopeIn (Scope.Below n') := by
  cases c with
  | closure => exact Scope.Below.mono below le
  | builtin => trivial

/-- All scopes that functions remember are there. -/
def Heap.Grounded (h : Heap) : Prop :=
  ∀ c ∈ h.functions, c.ScopeIn (Scope.Below h.frames.size)

/-- The current scope is there, and so are all scopes that functions remember. -/
structure Machine.Grounded (m : Machine) : Prop where
  scope : m.scope.Below m.heap.frames.size
  heap : m.heap.Grounded

namespace Heap

/-- The function behind a reference was made in frames that there are. -/
theorem Grounded.callable {h : Heap} (grounded : h.Grounded) (ref : Nat) :
    (h.functions.getD ref default).ScopeIn (Scope.Below h.frames.size) := by
  rw [Array.getD_eq_getD_getElem?]
  rcases found : h.functions[ref]? with _ | c
  · trivial
  · exact grounded c (Array.mem_of_getElem? found)

/-- No frame is removed, and new functions remember scopes that are there. -/
structure Extends (h h' : Heap) : Prop where
  size : h.frames.size ≤ h'.frames.size
  functions : ∀ c ∈ h'.functions, c ∈ h.functions ∨ c.ScopeIn (Scope.Below h'.frames.size)

variable {h h' : Heap}

/-- A change inside of frames extends a heap. -/
theorem Extends.of_size (size : h'.frames.size = h.frames.size)
    (functions : h'.functions = h.functions) : h.Extends h' where
  size := Nat.le_of_eq size.symm
  functions _ inside := .inl (functions ▸ inside)

theorem Extends.bind (frame : Nat) (name : String) (b : Binding) :
    h.Extends (h.bind frame name b) :=
  .of_size (Array.size_modify ..) rfl

theorem Extends.rebind (frame : Nat) (name : String) (v : Value) :
    h.Extends (h.rebind frame name v) :=
  .of_size (Array.size_modify ..) rfl

theorem Extends.newClosure (f : Function) {s : Scope} (below : s.Below h.frames.size) :
    h.Extends (h.newFunction (.closure f s)).2 where
  size := Nat.le_refl _
  functions c inside := by
    refine (Array.mem_push.mp inside).imp_right ?_
    rintro rfl
    exact below

theorem size_newEnclosed (h : Heap) (outer : Scope) :
    (h.newEnclosed outer).2.frames.size = h.frames.size + 1 := by
  simp [newEnclosed, newFrame]

/-- A new frame extends a heap. -/
theorem Extends.newEnclosed (outer : Scope) : h.Extends (h.newEnclosed outer).2 where
  size := by rw [size_newEnclosed]; exact Nat.le_succ _
  functions _ := .inl

theorem Extends.setSlot (s : Slot) (v : Value) : h.Extends (h.setSlot s v) :=
  .of_size (congrArg Array.size (frames_setSlot h s v)) (by cases s <;> rfl)

/-- No reference to a frame is lost when the heap grows. -/
theorem Grounded.extends (grounded : h.Grounded) (grows : h.Extends h') : h'.Grounded := by
  intro c inside
  rcases grows.functions c inside with old | new
  · exact (grounded c old).mono grows.size
  · exact new

end Heap

/-- The scope that is made inside of one that is there. -/
theorem Scope.Below.newEnclosed {h : Heap} {outer : Scope} (below : outer.Below h.frames.size) :
    (h.newEnclosed outer).1.Below (h.newEnclosed outer).2.frames.size := by
  rw [Heap.size_newEnclosed]
  intro frame inside
  rcases List.mem_cons.mp inside with rfl | inside
  · exact Nat.lt_succ_self _
  · exact Nat.lt_succ_of_lt (below frame inside)

/-! ## Evaluation -/

/-- A machine in the same scope and at the same depth, with no frame less, on which all scopes
are there. -/
structure Machine.StaysGrounded (m m' : Machine) : Prop where
  scope : m'.scope = m.scope
  depth : m'.depth = m.depth
  size : m.heap.frames.size ≤ m'.heap.frames.size
  grounded : m'.Grounded

theorem Machine.StaysGrounded.trans {m m' m'' : Machine} (first : m.StaysGrounded m')
    (second : m'.StaysGrounded m'') : m.StaysGrounded m'' where
  scope := second.scope.trans first.scope
  depth := second.depth.trans first.depth
  size := Nat.le_trans first.size second.size
  grounded := second.grounded

/-- A machine whose heap grows goes on in its scope. -/
theorem Machine.Grounded.stays {m : Machine} (grounded : m.Grounded) {h : Heap}
    (grows : m.heap.Extends h) (output : Array String) :
    m.StaysGrounded { m with heap := h, output := output } where
  scope := rfl
  depth := rfl
  size := grows.size
  grounded := ⟨grounded.scope.mono grows.size, grounded.heap.extends grows⟩

/-- A machine in a new scope is grounded. -/
theorem Machine.Grounded.opened {m : Machine} (grounded : m.Grounded) {outer : Scope}
    (below : outer.Below m.heap.frames.size) : (m.opened outer).Grounded :=
  ⟨below.newEnclosed, grounded.heap.extends (.newEnclosed outer)⟩

/-- A machine that has come back from a new scope is grounded. -/
theorem Machine.Grounded.back {m m' : Machine} (grounded : m.Grounded) {outer : Scope}
    (stays : (m.opened outer).StaysGrounded m') :
    m.StaysGrounded { m' with scope := m.scope } := by
  have size := Nat.le_trans (Heap.Extends.newEnclosed outer).size stays.size
  exact ⟨rfl, stays.depth, size, grounded.scope.mono size, stays.grounded.heap⟩

/-- On the grounded machines of a stage two actions have the same outcome, and they leave the
machine grounded. -/
def GroundedAlike {α : Type} (w : Stage) (a b : Action α) : Prop :=
  ∀ m : Machine, m.depth = w.depth → w.frames ≤ m.heap.frames.size → m.Grounded →
    a m = b m ∧ m.StaysGrounded (b.after m)

namespace GroundedAlike

variable {α β : Type} {w : Stage}

/-- An action that may extend the heap and change the output is alike itself. -/
theorem of_heap {a : Action α}
    (changed : ∀ m : Machine, m.Grounded → ∃ heap output, m.heap.Extends heap ∧
      a.after m = { m with heap := heap, output := output }) : GroundedAlike w a a := by
  intro m _ _ grounded
  obtain ⟨heap, output, grows, after⟩ := changed m grounded
  rw [after]
  exact ⟨rfl, grounded.stays grows output⟩

theorem bind {a b : Action α} {f g : α → Action β} (first : GroundedAlike w a b)
    (second : ∀ v, GroundedAlike w (f v) (g v)) : GroundedAlike w (a >>= f) (b >>= g) := by
  intro m at_w there grounded
  obtain ⟨same, stays⟩ := first m at_w there grounded
  unfold after at *
  rcases outcome : b m with ⟨v, m'⟩ | ⟨e, m'⟩
  · rw [outcome] at same stays
    rw [bind_of_ok same, bind_of_ok outcome]
    obtain ⟨same', stays'⟩ := second v m' (stays.depth.trans at_w)
      (Nat.le_trans there stays.size) stays.grounded
    exact ⟨same', stays.trans stays'⟩
  · rw [outcome] at same stays
    rw [bind_of_error same, bind_of_error outcome]
    exact ⟨rfl, stays⟩

/-- Acting in a new scope inside of one that is there. -/
theorem enclosed {outer : Scope} {a b : Action α} (below : outer.Below w.frames)
    (related : GroundedAlike w a b) :
    GroundedAlike w (Action.enclosed outer a) (Action.enclosed outer b) := by
  intro m at_w there grounded
  have more := Nat.le_trans there (Heap.Extends.newEnclosed (h := m.heap) outer).size
  obtain ⟨same, stays⟩ :=
    related (m.opened outer) at_w more (grounded.opened (below.mono there))
  rw [enclosed_eq, enclosed_eq, same, after_enclosed]
  exact ⟨rfl, grounded.back stays⟩

/-- Acting one call deeper. -/
theorem nested (span : Span) {a b : Action α}
    (related : w.depth < maxDepth → GroundedAlike w.deeper a b) :
    GroundedAlike w (Action.nested span a) (Action.nested span b) := by
  intro m at_w there grounded
  by_cases full : maxDepth ≤ m.depth
  · rw [nested_of_full full, nested_of_full full, after_nested_of_full full]
    exact ⟨rfl, rfl, rfl, Nat.le_refl _, grounded⟩
  · have room : w.depth < maxDepth := at_w ▸ Nat.lt_of_not_le full
    obtain ⟨same, stays⟩ := related room { m with depth := m.depth + 1 }
      (congrArg Nat.succ at_w) there ⟨grounded.scope, grounded.heap⟩
    rw [nested_of_room full, nested_of_room full, deeper, deeper, same,
      after_nested_of_room full, after_deeper]
    exact ⟨rfl, stays.scope, congrArg Nat.pred stays.depth, stays.size, stays.grounded.scope,
      stays.grounded.heap⟩

end GroundedAlike

/-- Evaluation keeps machines grounded where it enters scopes that are there. -/
theorem congruence_grounded : StagedCongruence Scope.Below GroundedAlike where
  bind first second := first.bind second
  query w f := .of_heap fun m _ => ⟨m.heap, m.output, .of_size rfl rfl, by
    unfold after Action.query
    cases f m.heap m.scope <;> rfl⟩
  scope related m at_w _ grounded :=
    related ⟨m.depth, m.heap.frames.size⟩ at_w m.scope grounded.scope m rfl (Nat.le_refl _) grounded
  callable ref _ _ related m at_w _ grounded :=
    related ⟨m.depth, m.heap.frames.size⟩ at_w _ (grounded.heap.callable ref) m rfl
      (Nat.le_refl _) grounded
  declare w name b span _ := .of_heap fun m _ => by
    unfold after Action.declare
    rcases m.heap.declareFault? m.scope name span with _ | e
    · exact ⟨m.heap.bind m.scope.own name b, m.output, .bind _ _ _, rfl⟩
    · exact ⟨m.heap, m.output, .of_size rfl rfl, rfl⟩
  assign w name v span := .of_heap fun m _ => by
    unfold after Action.assign
    rcases m.heap.assignFrame m.scope name v span with e | frame
    · exact ⟨m.heap, m.output, .of_size rfl rfl, rfl⟩
    · exact ⟨m.heap.rebind frame name v, m.output, .rebind _ _ _, rfl⟩
  newArray w elements := .of_heap fun m _ =>
    ⟨(m.heap.newArray elements).2, m.output, .of_size rfl rfl, rfl⟩
  newObject w ps := .of_heap fun m _ => ⟨(m.heap.newObject ps).2, m.output, .of_size rfl rfl, rfl⟩
  newClosure w f := .of_heap fun m grounded =>
    ⟨(m.heap.newFunction (.closure f m.scope)).2, m.output, .newClosure f grounded.scope, rfl⟩
  writeSlot w container key v span := .of_heap fun m _ => by
    unfold after Action.writeSlot
    rcases m.heap.slot container key span with e | s
    · exact ⟨m.heap, m.output, .of_size rfl rfl, rfl⟩
    · exact ⟨m.heap.setSlot s v, m.output, .setSlot s v, rfl⟩
  emit w line := .of_heap fun m _ => ⟨m.heap, m.output.push line, .of_size rfl rfl, rfl⟩
  enclosed below related := related.enclosed below
  nested := by
    intro _ w span a b related
    exact .nested span related

/-- After a request the machine is in frames that there are. -/
theorem Request.grounded (r : Request) (fuel : Nat) {m : Machine} (grounded : m.Grounded) :
    ((r.serve (perform fuel)).after m).Grounded := by
  have C := congruence_grounded
  have related := C.serve (C.perform fuel) ⟨m.depth, m.heap.frames.size⟩ r
  exact (related m rfl (Nat.le_refl _) grounded).2.grounded

/-- A run that starts on a grounded machine has the same outcome with a detour on a machine that
is not grounded, since it never comes there. -/
theorem perform_detour_of_not_grounded (t₀ : Task) {m₀ : Machine} (dangling : ¬ m₀.Grounded)
    (other : Performer) : ∀ fuel : Nat,
      Performer.RelatedAt Scope.Below GroundedAlike (detour t₀ m₀ other fuel) (perform fuel) := by
  have elsewhere : ∀ {t : Task} {m : Machine}, m.Grounded → ¬ (t = t₀ ∧ m = m₀) := by
    rintro t m grounded ⟨-, rfl⟩
    exact dangling grounded
  intro fuel
  induction fuel with
  | zero =>
    intro t w _ m at_w there grounded
    have rest := congruence_grounded.endless (α := t.Result) w m at_w there grounded
    exact ⟨if_neg (elsewhere grounded), rest.2⟩
  | succ fuel below =>
    intro t w admitted m at_w there grounded
    obtain ⟨same, rest⟩ := congruence_grounded.step below t w admitted m at_w there grounded
    exact ⟨(if_neg (elsewhere grounded)).trans same, rest⟩

/-- Every machine that a run meets is grounded, if the first one is. -/
theorem Request.Meets.grounded {r : Request} {fuel : Nat} {m m' : Machine} {t : Task}
    (meets : r.Meets fuel m t m') (grounded : m.Grounded) : m'.Grounded := by
  obtain ⟨other, changed⟩ := meets
  by_contra dangling
  have never := perform_detour_of_not_grounded t dangling other fuel
  have related := congruence_grounded.serve never ⟨m.depth, m.heap.frames.size⟩ r
  exact changed (related m rfl (Nat.le_refl _) grounded).1

/-! ## Sessions -/

/-- The machines that a session comes to between two requests.  The host also declares and
assigns names in the root scope, and makes values.  Functions that it makes remember scopes
that are there. -/
inductive Machine.ReachedGrounded : Machine → Prop
  /-- Nothing has happened. -/
  | initial : ReachedGrounded Machine.initial
  /-- A request is served, and gives a value or halts. -/
  | serve {m : Machine} (fuel : Nat) (r : Request) : ReachedGrounded m →
      ReachedGrounded ((r.serve (perform fuel)).after m)
  /-- The host declares a name, or fails to. -/
  | declare {m : Machine} (name : String) (b : Binding) (span : Span) : ReachedGrounded m →
      ReachedGrounded ((within Machine.globals (Action.declare name b span)).after m)
  /-- The host gives a name another value, or fails to. -/
  | assign {m : Machine} (name : String) (v : Value) (span : Span) : ReachedGrounded m →
      ReachedGrounded ((within Machine.globals (Action.assign name v span)).after m)
  /-- The host makes values. -/
  | supply {m : Machine} {h : Heap} : ReachedGrounded m → m.heap.Supplies h → h.Grounded →
      ReachedGrounded { m with heap := h }

/-- The machines that such a session comes to, between two requests or in the middle of one. -/
inductive Machine.VisitedGrounded : Machine → Prop
  /-- Between two requests. -/
  | reached {m : Machine} : m.ReachedGrounded → VisitedGrounded m
  /-- In the middle of a request, where a task starts. -/
  | met {m m' : Machine} {r : Request} {fuel : Nat} {t : Task} :
    m.ReachedGrounded → r.Meets fuel m t m' → VisitedGrounded m'

namespace Machine

variable {m : Machine}

/-- The first machine has the outermost frame alone. -/
theorem grounded_initial : Machine.initial.Grounded where
  scope frame inside := by
    obtain rfl : frame = 0 := List.mem_singleton.mp inside
    exact Nat.zero_lt_one
  heap c inside := by
    obtain rfl : c = .builtin .print := Array.mem_singleton.mp inside
    trivial

/-- Every machine of a session is in frames that there are. -/
theorem ReachedGrounded.grounded (reached : m.ReachedGrounded) : m.Grounded := by
  induction reached with
  | initial => exact grounded_initial
  | serve fuel r _ ih => exact r.grounded fuel ih
  | @declare m name b span _ ih =>
    rcases declare_within_globals name b span m with failed | ⟨-, changed⟩
    · rwa [failed]
    · rw [changed]
      exact (ih.stays (.bind _ _ _) m.output).grounded
  | @assign m name v span _ ih =>
    rcases assign_within_globals name v span m with failed | ⟨frame, -, changed⟩
    · rwa [failed]
    · rw [changed]
      exact (ih.stays (.rebind _ _ _) m.output).grounded
  | supply _ supplies grounded ih =>
    refine ⟨?_, grounded⟩
    rw [supplies.frames]
    exact ih.scope

theorem VisitedGrounded.grounded (visited : m.VisitedGrounded) : m.Grounded := by
  rcases visited with reached | ⟨reached, meets⟩
  · exact reached.grounded
  · exact meets.grounded reached.grounded

end Machine

end Scriptlet
