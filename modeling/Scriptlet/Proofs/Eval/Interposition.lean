import Scriptlet.Proofs.Eval.Grounding
import Scriptlet.Proofs.Eval.Isolation

/-!
# Frames that bind nothing

A frame that binds nothing does not matter to the scopes that it lies in: a name resolves past
it.  Two heaps are compared that differ in such frames only.  Each frame of the first heap has
a number on the second one, and the frames that have none there bind nothing.  A scope of the
second heap is a scope of the first one with such frames *interposed*.

Arrays, objects and functions lie at the same places, so the two heaps refer to them by the
same values.
-/

open Scriptlet.Action Scriptlet.Evaluate

namespace Scriptlet

/-! ## Scopes -/

/-- Some frames by their numbers, with frames put in between that have none. -/
inductive Interposed (φ : Nat → Nat) : List Nat → List Nat → Prop
  | nil : Interposed φ [] []
  | cons (i : Nat) {is js : List Nat} : Interposed φ is js → Interposed φ (i :: is) (φ i :: js)
  | skip {j : Nat} {is js : List Nat} :
    (∀ i, φ i ≠ j) → Interposed φ is js → Interposed φ is (j :: js)

theorem Interposed.refl : ∀ is : List Nat, Interposed id is is
  | [] => .nil
  | i :: is => .cons i (refl is)

/-- Scopes that differ in frames put in between. -/
def Scope.Interposed (φ : Nat → Nat) (s s' : Scope) : Prop :=
  Scriptlet.Interposed φ s.frames s'.frames

/-- Scopes that differ so and have the same frame of their own. -/
def Scope.Aligned (φ : Nat → Nat) (s s' : Scope) : Prop :=
  s'.own = φ s.own ∧ Scriptlet.Interposed φ s.outer s'.outer

theorem Scope.Aligned.interposed {φ : Nat → Nat} {s s' : Scope} (h : s.Aligned φ s') :
    s.Interposed φ s' := by
  obtain ⟨own, outer⟩ := s'
  obtain ⟨same, rest⟩ := h
  obtain rfl : own = φ s.own := same
  exact .cons s.own rest

theorem Scope.Aligned.refl (s : Scope) : s.Aligned id s := ⟨rfl, .refl s.outer⟩

/-! ## Heaps -/

/-- Two heaps that differ in frames that bind nothing and are put in between in scopes. -/
structure Heap.Interposed (φ : Nat → Nat) (h h' : Heap) : Prop where
  /-- No two frames have the same number. -/
  injective : φ.Injective
  /-- The root scope is the same. -/
  root : φ 0 = 0
  /-- Frames that are made next are numbered next. -/
  fresh : ∀ k, φ (h.frames.size + k) = h'.frames.size + k
  /-- A frame binds what it binds on the other heap. -/
  bindings : ∀ i, h'.bindings (φ i) = h.bindings i
  /-- A frame that is put in between binds nothing. -/
  empty : ∀ j, (∀ i, φ i ≠ j) → h'.bindings j = []
  arrays : h'.arrays = h.arrays
  objects : h'.objects = h.objects
  size : h'.functions.size = h.functions.size
  /-- Functions are the same but for the scopes that they remember. -/
  functions : ∀ ref, (h.callable ref).Related Eq (Scope.Interposed φ) (h'.callable ref)

namespace Heap.Interposed

variable {φ : Nat → Nat} {h h' : Heap} (interposed : h.Interposed φ h')

theorem refl (h : Heap) : h.Interposed id h where
  injective := Function.injective_id
  root := rfl
  fresh _ := rfl
  bindings _ := rfl
  empty j none_ := absurd rfl (none_ j)
  arrays := rfl
  objects := rfl
  size := rfl
  functions ref := by
    cases h.callable ref with
    | closure f s => exact .closure rfl (.refl s.frames)
    | builtin b => exact .builtin b

include interposed

/-- The frames that are there are numbered among those that are there. -/
theorem lt_iff (i : Nat) : φ i < h'.frames.size ↔ i < h.frames.size := by
  constructor
  · intro inside
    by_contra outside
    have next := interposed.fresh (i - h.frames.size)
    rw [Nat.add_sub_cancel' (Nat.le_of_not_lt outside)] at next
    omega
  · intro inside
    by_contra outside
    have next := interposed.fresh (φ i - h'.frames.size)
    rw [Nat.add_sub_cancel' (Nat.le_of_not_lt outside)] at next
    have same := interposed.injective next
    omega

/-- A frame that is put in between is there. -/
theorem lt_of_skipped {j : Nat} (none_ : ∀ i, φ i ≠ j) : j < h'.frames.size := by
  by_contra outside
  have next := interposed.fresh (j - h'.frames.size)
  rw [Nat.add_sub_cancel' (Nat.le_of_not_lt outside)] at next
  exact none_ _ next

/-- Values are read alike in front of frames that were put in between. -/
theorem readable : h.Readable Eq h' where
  arrays := by
    intro i j same
    cases same
    rw [elements, elements, interposed.arrays]
    exact List.forall₂_same.mpr fun v _ => .refl v
  objects := by
    intro i j same
    cases same
    rw [properties, properties, interposed.objects]
    exact List.forall₂_same.mpr fun p _ => ⟨rfl, .refl p.2⟩
  names := by
    intro i j same
    cases same
    exact (interposed.functions i).name_eq (congrArg Function.name)

/-! ### Names -/

/-- A frame has the bindings of its image. -/
theorem bindingIn?_eq (i : Nat) (name : String) :
    h'.bindingIn? (φ i) name = h.bindingIn? i name := by
  rw [bindingIn?, bindingIn?, interposed.bindings]

theorem bound (i : Nat) (name : String) :
    Option.Rel (Binding.Alike Eq) (h.bindingIn? i name) (h'.bindingIn? (φ i) name) := by
  rw [interposed.bindingIn?_eq]
  exact rel_self fun b _ => ⟨.refl b.value, rfl, rfl⟩

/-- A name resolves past the frames that are put in between. -/
theorem resolve {s s' : Scope} (scopes : s.Interposed φ s') (name : String) :
    Option.Rel (FoundAlike (fun i j => j = φ i) Eq) (h.resolve s name) (h'.resolve s' name) := by
  unfold Heap.resolve
  unfold Scope.Interposed at scopes
  generalize s.frames = is at scopes ⊢
  generalize s'.frames = js at scopes ⊢
  induction scopes with
  | nil => exact .none
  | cons i _ ih =>
    rw [resolveIn, resolveIn, interposed.bindingIn?_eq]
    cases h.bindingIn? i name with
    | none => exact ih
    | some b => exact .some ⟨rfl, .refl b.value, rfl, rfl⟩
  | @skip j is js none_ _ ih =>
    have unbound : h'.bindingIn? j name = none := by
      rw [bindingIn?, interposed.empty j none_]
      rfl
    rw [resolveIn, unbound]
    exact ih

/-! ### Changes -/

/-- Changes that do not touch frames and functions and are the same elsewhere. -/
theorem congr {h₁ h₁' : Heap} (frames : h₁.frames = h.frames) (frames' : h₁'.frames = h'.frames)
    (functions : h₁.functions = h.functions) (functions' : h₁'.functions = h'.functions)
    (arrays : h₁'.arrays = h₁.arrays) (objects : h₁'.objects = h₁.objects) :
    h₁.Interposed φ h₁' where
  injective := interposed.injective
  root := interposed.root
  fresh k := by rw [frames, frames', interposed.fresh]
  bindings i := by
    rw [Heap.bindings, Heap.bindings, frames, frames']
    exact interposed.bindings i
  empty j none_ := by
    rw [Heap.bindings, frames']
    exact interposed.empty j none_
  arrays := arrays
  objects := objects
  size := by rw [functions, functions', interposed.size]
  functions ref := by
    rw [callable, callable, functions, functions']
    exact interposed.functions ref

theorem newArray (elements : Array Value) :
    (h.newArray elements).2.Interposed φ (h'.newArray elements).2 :=
  interposed.congr rfl rfl rfl rfl (congrArg (·.push elements) interposed.arrays)
    interposed.objects

theorem newObject (ps : Properties) :
    (h.newObject ps).2.Interposed φ (h'.newObject ps).2 :=
  interposed.congr rfl rfl rfl rfl interposed.arrays
    (congrArg (·.push ps) interposed.objects)

theorem setSlot (s : Slot) (v : Value) : (h.setSlot s v).Interposed φ (h'.setSlot s v) := by
  cases s with
  | element ref index =>
    exact interposed.congr rfl rfl rfl rfl
      (congrArg (fun a => a.modify ref fun vs => setElement vs index v) interposed.arrays)
      interposed.objects
  | property ref key =>
    exact interposed.congr rfl rfl rfl rfl interposed.arrays
      (congrArg (fun a => a.modify ref fun ps => ps.insert key v) interposed.objects)

/-- A function may be made in scopes that are related. -/
theorem newFunction {c c' : Callable} (related : c.Related Eq (Scope.Interposed φ) c') :
    (h.newFunction c).2.Interposed φ (h'.newFunction c').2 where
  injective := interposed.injective
  root := interposed.root
  fresh := interposed.fresh
  bindings := interposed.bindings
  empty := interposed.empty
  arrays := interposed.arrays
  objects := interposed.objects
  size := by simp [Heap.newFunction, interposed.size]
  functions ref := by
    have before := interposed.functions ref
    simp only [callable, Heap.newFunction, Array.getD_eq_getD_getElem?, Array.getElem?_push,
      interposed.size] at before ⊢
    split
    next => exact related
    next => exact before

/-- A frame and the one that it is on the other heap are changed in the same way. -/
theorem modify (i : Nat) (g : Frame → Frame) :
    Heap.Interposed φ { h with frames := h.frames.modify i g }
      { h' with frames := h'.frames.modify (φ i) g } where
  injective := interposed.injective
  root := interposed.root
  fresh k := by simp only [Array.size_modify, interposed.fresh]
  bindings j := by
    rw [bindings_modify, bindings_modify, interposed.bindings]
    simp only [interposed.injective.eq_iff, interposed.lt_iff]
  empty j none_ := by
    rw [bindings_modify, if_neg fun both => none_ i both.1.symm]
    exact interposed.empty j none_
  arrays := interposed.arrays
  objects := interposed.objects
  size := interposed.size
  functions := interposed.functions

/-- New scopes have the same frame of their own. -/
theorem newEnclosed (outer outer' : Scope) :
    (h.newEnclosed outer).2.Interposed φ (h'.newEnclosed outer').2 where
  injective := interposed.injective
  root := interposed.root
  fresh k := by
    rw [size_newEnclosed, size_newEnclosed, Nat.add_assoc, Nat.add_assoc]
    exact interposed.fresh (1 + k)
  bindings i := by
    have first : φ h.frames.size = h'.frames.size := interposed.fresh 0
    change (h'.newFrame []).2.bindings (φ i) = (h.newFrame []).2.bindings i
    rw [bindings_newFrame, bindings_newFrame, interposed.bindings, ← first]
    simp only [interposed.injective.eq_iff]
  empty j none_ := by
    change (h'.newFrame []).2.bindings j = []
    rw [bindings_newFrame, interposed.empty j none_, ite_self]
  arrays := interposed.arrays
  objects := interposed.objects
  size := interposed.size
  functions := interposed.functions

end Heap.Interposed

/-- The scope that is made inside of one scope has the frame of its own that the other has. -/
theorem Scope.Interposed.newEnclosed {φ : Nat → Nat} {h h' : Heap}
    (interposed : h.Interposed φ h') {outer outer' : Scope} (scopes : outer.Interposed φ outer') :
    (h.newEnclosed outer).1.Aligned φ (h'.newEnclosed outer').1 :=
  ⟨(interposed.fresh 0).symm, scopes⟩

/-! ## One more frame -/

/-- The first frames keep their numbers, and all others have numbers from some number on. -/
structure GoesOn (φ φ' : Nat → Nat) (n n' : Nat) : Prop where
  below : ∀ i < n, φ' i = φ i
  beyond : ∀ i, n ≤ i → n' ≤ φ' i

namespace GoesOn

variable {φ φ' φ'' : Nat → Nat} {h h' : Heap}

/-- A scope whose frames are there stays as it is. -/
theorem interposed (onward : GoesOn φ φ' h.frames.size h'.frames.size)
    (heaps : h.Interposed φ h') {is js : List Nat} (frames : Interposed φ is js)
    (there : ∀ i ∈ is, i < h.frames.size) : Interposed φ' is js := by
  induction frames with
  | nil => exact .nil
  | cons i _ ih =>
    rw [← onward.below i (there i (.head _))]
    exact .cons i (ih fun k inside => there k (.tail _ inside))
  | @skip j _ _ none_ _ ih =>
    refine .skip (fun i => ?_) (ih there)
    by_cases inside : i < h.frames.size
    · rw [onward.below i inside]
      exact none_ i
    · have beyond := onward.beyond i (Nat.le_of_not_lt inside)
      have within := heaps.lt_of_skipped none_
      omega

/-- Two changes go on from each other. -/
theorem trans {h₁ h₁' : Heap} (first : GoesOn φ φ' h.frames.size h'.frames.size)
    (second : GoesOn φ' φ'' h₁.frames.size h₁'.frames.size) (heaps : h₁.Interposed φ' h₁')
    (more : h.frames.size ≤ h₁.frames.size) :
    GoesOn φ φ'' h.frames.size h'.frames.size where
  below i inside := by
    rw [second.below i (Nat.lt_of_lt_of_le inside more), first.below i inside]
  beyond i outside := by
    by_cases inside : i < h₁.frames.size
    · rw [second.below i inside]
      exact first.beyond i outside
    · have next := first.beyond _ more
      have numbered : φ' h₁.frames.size = h₁'.frames.size := heaps.fresh 0
      rw [numbered] at next
      exact Nat.le_trans next (second.beyond i (Nat.le_of_not_lt inside))

end GoesOn

/-- Numbers that leave one number out for a frame that is put in between. -/
def leaveOut (φ : Nat → Nat) (n : Nat) : Nat → Nat := fun i => if i < n then φ i else φ i + 1

namespace Heap.Interposed

variable {φ : Nat → Nat} {h h' : Heap} (interposed : h.Interposed φ h')

include interposed

/-- The frame that was put in between has no image. -/
theorem goesOn_leaveOut :
    GoesOn φ (leaveOut φ h.frames.size) h.frames.size h'.frames.size where
  below i inside := if_pos inside
  beyond i outside := by
    have numbered := mt (interposed.lt_iff i).mp (Nat.not_lt.mpr outside)
    rw [leaveOut, if_neg (Nat.not_lt.mpr outside)]
    omega

/-- The number that is left out is that of the next frame of the second heap. -/
theorem ne_leaveOut (i : Nat) : leaveOut φ h.frames.size i ≠ h'.frames.size := by
  have numbered := interposed.lt_iff i
  unfold leaveOut
  split <;> omega

/-- A new scope on the second heap only, which no name is declared in. -/
theorem interpose (some_ : 0 < h.frames.size) (grounded : h.Grounded) (outer : Scope) :
    h.Interposed (leaveOut φ h.frames.size) (h'.newEnclosed outer).2 where
  injective i j same := by
    have left := interposed.lt_iff i
    have right := interposed.lt_iff j
    apply interposed.injective
    unfold leaveOut at same
    split at same <;> split at same <;> omega
  root := by rw [leaveOut, if_pos some_, interposed.root]
  fresh k := by
    rw [leaveOut, if_neg (by omega), interposed.fresh, size_newEnclosed]
    omega
  bindings i := by
    change (h'.newFrame []).2.bindings _ = _
    rw [bindings_newFrame, if_neg (interposed.ne_leaveOut i)]
    unfold leaveOut
    split
    next => exact interposed.bindings i
    next outside =>
      have numbered := mt (interposed.lt_iff i).mp outside
      simp only [Heap.bindings, Array.getD_eq_getD_getElem?]
      rw [Array.getElem?_eq_none (by omega), Array.getElem?_eq_none (by omega)]
  empty j none_ := by
    change (h'.newFrame []).2.bindings j = []
    rw [bindings_newFrame]
    split
    next => rfl
    next other =>
      by_cases numbered : ∃ i, φ i = j
      · -- A frame with a number keeps it, or else it is not there.
        obtain ⟨i, rfl⟩ := numbered
        have outside : ¬ i < h.frames.size := fun inside => none_ i (if_pos inside)
        have numbered := mt (interposed.lt_iff i).mp outside
        simp only [Heap.bindings, Array.getD_eq_getD_getElem?]
        rw [Array.getElem?_eq_none (by omega)]
        rfl
      · exact interposed.empty j fun i same => numbered ⟨i, same⟩
  arrays := interposed.arrays
  objects := interposed.objects
  size := interposed.size
  functions ref := by
    have below : (h.callable ref).ScopeIn (Scope.Below h.frames.size) := grounded.callable ref
    have related := interposed.functions ref
    change (h.callable ref).Related Eq _ (h'.callable ref)
    generalize h.callable ref = c at below related ⊢
    generalize h'.callable ref = c' at related ⊢
    cases related with
    | builtin b => exact .builtin b
    | closure same scopes =>
      exact .closure same (interposed.goesOn_leaveOut.interposed interposed scopes below)

end Heap.Interposed

/-! ## Machines -/

/-- Two machines that differ in such frames only, in scopes that are related in a given way. -/
structure Machine.Interposed (φ : Nat → Nat) (S : Scope → Scope → Prop) (m m' : Machine) :
    Prop where
  heap : m.heap.Interposed φ m'.heap
  scope : S m.scope m'.scope
  depth : m.depth = m'.depth
  output : m.output = m'.output

section

variable (φ : Nat → Nat)

/-- The steps of an expression keep machines that differ in such frames only.  A scope that is
made has the same frame of its own on both. -/
theorem evaluators_interposed {S : Scope → Scope → Prop}
    (within : ∀ {s s' : Scope}, S s s' → s.Interposed φ s') :
    Evaluators equality Eq (Scope.Interposed φ) (Machine.Interposed φ (Scope.Aligned φ))
      (Machine.Interposed φ S) where
  callable {i j} same := by
    cases same
    exact acts_query fun m m' related => .ok (related.heap.functions i)
  emitValue value := by
    refine .bind (acts_query (Q := Eq) fun m m' related => ?_) fun {text _} same => ?_
    · rw [Heap.display_eq related.heap.readable value]
      cases m'.heap.display _ with
      | none => exact .endless
      | some text => exact .ok rfl
    · subst same
      exact fun m m' related => .ok trivial
        ⟨related.heap, related.scope, related.depth, congrArg (·.push text) related.output⟩
  enclosed := by
    intro α β Q s s' a b scopes acts
    have make : Acts equality (Machine.Interposed φ S) (Scope.Aligned φ) (newEnclosed s)
        (newEnclosed s') :=
      fun m m' related => .ok (scopes.newEnclosed related.heap)
        ⟨related.heap.newEnclosed s s', related.scope, related.depth, related.output⟩
    refine .bind make fun inner => .within ?_ ?_ acts
    · exact fun related => ⟨related.heap, inner, related.depth, related.output⟩
    · exact fun outside related => ⟨related.heap, outside.scope, related.depth, related.output⟩
  nested spans acts :=
    .nested spans (fun related => related.depth)
      (fun g related => ⟨related.heap, related.scope, congrArg g related.depth, related.output⟩)
      acts
  lookup name spans := acts_query fun m m' related =>
    Heap.lookup_checked spans (related.heap.resolve (within related.scope) name)
  assign := by
    intro v v' s s' name values spans
    rw [assign_eq_guarded, assign_eq_guarded]
    refine acts_guarded (fun m m' related => Heap.assignFrame_checked spans
      (related.heap.resolve (within related.scope) name) values) ?_
    intro m m' related i j _ _ numbered
    obtain rfl : j = φ i := numbered
    obtain rfl := values.eq
    exact ⟨related.heap.modify i _, related.scope, related.depth, related.output⟩
  newArray {vs vs'} values m m' related := by
    obtain rfl := forall₂_eq Value.Alike.eq values
    have same : m.heap.arrays.size = m'.heap.arrays.size :=
      congrArg Array.size related.heap.arrays.symm
    exact .ok (.array (congrArg _ same))
      ⟨related.heap.newArray _, related.scope, related.depth, related.output⟩
  newObject {ps ps'} values m m' related := by
    obtain rfl := forall₂_eq Property.Alike.eq values
    have same : m.heap.objects.size = m'.heap.objects.size :=
      congrArg Array.size related.heap.objects.symm
    exact .ok (.object (congrArg _ same))
      ⟨related.heap.newObject _, related.scope, related.depth, related.output⟩
  newClosure {f f'} functions m m' related :=
    .ok (.function (congrArg _ related.heap.size.symm))
      ⟨related.heap.newFunction (.closure functions (within related.scope)), related.scope,
        related.depth, related.output⟩
  readSlot containers keys := acts_query fun m m' related =>
    .ofOption (Heap.readSlot_alike related.heap.readable containers keys)
  writeSlot := by
    intro c c' k k' v v' s s' containers keys values spans
    rw [writeSlot_eq_guarded, writeSlot_eq_guarded]
    refine acts_guarded (fun m m' related =>
      Heap.slot_checked related.heap.readable containers keys spans Pairing.oneToOne_eq) ?_
    intro m m' related _ _ _ _ slots
    obtain rfl := slots.eq
    obtain rfl := values.eq
    exact ⟨related.heap.setSlot _ _, related.scope, related.depth, related.output⟩
  applyBinary op left right spans := acts_query fun m m' related =>
    Heap.applyBinary_checked Pairing.oneToOne_eq related.heap.readable op left right spans
  scope := acts_query fun m m' related => .ok (within related.scope)

/-- All steps of the machine keep such machines, in scopes with the same frame of their own. -/
theorem simulation_interposed :
    Simulation equality Eq (Scope.Interposed φ) (Machine.Interposed φ (Scope.Aligned φ)) :=
  { evaluators_interposed φ Scope.Aligned.interposed with
    lookupPrint := fun spans => acts_query fun m m' related => by
      have globals : Scope.Interposed φ Machine.globals Machine.globals := by
        have root : Interposed φ [0] [φ 0] := .cons 0 .nil
        rwa [related.heap.root] at root
      exact Heap.lookup_checked spans (related.heap.resolve globals _)
    declare := by
      intro b b' s s' name bindings spans
      rw [declare_eq_guarded, declare_eq_guarded]
      obtain rfl := bindings.eq
      refine acts_guarded (P := fun _ _ => True) (fun m m' related => ?_)
        fun m m' related _ _ _ _ _ => ?_
      · have bound := related.heap.bound m.scope.own name
        rw [← related.scope.1] at bound
        exact Heap.declareFault?_checked spans bound
      · have changed := related.heap.modify m.scope.own fun f => (name, b) :: f
        rw [← related.scope.1] at changed
        exact ⟨changed, related.scope, related.depth, related.output⟩ }

end

end Scriptlet
