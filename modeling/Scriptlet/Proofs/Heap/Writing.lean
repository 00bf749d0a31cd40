import Scriptlet.Proofs.Heap.Evolution
import Scriptlet.Proofs.Heap.Reading

/-!
# Writing to heaps that are alike

Every change of a heap puts something into one cell, which is a cell of the heap
or the next one of its sort (`Heap.Puts`).  All other cells stay as they are.  If
two heaps are alike, the cells stand for each other and what is put into them is
alike, then the heaps are alike afterwards (`Heap.Alike.put`).
-/

namespace Scriptlet

namespace Heap

variable {h h' h₁ h₁' : Heap}

/-! ## Putting something into a cell -/

/-- The second heap is the first one with something else in a cell, or in a new one. -/
structure Puts (h : Heap) (c : Cell) (x : Contents) (h₁ : Heap) : Prop where
  place : c.ref ≤ h.size c.sort
  size : ∀ s, h₁.size s = if s = c.sort then max (h.size s) (c.ref + 1) else h.size s
  contents : ∀ e, h₁.contents e = if e = c then x else h.contents e

namespace Puts

variable {c d : Cell} {x y : Contents}

theorem has (puts : h.Puts c x h₁) (e : Cell) : h₁.Has e ↔ h.Has e ∨ e = c := by
  obtain ⟨s, i⟩ := e
  obtain ⟨t, j⟩ := c
  have place : j ≤ h.size t := puts.place
  simp only [Has, puts.size, Cell.mk.injEq]
  split
  next same =>
    obtain rfl : s = t := same
    simp only [true_and]
    omega
  next other =>
    have unlike : s ≠ t := other
    simp [unlike]

/-- A cell of the heap that nothing is put into stays as it is. -/
theorem sameAt (puts : h.Puts c x h₁) {e : Cell} (other : e ≠ c) : h.SameAt h₁ e :=
  ⟨by simp [puts.has, other], by rw [puts.contents, if_neg other]⟩

end Puts

/-- Putting what is alike into cells that stand for each other keeps heaps alike. -/
theorem Alike.put {F : Function → Function → Prop} {ρ : Pairing} (one : ρ.OneToOne)
    (alike : h.Alike F ρ h') {c d : Cell} (related : ρ c d) {x y : Contents}
    (contents : x.Alike F ρ y) (left : h.Puts c x h₁) (right : h'.Puts d y h₁') :
    h₁.Alike F ρ h₁' where
  has {c' d'} related' := by
    rw [left.has, right.has, alike.has related']
    refine or_congr_right ⟨?_, ?_⟩
    · rintro rfl
      exact one.right related' related
    · rintro rfl
      exact one.left related' related
  contents {c' d'} related' := by
    rw [left.contents, right.contents]
    by_cases same : c' = c
    · subst same
      rw [if_pos rfl, if_pos (one.right related' related)]
      exact contents
    · have other : d' ≠ d := by
        rintro rfl
        exact same (one.left related' related)
      rw [if_neg same, if_neg other]
      exact alike.contents related'
  fresh s k := by
    have sorts : d.sort = c.sort := (alike.sort_eq related).symm
    have both : c.ref < h.size c.sort ↔ d.ref < h'.size d.sort := alike.has related
    rw [sorts] at both
    have place := left.place
    have place' : d.ref ≤ h'.size c.sort := sorts ▸ right.place
    rw [left.size, right.size, sorts]
    split
    next same =>
      subst same
      by_cases inside : c.ref < h.size c.sort
      · have inside' := both.mp inside
        rw [Nat.max_eq_left inside, Nat.max_eq_left inside']
        exact alike.fresh c.sort k
      · -- Both cells are new, and the ones after them are made next.
        have outside' := mt both.mpr inside
        have new : max (h.size c.sort) (c.ref + 1) + k = h.size c.sort + (k + 1) := by omega
        have new' : max (h'.size c.sort) (d.ref + 1) + k = h'.size c.sort + (k + 1) := by omega
        rw [new, new']
        exact alike.fresh c.sort (k + 1)
    next => exact alike.fresh s k

/-! ## New cells -/

/-- What is found after an element is added. -/
theorem getD_push {α : Type} (as : Array α) (a : α) (i : Nat) (missing : α) :
    (as.push a).getD i missing = if i = as.size then a else as.getD i missing := by
  simp only [Array.getD_eq_getD_getElem?, Array.getElem?_push]
  split <;> rfl

theorem puts_newArray (h : Heap) (vs : List Value) :
    h.Puts ⟨.array, h.arrays.size⟩ (.array vs) (h.newArray vs.toArray).2 where
  place := Nat.le_refl _
  size s := by cases s <;> simp [size, newArray]
  contents := by
    rintro ⟨s, i⟩
    cases s with
    | array =>
      simp only [Heap.contents, elements, newArray, getD_push, Cell.mk.injEq, true_and]
      split <;> rfl
    | frame | object | function => rfl

theorem puts_newObject (h : Heap) (ps : Properties) :
    h.Puts ⟨.object, h.objects.size⟩ (.object ps) (h.newObject ps).2 where
  place := Nat.le_refl _
  size s := by cases s <;> simp [size, newObject]
  contents := by
    rintro ⟨s, i⟩
    cases s with
    | object =>
      simp only [Heap.contents, properties, newObject, getD_push, Cell.mk.injEq, true_and]
      split <;> rfl
    | frame | array | function => rfl

theorem puts_newFunction (h : Heap) (c : Callable) :
    h.Puts ⟨.function, h.functions.size⟩ (.function c) (h.newFunction c).2 where
  place := Nat.le_refl _
  size s := by cases s <;> simp [size, newFunction]
  contents := by
    rintro ⟨s, i⟩
    cases s with
    | function =>
      simp only [Heap.contents, callable, newFunction, getD_push, Cell.mk.injEq, true_and]
      split <;> rfl
    | frame | array | object => rfl

theorem puts_newEnclosed (h : Heap) (outer : Scope) :
    h.Puts ⟨.frame, h.frames.size⟩ (.frame fun _ => none) (h.newEnclosed outer).2 where
  place := Nat.le_refl _
  size s := by cases s <;> simp [size, newEnclosed, newFrame]
  contents := by
    rintro ⟨s, i⟩
    cases s with
    | frame =>
      have new : (h.newEnclosed outer).2.bindings i =
          if i = h.frames.size then [] else h.bindings i := bindings_newFrame h [] i
      have found : (h.newEnclosed outer).2.bindingIn? i = fun name =>
          (if i = h.frames.size then [] else h.bindings i).lookup name := by
        funext name
        rw [bindingIn?, new]
      simp only [Heap.contents, found, Cell.mk.injEq, true_and]
      split <;> rfl
    | array | object | function => rfl

/-! ## Changed cells -/

/-- What is found after an element is modified. -/
theorem getD_modify {α : Type} (as : Array α) (f : α → α) (i j : Nat) (missing : α)
    (inside : i < as.size) :
    (as.modify i f).getD j missing =
      if j = i then f (as.getD i missing) else as.getD j missing := by
  simp only [Array.getD_eq_getD_getElem?, Array.getElem?_modify]
  by_cases same : i = j
  · subst same
    simp [inside]
  · simp [same, Ne.symm same]

/-- Nothing is modified where there is nothing. -/
theorem modify_of_size_le {α : Type} (as : Array α) (f : α → α) {i : Nat}
    (outside : ¬ i < as.size) : as.modify i f = as := by
  apply Array.ext_getElem?
  intro j
  rw [Array.getElem?_modify]
  split
  next same =>
    subst same
    simp [outside]
  next => rfl

/-- A frame with one more binding. -/
theorem puts_bind {frame : Nat} (inside : h.Has ⟨.frame, frame⟩) (name : String) (b : Binding) :
    h.Puts ⟨.frame, frame⟩
      (.frame fun n => if n = name then some b else h.bindingIn? frame n)
      (h.bind frame name b) where
  place := Nat.le_of_lt inside
  size s := by
    have in_frames : frame < h.frames.size := inside
    cases s with
    | frame => simp [size, bind]; omega
    | array | object | function => rfl
  contents := by
    have in_frames : frame < h.frames.size := inside
    rintro ⟨s, i⟩
    cases s with
    | frame =>
      have found : (h.bind frame name b).bindingIn? i = fun n =>
          if (i = frame ∧ frame < h.frames.size) ∧ n = name then some b
          else h.bindingIn? i n :=
        funext fun n => bindingIn?_bind h frame i name n b
      simp only [Heap.contents, found, Cell.mk.injEq, true_and]
      by_cases same : i = frame
      · subst same
        simp [in_frames]
      · simp [same]
    | array | object | function => rfl

/-- A frame with another value for a name. -/
theorem puts_rebind {frame : Nat} (inside : h.Has ⟨.frame, frame⟩) (name : String) (v : Value) :
    h.Puts ⟨.frame, frame⟩
      (.frame fun n =>
        if n = name then (h.bindingIn? frame n).map fun b => { b with value := v }
        else h.bindingIn? frame n)
      (h.rebind frame name v) where
  place := Nat.le_of_lt inside
  size s := by
    have in_frames : frame < h.frames.size := inside
    cases s with
    | frame => simp [size, rebind]; omega
    | array | object | function => rfl
  contents := by
    rintro ⟨s, i⟩
    cases s with
    | frame =>
      have found : (h.rebind frame name v).bindingIn? i = fun n =>
          if i = frame ∧ n = name then (h.bindingIn? i n).map fun b => { b with value := v }
          else h.bindingIn? i n :=
        funext fun n => bindingIn?_rebind h frame i name n v
      simp only [Heap.contents, found, Cell.mk.injEq, true_and]
      by_cases same : i = frame
      · subst same
        simp
      · simp [same]
    | array | object | function => rfl

/-- An array with another element. -/
theorem puts_element {ref : Nat} (inside : h.Has ⟨.array, ref⟩) (index : Nat) (v : Value) :
    h.Puts ⟨.array, ref⟩ (.array (setElement (h.elements ref) index v).toList)
      (h.setSlot (.element ref index) v) where
  place := Nat.le_of_lt inside
  size s := by
    have in_arrays : ref < h.arrays.size := inside
    cases s with
    | array => simp [size, setSlot]; omega
    | frame | object | function => rfl
  contents := by
    rintro ⟨s, i⟩
    cases s with
    | array =>
      simp only [Heap.contents, elements, setSlot, getD_modify _ _ _ _ _ inside, Cell.mk.injEq,
        true_and]
      split <;> rfl
    | frame | object | function => rfl

/-- An object with another property. -/
theorem puts_property {ref : Nat} (inside : h.Has ⟨.object, ref⟩) (key : String) (v : Value) :
    h.Puts ⟨.object, ref⟩ (.object ((h.properties ref).insert key v))
      (h.setSlot (.property ref key) v) where
  place := Nat.le_of_lt inside
  size s := by
    have in_objects : ref < h.objects.size := inside
    cases s with
    | object => simp [size, setSlot]; omega
    | frame | array | function => rfl
  contents := by
    rintro ⟨s, i⟩
    cases s with
    | object =>
      simp only [Heap.contents, properties, setSlot, getD_modify _ _ _ _ _ inside, Cell.mk.injEq,
        true_and]
      split <;> rfl
    | frame | array | function => rfl

/-! ## Cells that are not there -/

theorem bind_of_not_has {frame : Nat} (outside : ¬ h.Has ⟨.frame, frame⟩) (name : String)
    (b : Binding) : h.bind frame name b = h := by
  rw [bind, modify_of_size_le _ _ outside]

theorem rebind_of_not_has {frame : Nat} (outside : ¬ h.Has ⟨.frame, frame⟩) (name : String)
    (v : Value) : h.rebind frame name v = h := by
  rw [rebind, modify_of_size_le _ _ outside]

theorem setSlot_element_of_not_has {ref : Nat} (outside : ¬ h.Has ⟨.array, ref⟩) (index : Nat)
    (v : Value) : h.setSlot (.element ref index) v = h := by
  rw [setSlot, modify_of_size_le _ _ outside]

theorem setSlot_property_of_not_has {ref : Nat} (outside : ¬ h.Has ⟨.object, ref⟩)
    (key : String) (v : Value) : h.setSlot (.property ref key) v = h := by
  rw [setSlot, modify_of_size_le _ _ outside]

end Heap

/-! ## Contents that are alike -/

theorem setElement_alike {ρ : Pairing} {as as' : Array Value}
    (elements : List.Forall₂ (Value.Alike ρ) as.toList as'.toList) (index : Nat) {v v' : Value}
    (value : v.Alike ρ v') :
    List.Forall₂ (Value.Alike ρ) (setElement as index v).toList
      (setElement as' index v').toList := by
  have size : as.size = as'.size := elements.length_eq
  refine forall₂_iff_getElem?.mpr fun i => ?_
  have at_i := forall₂_iff_getElem?.mp elements i
  simp only [Array.getElem?_toList] at at_i ⊢
  rw [getElem?_setElement, getElem?_setElement, size]
  split
  next => exact .some value
  next =>
    split
    next => exact at_i
    next =>
      split
      next => exact .some .null
      next => exact .none

theorem rebind_alike {ρ : Pairing} {o o' : Option Binding} (h : Option.Rel (Binding.Alike ρ) o o')
    {v v' : Value} (value : v.Alike ρ v') :
    Option.Rel (Binding.Alike ρ) (o.map fun b => { b with value := v })
      (o'.map fun b => { b with value := v' }) := by
  cases h with
  | none => exact .none
  | some binding => exact .some ⟨value, binding.isConstant, binding.type⟩

end Scriptlet
