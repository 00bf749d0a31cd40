import Scriptlet.Heap.Scope

/-!
# What becomes of bindings

A binding is *sound* if its value has its declared type.  A variable may start
out as null, so a null that is not constant is sound too.

A binding *becomes* another one if only its value changes, if it does not change
at all when it is constant, and if it keeps its declared type once it has it.
A heap *evolves* to another one if no binding is removed and each becomes the
one found in its place.  Both are preorders.

Making a frame, binding a name that its frame does not bind yet, and giving a
name a value that may be assigned to it (`Heap.assignFrame`) each let the heap
evolve and keep it sound.
-/

namespace Scriptlet

/-! ## Bindings -/

namespace Binding

/-- The value has the declared type, or is the null that a variable starts with. -/
def Sound (b : Binding) : Prop :=
  ∀ type, b.type = some type →
    b.value.satisfies type = true ∨ (b.isConstant = false ∧ b.value = .null)

/-- What a later state of a binding may be. -/
structure Becomes (b b' : Binding) : Prop where
  /-- Whether it can be assigned to stays. -/
  isConstant : b'.isConstant = b.isConstant
  /-- The declared type stays. -/
  type : b'.type = b.type
  /-- A constant keeps its value. -/
  constant : b.isConstant = true → b'.value = b.value
  /-- A value of the declared type gives way to such values only. -/
  typed : ∀ type, b.type = some type →
    b.value.satisfies type = true → b'.value.satisfies type = true

theorem Becomes.refl (b : Binding) : b.Becomes b :=
  ⟨rfl, rfl, fun _ => rfl, fun _ _ h => h⟩

/-- A binding keeps its kind, its type and, as a constant, its value through two changes. -/
theorem Becomes.trans {b₁ b₂ b₃ : Binding} (h₁ : b₁.Becomes b₂) (h₂ : b₂.Becomes b₃) :
    b₁.Becomes b₃ where
  isConstant := h₂.isConstant.trans h₁.isConstant
  type := h₂.type.trans h₁.type
  constant fixed :=
    (h₂.constant (h₁.isConstant.trans fixed)).trans (h₁.constant fixed)
  typed type declared satisfied :=
    h₂.typed type (h₁.type.trans declared) (h₁.typed type declared satisfied)

/-- The values that may be assigned. -/
def Accepts (b : Binding) (v : Value) : Prop :=
  b.isConstant = false ∧ ∀ type, b.type = some type → v.satisfies type = true

/-- A value that a binding accepts may be stored in it. -/
theorem Accepts.becomes {b : Binding} {v : Value} (h : b.Accepts v) :
    b.Becomes { b with value := v } where
  isConstant := rfl
  type := rfl
  constant fixed := by
    rw [h.1] at fixed
    cases fixed
  typed type declared _ := h.2 type declared

/-- A value that a binding accepts keeps it sound. -/
theorem Accepts.sound {b : Binding} {v : Value} (h : b.Accepts v) :
    Sound { b with value := v } :=
  fun type declared => Or.inl (h.2 type declared)

end Binding

/-- A check that succeeds says that the value has the type. -/
theorem satisfies_of_checkType {name : String} {type : Option TypeName} {v : Value} {span : Span}
    (h : checkType name type v span = .ok ()) :
    ∀ expected, type = some expected → v.satisfies expected = true := by
  intro expected declared
  subst declared
  simp only [checkType] at h
  split at h
  next satisfied => exact satisfied
  next => cases h

namespace Heap

/-! ## Heaps -/

/-- Every binding in every frame is sound. -/
def Sound (h : Heap) : Prop :=
  ∀ frame name b, h.bindingIn? frame name = some b → b.Sound

/-- Every binding is still there, and has become what is found in its place. -/
def Evolves (h h' : Heap) : Prop :=
  ∀ frame name b, h.bindingIn? frame name = some b →
    ∃ b', h'.bindingIn? frame name = some b' ∧ b.Becomes b'

theorem Evolves.refl (h : Heap) : h.Evolves h :=
  fun _ _ b found => ⟨b, found, .refl b⟩

/-- A heap evolves through two changes. -/
theorem Evolves.trans {h₁ h₂ h₃ : Heap} (first : h₁.Evolves h₂) (second : h₂.Evolves h₃) :
    h₁.Evolves h₃ := by
  intro frame name b found
  obtain ⟨b', found', becomes⟩ := first frame name b found
  obtain ⟨b'', found'', becomes'⟩ := second frame name b' found'
  exact ⟨b'', found'', becomes.trans becomes'⟩

/-- The bindings of a heap are those of its frames. -/
theorem bindingIn?_congr {h h' : Heap} (same : h'.frames = h.frames) (frame : Nat)
    (name : String) : h'.bindingIn? frame name = h.bindingIn? frame name := by
  simp only [bindingIn?, bindings, same]

/-- Only the frames matter to soundness. -/
theorem Sound.congr {h h' : Heap} (same : h'.frames = h.frames) (sound : h.Sound) :
    h'.Sound := by
  intro frame name b found
  rw [bindingIn?_congr same] at found
  exact sound frame name b found

theorem Evolves.congr {h₀ h h' : Heap} (same : h'.frames = h.frames) (evolves : h₀.Evolves h) :
    h₀.Evolves h' := by
  intro frame name b found
  obtain ⟨b', found', becomes⟩ := evolves frame name b found
  exact ⟨b', (bindingIn?_congr same frame name).trans found', becomes⟩

/-! ## New frames -/

/-- A new frame that binds nothing changes no look-up. -/
theorem bindingIn?_newEnclosed (h : Heap) (outer : Scope) (frame : Nat) (name : String) :
    (h.newEnclosed outer).2.bindingIn? frame name = h.bindingIn? frame name := by
  change ((h.newFrame []).2.bindings frame).lookup name = (h.bindings frame).lookup name
  rw [bindings_newFrame]
  split
  next fresh =>
    subst fresh
    simp [bindings, Array.getD_eq_getD_getElem?]
  next => rfl

theorem Sound.newEnclosed {h : Heap} (sound : h.Sound) (outer : Scope) :
    (h.newEnclosed outer).2.Sound := by
  intro frame name b found
  rw [bindingIn?_newEnclosed] at found
  exact sound frame name b found

theorem evolves_newEnclosed (h : Heap) (outer : Scope) :
    h.Evolves (h.newEnclosed outer).2 := by
  intro frame name b found
  exact ⟨b, (bindingIn?_newEnclosed h outer frame name).trans found, .refl b⟩

/-! ## New bindings -/

/-- What can be declared is not bound in the frame yet. -/
theorem bindingIn?_of_declareFault? {h : Heap} {s : Scope} {name : String} {span : Span}
    (free : h.declareFault? s name span = none) : h.bindingIn? s.own name = none := by
  simp only [declareFault?] at free
  split at free
  next => cases free
  next =>
    split at free
    next => cases free
    next unbound => simpa using unbound

/-- What can be declared is not reserved. -/
theorem isReserved_of_declareFault? {h : Heap} {s : Scope} {name : String} {span : Span}
    (free : h.declareFault? s name span = none) : Keyword.isReserved name = false := by
  simp only [declareFault?] at free
  split at free
  next => cases free
  next allowed => exact eq_false_of_ne_true allowed

/-- A sound binding may be added. -/
theorem Sound.bind {h : Heap} {b : Binding} (sound : h.Sound) (sound_b : b.Sound)
    (frame : Nat) (name : String) : (h.bind frame name b).Sound := by
  intro other n b' found
  rw [bindingIn?_bind] at found
  split at found
  next =>
    cases found
    exact sound_b
  next => exact sound other n b' found

theorem evolves_bind {h : Heap} {frame : Nat} {name : String} (b : Binding)
    (unbound : h.bindingIn? frame name = none) : h.Evolves (h.bind frame name b) := by
  intro other n b' found
  refine ⟨b', ?_, .refl b'⟩
  rw [bindingIn?_bind]
  split
  next here =>
    obtain ⟨⟨rfl, -⟩, rfl⟩ := here
    rw [unbound] at found
    cases found
  next => exact found

/-! ## New values -/

/-- The binding that a name is resolved to is bound in the frame found. -/
theorem bindingIn?_of_resolveIn {h : Heap} {name : String} {frame : Nat} {b : Binding} :
    ∀ {frames : List Nat}, h.resolveIn name frames = some (frame, b) →
      h.bindingIn? frame name = some b
  | [], found => by cases found
  | first :: rest, found => by
    simp only [resolveIn] at found
    split at found
    next _ bound =>
      cases found
      exact bound
    next => exact bindingIn?_of_resolveIn found

/-- A frame in which a name can be given a value binds it and accepts the value. -/
theorem accepts_of_assignFrame {h : Heap} {s : Scope} {name : String} {v : Value} {span : Span}
    {frame : Nat} (ok : h.assignFrame s name v span = .ok frame) :
    ∃ b, h.bindingIn? frame name = some b ∧ b.Accepts v := by
  simp only [assignFrame] at ok
  split at ok
  next => cases ok
  next target b resolved =>
    split at ok
    next => cases ok
    next variable_ =>
      split at ok
      next => cases ok
      next checked =>
        cases ok
        exact ⟨b, bindingIn?_of_resolveIn resolved, by simpa using variable_,
          satisfies_of_checkType checked⟩

/-- A value that is accepted may be stored. -/
theorem Sound.rebind {h : Heap} {frame : Nat} {name : String} {v : Value} {b : Binding}
    (sound : h.Sound) (found : h.bindingIn? frame name = some b) (accepts : b.Accepts v) :
    (h.rebind frame name v).Sound := by
  intro other n b' found'
  rw [bindingIn?_rebind] at found'
  split at found'
  next here =>
    obtain ⟨rfl, rfl⟩ := here
    rw [found] at found'
    cases found'
    exact accepts.sound
  next => exact sound other n b' found'

theorem evolves_rebind {h : Heap} {frame : Nat} {name : String} {v : Value} {b : Binding}
    (found : h.bindingIn? frame name = some b) (accepts : b.Accepts v) :
    h.Evolves (h.rebind frame name v) := by
  intro other n b' found'
  rw [bindingIn?_rebind]
  split
  next here =>
    obtain ⟨rfl, rfl⟩ := here
    rw [found] at found'
    cases found'
    exact ⟨_, by rw [found]; rfl, accepts.becomes⟩
  next => exact ⟨b', found', .refl b'⟩

end Heap

end Scriptlet
