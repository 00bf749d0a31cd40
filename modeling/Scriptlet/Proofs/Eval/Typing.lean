import Scriptlet.Proofs.Eval.Detour
import Scriptlet.Proofs.Eval.Restoration

/-!
# Declared types during a session

Every binding of every frame ever made is sound at all times, and a session lets
the heap evolve: a constant keeps its value, and a variable that has a value of
its declared type keeps having one.  Both are invariants of single operations
(`Heap.lasting_sound`, `Heap.lasting_evolves`), so they hold between requests and
in the middle of them, also of a request that fails.

A call that succeeds gives a value of the type that its function declares.
-/

open Scriptlet.Action Scriptlet.Evaluate

namespace Scriptlet

namespace Heap

/-! ## Operations -/

theorem frames_setSlot (h : Heap) (s : Slot) (v : Value) : (h.setSlot s v).frames = h.frames := by
  cases s <;> rfl

theorem lasting_sound : Lasting Sound where
  bind sound _ sound_b := sound.bind sound_b _ _
  rebind sound ok := by
    obtain ⟨b, found, accepts⟩ := accepts_of_assignFrame ok
    exact sound.rebind found accepts
  newArray _ sound := sound.congr rfl
  newObject _ sound := sound.congr rfl
  newClosure _ _ sound := sound.congr rfl
  setSlot _ sound _ := sound.congr (frames_setSlot _ _ _)
  newEnclosed outer sound := sound.newEnclosed outer

theorem lasting_evolves (h₀ : Heap) : Lasting h₀.Evolves where
  bind evolves free _ := evolves.trans (evolves_bind _ (bindingIn?_of_declareFault? free))
  rebind evolves ok := by
    obtain ⟨b, found, accepts⟩ := accepts_of_assignFrame ok
    exact evolves.trans (evolves_rebind found accepts)
  newArray _ evolves := evolves.congr rfl
  newObject _ evolves := evolves.congr rfl
  newClosure _ _ evolves := evolves.congr rfl
  setSlot _ evolves _ := evolves.congr (frames_setSlot _ _ _)
  newEnclosed outer evolves := evolves.trans (evolves_newEnclosed _ outer)

/-- The first heap binds the function that prints, and nothing else. -/
theorem eq_of_bindingIn?_initial {frame : Nat} {name : String} {b : Binding}
    (found : Machine.initial.heap.bindingIn? frame name = some b) :
    frame = Machine.globals.own ∧ name = Builtin.print.name ∧ b = ⟨.function 0, true, none⟩ := by
  cases frame with
  | zero =>
    have in_root : [(Builtin.print.name, (⟨.function 0, true, none⟩ : Binding))].lookup name =
        some b := found
    rw [lookup_cons_ite] at in_root
    split at in_root
    next same =>
      cases in_root
      exact ⟨rfl, same, rfl⟩
    next => cases in_root
  | succ _ => cases found

/-- The first heap asks for no type. -/
theorem sound_initial : Machine.initial.heap.Sound := by
  intro frame name b found type typed
  obtain ⟨-, -, rfl⟩ := eq_of_bindingIn?_initial found
  cases typed

end Heap

/-! ## Sessions -/

/-- A lasting property that depends on the frames only holds throughout a session. -/
theorem Machine.Later.lasting {I : Heap → Prop} (L : Heap.Lasting I)
    (congr : ∀ {h h' : Heap}, h'.frames = h.frames → I h → I h') {m m' : Machine}
    (later : m.Later m') (kept : I m.heap) : I m'.heap := by
  induction later with
  | refl => exact kept
  | serve fuel r _ ih => exact L.after_serve fuel r ih
  | supply _ supplies ih => exact congr supplies.frames ih

theorem Machine.Later.evolves {m m' : Machine} (later : m.Later m') :
    m.heap.Evolves m'.heap :=
  later.lasting (Heap.lasting_evolves m.heap) Heap.Evolves.congr (.refl _)

theorem Machine.Reached.sound {m : Machine} (reached : m.Reached) : m.heap.Sound :=
  Machine.Later.lasting Heap.lasting_sound Heap.Sound.congr reached Heap.sound_initial

/-! ## Calls -/

/-- A value that passes the check of a function's result has the declared type. -/
theorem satisfies_of_checkResult {f : Function} {v w : Value} {span : Span} {m m' : Machine}
    (ok : checkResult f v span m = .ok w m') {type : TypeName} (declared : f.returns = some type) :
    w.satisfies type = true := by
  unfold checkResult at ok
  simp only [declared] at ok
  split at ok
  next satisfied =>
    cases ok
    exact satisfied
  next => cases ok

/-- The body of a function ends with the check of its result. -/
theorem satisfies_of_body {p : Performer} {f : Function} {s : Scope} {args : List Value}
    {span : Span} {m m' : Machine} {v : Value} (ok : body p f s args span m = .ok v m')
    {type : TypeName} (declared : f.returns = some type) : v.satisfies type = true := by
  obtain ⟨_, _, -, rest⟩ := ok_of_bind ok
  obtain ⟨_, _, -, checked⟩ := ok_of_bind rest
  exact satisfies_of_checkResult checked declared

theorem ok_of_deeper {α : Type} {a : Action α} {m m' : Machine} {v : α}
    (h : deeper a m = .ok v m') :
    ∃ m'', a { m with depth := m.depth + 1 } = .ok v m'' := by
  unfold deeper at h
  cases outcome : a { m with depth := m.depth + 1 } with
  | error e m'' =>
    rw [outcome] at h
    cases h
  | ok w m'' =>
    rw [outcome] at h
    cases h
    exact ⟨m'', rfl⟩

/-- A call that succeeds gives a value of the declared type. -/
theorem satisfies_of_call {fuel : Nat} {ref : Nat} {f : Function} {s : Scope}
    {args : List Value} {span : Span} {m m' : Machine} {v : Value}
    (found : m.heap.functions.getD ref default = .closure f s)
    (ok : (perform fuel).call (.function ref) args span m = .ok v m')
    {type : TypeName} (declared : f.returns = some type) : v.satisfies type = true := by
  match fuel with
  | 0 => cases ok
  | fuel + 1 =>
    change invoke (perform fuel) (.function ref) args span m = .ok v m' at ok
    obtain ⟨c, m₁, read, rest⟩ := ok_of_bind (a := callable ref) ok
    cases read
    rw [found] at rest
    split at rest
    next => cases rest
    next =>
      change Action.nested span ((perform fuel).enter f s args span) m = .ok v m' at rest
      unfold Action.nested at rest
      split at rest
      next => cases rest
      next =>
        obtain ⟨m₂, entered⟩ := ok_of_deeper rest
        match fuel with
        | 0 => cases entered
        | fuel + 1 => exact satisfies_of_body entered declared

/-! ## Binding soundness -/

/-- In a session every binding is sound, and has become what is found in its place at
any later time.  Both hold on the way too: from the start of a request to the start of any
task of it, from there to any time after the request, and from the start of a task to its
end, whatever the machine it starts on.  A call of a closure that succeeds gives a value of
the declared type. -/
theorem bindings_sound_throughout :
    (∀ m : Machine, m.Reached → m.heap.Sound ∧
      (∀ m' : Machine, m.Later m' → m.heap.Evolves m'.heap) ∧
      ∀ (fuel : Nat) (r : Request) (t : Task) (m' : Machine), r.Meets fuel m t m' →
        m'.heap.Sound ∧ m.heap.Evolves m'.heap ∧
        ∀ m'' : Machine, ((r.serve (perform fuel)).after m).Later m'' →
          m'.heap.Evolves m''.heap) ∧
    (∀ (fuel : Nat) (t : Task) (m : Machine), t.Admits m.depth →
      m.heap.Evolves ((perform fuel t).after m).heap) ∧
    ∀ (fuel ref : Nat) (f : Function) (s : Scope) (args : List Value) (span : Span)
      (m m' : Machine) (v : Value) (type : TypeName),
      m.heap.functions.getD ref default = .closure f s → f.returns = some type →
      (perform fuel).call (.function ref) args span m = .ok v m' → v.satisfies type = true := by
  refine ⟨?_, ?_, fun _ _ _ _ _ _ _ _ _ _ found declared ok =>
    satisfies_of_call found ok declared⟩
  · intro m reached
    refine ⟨reached.sound, fun _ later => later.evolves, ?_⟩
    intro fuel r t m' meets
    have outside : m.depth = 0 := reached.restores.2
    have room : m.depth ≤ maxDepth := outside ▸ Nat.zero_le maxDepth
    have sound := meets.holds Heap.lasting_sound room reached.sound
    have evolves := meets.holds (Heap.lasting_evolves m.heap) room (.refl _)
    have goes_on : m'.heap.Evolves ((r.serve (perform fuel)).after m).heap :=
      meets.lasts Heap.lasting_true (Heap.lasting_evolves m'.heap) room trivial
        fun _ _ _ => .refl _
    exact ⟨sound.2.2, evolves.2.2, fun _ later => goes_on.trans later.evolves⟩
  · intro fuel t m admitted
    have L := Heap.lasting_evolves m.heap
    exact ((L.congruence L).perform fuel t m.depth admitted m rfl (.refl _)).2.2.1

/-- A host makes a function that returns one and declares a number, and calls it. -/
theorem bindings_sound_throughout_call :
    ∃ (m m₁ m₂ : Machine) (f : Function),
      m.Reached ∧ m.Later m₂ ∧ f.returns = some .number ∧
      (Request.call (.function 1) [] default).Meets 4 m (.enter f m.scope [] default) m₁ ∧
      (perform 4).call (.function 1) [] default m = .ok (.number Number.one) m₂ ∧
      m₁.heap.Sound ∧ m.heap.Evolves m₁.heap ∧ m₁.heap.Evolves m₂.heap ∧
      m.heap.Evolves m₂.heap ∧
      m.heap.Evolves (((perform 4) (.call (.function 1) [] default)).after m).heap ∧
      (Value.number Number.one).satisfies .number = true := by
  let f : Function :=
    .mk none [] (some .number) [.return_ (some (.number Number.one default)) default] default
  let m := Machine.initial.withFunction f
  let r : Request := .call (.function 1) [] default
  have reached : m.Reached := Machine.initial.later_withFunction f
  have meets : r.Meets 4 m (.enter f m.scope [] default) { m with depth := 1 } :=
    Request.meets_enter rfl rfl (by decide) 3 default
  have later : m.Later ((r.serve (perform 4)).after m) := .serve 4 r .refl
  have called : (perform 4).call (.function 1) [] default m =
      .ok (.number Number.one) ((r.serve (perform 4)).after m) := rfl
  obtain ⟨throughout, tasks, calls⟩ := bindings_sound_throughout
  obtain ⟨-, evolves, on_the_way⟩ := throughout m reached
  obtain ⟨sound₁, evolves₁, goes_on⟩ := on_the_way 4 r _ _ meets
  exact ⟨m, _, _, f, reached, later, rfl, meets, called, sound₁, evolves₁, goes_on _ .refl,
    evolves _ later, tasks 4 _ m trivial,
    calls 4 1 f m.scope [] default m _ _ _ rfl rfl called⟩

end Scriptlet
