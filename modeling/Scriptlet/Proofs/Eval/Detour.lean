import Scriptlet.Proofs.Eval.Congruence
import Scriptlet.Proofs.Eval.Outcome

/-!
# The machines that a run meets

A *detour* puts some other outcome in place of a task, wherever the task is to be
performed on a given machine.  A run *meets* the task on the machine if a detour
there can change its outcome.  This speaks of the machines in the middle of a
run, also of a run that fails or does not end.

An invariant of the heap that every single operation keeps (`Heap.Lasting`) holds
of every machine met, the number of calls being made is within the limit, and the
body of a function is always inside a call (`Request.Meets.holds`).  An invariant
that holds of a machine met still holds at the end (`Request.Meets.lasts`).

An invariant may also speak of the lines printed, and it may ask that all scopes are
among certain ones (`Upheld`, `Scoped`).  Then the scopes of the machines met are
among them too (`Request.Meets.keeps`).
-/

open Scriptlet.Action Scriptlet.Evaluate

namespace Scriptlet

/-! ## Detours -/

open Classical in
/-- Performs tasks, but has another outcome for one task on one machine. -/
noncomputable def detour (t₀ : Task) (m₀ : Machine) (other : Performer) : Nat → Performer
  | 0, t => fun m => if t = t₀ ∧ m = m₀ then other t m else .error .endless m
  | fuel + 1, t => fun m =>
    if t = t₀ ∧ m = m₀ then other t m else step (detour t₀ m₀ other fuel) t m

/-- Serving a request on a machine comes to a task, which starts on the machine given
last. -/
def Request.Meets (r : Request) (fuel : Nat) (m : Machine) (t : Task) (m' : Machine) : Prop :=
  ∃ other : Performer, r.serve (detour t m' other fuel) m ≠ r.serve (perform fuel) m

/-! ## Actions that restore the scope and the depth -/

/-- However the action ends, the scope and the number of calls are those it started with. -/
def Action.Restores {α : Type} (a : Action α) (m : Machine) : Prop :=
  (a.after m).scope = m.scope ∧ (a.after m).depth = m.depth

namespace Heap

/-! ## Invariants of the heap -/

/-- A property that every operation on the heap keeps. -/
structure Lasting (I : Heap → Prop) : Prop where
  /-- A sound binding is declared. -/
  bind : ∀ {h : Heap} {s : Scope} {name : String} {b : Binding} {span : Span},
    I h → h.declareFault? s name span = none → b.Sound → I (h.bind s.own name b)
  /-- A name is assigned to. -/
  rebind : ∀ {h : Heap} {s : Scope} {name : String} {v : Value} {span : Span} {frame : Nat},
    I h → h.assignFrame s name v span = .ok frame → I (h.rebind frame name v)
  /-- An array is made. -/
  newArray : ∀ {h : Heap} (elements : Array Value), I h → I (h.newArray elements).2
  /-- An object is made. -/
  newObject : ∀ {h : Heap} (ps : Properties), I h → I (h.newObject ps).2
  /-- A function is made. -/
  newClosure : ∀ {h : Heap} (f : Function) (s : Scope), I h → I (h.newFunction (.closure f s)).2
  /-- A slot is written. -/
  setSlot : ∀ {h : Heap} {container key : Value} {span : Span} {s : Slot} (v : Value),
    I h → h.slot container key span = .ok s → I (h.setSlot s v)
  /-- A scope is made. -/
  newEnclosed : ∀ {h : Heap} (outer : Scope), I h → I (h.newEnclosed outer).2

/-- What holds of all heaps. -/
theorem lasting_true : Lasting fun _ => True where
  bind _ _ _ := trivial
  rebind _ _ := trivial
  newArray _ _ := trivial
  newObject _ _ := trivial
  newClosure _ _ _ := trivial
  setSlot _ _ _ := trivial
  newEnclosed _ _ := trivial

/-- What holds of no heap. -/
theorem lasting_false : Lasting fun _ => False where
  bind absurd_ _ _ := absurd_
  rebind absurd_ _ := absurd_
  newArray _ absurd_ := absurd_
  newObject _ absurd_ := absurd_
  newClosure _ _ absurd_ := absurd_
  setSlot _ absurd_ _ := absurd_
  newEnclosed _ absurd_ := absurd_

end Heap

/-! ## Invariants in certain scopes -/

/-- A property of the heap and the lines printed so far that every step of the machine keeps
if the scopes that it is in, and that functions are made in, are certain ones. -/
structure Upheld (G : Scope → Prop) (I : Heap → Array String → Prop) : Prop where
  /-- A sound binding is declared. -/
  bind : ∀ {h : Heap} {o : Array String} {s : Scope} {name : String} {b : Binding} {span : Span},
    I h o → h.declareFault? s name span = none → b.Sound → I (h.bind s.own name b) o
  /-- A name is assigned to. -/
  rebind : ∀ {h : Heap} {o : Array String} {s : Scope} {name : String} {v : Value} {span : Span}
    {frame : Nat}, I h o → h.assignFrame s name v span = .ok frame → I (h.rebind frame name v) o
  /-- An array is made. -/
  newArray : ∀ {h : Heap} {o : Array String} (elements : Array Value), I h o →
    I (h.newArray elements).2 o
  /-- An object is made. -/
  newObject : ∀ {h : Heap} {o : Array String} (ps : Properties), I h o → I (h.newObject ps).2 o
  /-- A function is made. -/
  newClosure : ∀ {h : Heap} {o : Array String} (f : Function) {s : Scope}, G s → I h o →
    I (h.newFunction (.closure f s)).2 o
  /-- A slot is written. -/
  setSlot : ∀ {h : Heap} {o : Array String} {container key : Value} {span : Span} {s : Slot}
    (v : Value), I h o → h.slot container key span = .ok s → I (h.setSlot s v) o
  /-- A scope is made. -/
  newEnclosed : ∀ {h : Heap} {o : Array String} {outer : Scope}, G outer → I h o →
    I (h.newEnclosed outer).2 o
  /-- A line is printed. -/
  emit : ∀ {h : Heap} {o : Array String} (line : String), I h o → I h (o.push line)

/-- Scopes that all evaluation is in, as long as a property holds: they are left for scopes
inside of them and for those that functions were made in. -/
structure Scoped (G : Scope → Prop) (I : Heap → Array String → Prop) : Prop where
  inner : ∀ (h : Heap) {outer : Scope}, G outer → G (h.newEnclosed outer).1
  callable : ∀ {h : Heap} {o : Array String}, I h o →
    ∀ ref, (h.functions.getD ref default).ScopeIn G

theorem scoped_true (I : Heap → Array String → Prop) : Scoped (fun _ => True) I where
  inner _ _ _ := trivial
  callable {h o} _ ref := by cases h.functions.getD ref default <;> trivial

theorem Heap.Lasting.upheld {I : Heap → Prop} (L : Heap.Lasting I) (G : Scope → Prop) :
    Upheld G fun h _ => I h where
  bind := L.bind
  rebind := L.rebind
  newArray := L.newArray
  newObject := L.newObject
  newClosure f _ _ kept := L.newClosure f _ kept
  setSlot := L.setSlot
  newEnclosed _ kept := L.newEnclosed _ kept
  emit _ kept := kept

/-! ## Agreement -/

/-- The second action restores the scope and the depth and keeps two properties of the
heap, the first of which is given.  Where the depth is within the limit the first action
has the same outcome, or else the second one leaves a heap with the second property. -/
def Agrees (I E : Heap → Prop) {α : Type} (d : Nat) (a b : Action α) : Prop :=
  ∀ m : Machine, m.depth = d → I m.heap →
    (d ≤ maxDepth → a m = b m ∨ E (b.after m).heap) ∧ b.Restores m ∧ I (b.after m).heap ∧
      (E m.heap → E (b.after m).heap)

/-- The same for properties of the heap and the lines, on machines in certain scopes. -/
def AgreesIn (G : Scope → Prop) (I E : Heap → Array String → Prop) {α : Type} (d : Nat)
    (a b : Action α) : Prop :=
  ∀ m : Machine, m.depth = d → G m.scope → I m.heap m.output →
    (d ≤ maxDepth → a m = b m ∨ E (b.after m).heap (b.after m).output) ∧ b.Restores m ∧
      I (b.after m).heap (b.after m).output ∧
      (E m.heap m.output → E (b.after m).heap (b.after m).output)

theorem agrees_eq (I E : Heap → Prop) :
    @Agrees I E = @AgreesIn (fun _ => True) (fun h _ => I h) (fun h _ => E h) := by
  funext α d a b
  simp only [Agrees, AgreesIn, true_imp_iff]

namespace AgreesIn

variable {G : Scope → Prop} {I E : Heap → Array String → Prop} {α β : Type} {d : Nat}

/-- An action that may change the heap and the output only agrees with itself. -/
theorem of_heap {a : Action α}
    (h : ∀ m : Machine, G m.scope → ∃ heap output, (I m.heap m.output → I heap output) ∧
      (E m.heap m.output → E heap output) ∧
      a.after m = { m with heap := heap, output := output }) : AgreesIn G I E d a a := by
  intro m _ known kept
  obtain ⟨heap, output, keeps, keeps', changed⟩ := h m known
  refine ⟨fun _ => .inl rfl, ?_, ?_, ?_⟩
  · rw [Restores, changed]
    exact ⟨rfl, rfl⟩
  · rw [changed]
    exact keeps kept
  · rw [changed]
    exact keeps'

theorem bind {a b : Action α} {f g : α → Action β} (first : AgreesIn G I E d a b)
    (second : ∀ v, AgreesIn G I E d (f v) (g v)) : AgreesIn G I E d (a >>= f) (b >>= g) := by
  intro m at_d known kept
  obtain ⟨same, restores, kept', lasts⟩ := first m at_d known kept
  unfold Restores after at *
  cases outcome : b m with
  | error e m' =>
    rw [outcome] at same restores kept' lasts
    rw [bind_of_error outcome g]
    refine ⟨fun inside => ?_, restores, kept', lasts⟩
    exact (same inside).imp_left fun halted => bind_of_error halted f
  | ok v m' =>
    rw [outcome] at same restores kept' lasts
    rw [bind_of_ok outcome g]
    have at_d' : m'.depth = d := restores.2.trans at_d
    have known' : G m'.scope := restores.1.symm ▸ known
    obtain ⟨same', restores', kept'', lasts'⟩ := second v m' at_d' known' kept'
    refine ⟨fun inside => ?_, ?_, kept'', fun held => lasts' (lasts held)⟩
    · cases same inside with
      | inl passed => exact (same' inside).imp_left fun next => (bind_of_ok passed f).trans next
      | inr excused => exact .inr (lasts' excused)
    · exact ⟨restores'.1.trans restores.1, restores'.2.trans restores.2⟩

/-- Acting in a new scope agrees, since the action comes back from it. -/
theorem enclosed (S : Scoped G I) (L : Upheld G I) (K : Upheld G E) {outer : Scope}
    (known : G outer) {a b : Action α} (h : AgreesIn G I E d a b) :
    AgreesIn G I E d (Action.enclosed outer a) (Action.enclosed outer b) := by
  intro m at_d _ kept
  obtain ⟨same, restores, kept', lasts⟩ :=
    h (m.opened outer) at_d (S.inner m.heap known) (L.newEnclosed known kept)
  rw [Restores, enclosed_eq, enclosed_eq, after_enclosed]
  refine ⟨fun inside => ?_, ⟨rfl, restores.2⟩, kept', fun held => lasts (K.newEnclosed known held)⟩
  refine (same inside).imp_left fun passed => ?_
  rw [passed]

/-- Acting one call deeper agrees where the limit allows it, and elsewhere fails. -/
theorem nested (span : Span) {a b : Action α} (h : d < maxDepth → AgreesIn G I E (d + 1) a b) :
    AgreesIn G I E d (Action.nested span a) (Action.nested span b) := by
  intro m at_d known kept
  by_cases full : maxDepth ≤ m.depth
  · rw [Restores, nested_of_full full, nested_of_full full, after_nested_of_full full]
    exact ⟨fun _ => .inl rfl, ⟨rfl, rfl⟩, kept, id⟩
  · have room : d < maxDepth := at_d ▸ Nat.lt_of_not_le full
    obtain ⟨same, restores, kept', lasts⟩ :=
      h room { m with depth := m.depth + 1 } (congrArg Nat.succ at_d) known kept
    rw [Restores, nested_of_room full, nested_of_room full, after_nested_of_room full, after_deeper]
    refine ⟨fun _ => ?_, ⟨restores.1, congrArg Nat.pred restores.2⟩, kept', lasts⟩
    refine (same room).imp_left fun passed => ?_
    rw [deeper, deeper, passed]

end AgreesIn

/-- Evaluation respects agreement on properties that are upheld. -/
theorem Upheld.congruence {G : Scope → Prop} {I E : Heap → Array String → Prop}
    (L : Upheld G I) (K : Upheld G E) (S : Scoped G I) : ScopedCongruence G (AgreesIn G I E) where
  bind first second := first.bind second
  query d f := .of_heap fun m _ => ⟨m.heap, m.output, id, id, by
    unfold after Action.query
    cases f m.heap m.scope <;> rfl⟩
  scope related m at_d known kept := related m.scope known m at_d known kept
  callable ref _ _ related m at_d known kept :=
    related _ (S.callable kept ref) m at_d known kept
  declare d name b span sound := .of_heap fun m _ => by
    unfold after Action.declare
    cases free : m.heap.declareFault? m.scope name span with
    | some e => exact ⟨_, _, id, id, rfl⟩
    | none => exact ⟨_, _, fun h => L.bind h free sound, fun h => K.bind h free sound, rfl⟩
  assign d name v span := .of_heap fun m _ => by
    unfold after Action.assign
    cases found : m.heap.assignFrame m.scope name v span with
    | error e => exact ⟨_, _, id, id, rfl⟩
    | ok frame => exact ⟨_, _, fun h => L.rebind h found, fun h => K.rebind h found, rfl⟩
  newArray d elements := .of_heap fun m _ =>
    ⟨_, _, L.newArray elements, K.newArray elements, rfl⟩
  newObject d ps := .of_heap fun m _ => ⟨_, _, L.newObject ps, K.newObject ps, rfl⟩
  newClosure d f := .of_heap fun m known =>
    ⟨_, _, L.newClosure f known, K.newClosure f known, rfl⟩
  writeSlot d container key v span := .of_heap fun m _ => by
    unfold after Action.writeSlot
    cases found : m.heap.slot container key span with
    | error e => exact ⟨_, _, id, id, rfl⟩
    | ok s => exact ⟨_, _, fun h => L.setSlot v h found, fun h => K.setSlot v h found, rfl⟩
  emit d line := .of_heap fun m _ => ⟨_, _, L.emit line, K.emit line, rfl⟩
  enclosed known related := related.enclosed S L K known
  nested := by
    intro _ d span a b related
    exact .nested span related

/-- Evaluation respects agreement on lasting properties. -/
theorem Heap.Lasting.congruence {I E : Heap → Prop} (L : Heap.Lasting I) (K : Heap.Lasting E) :
    Congruence (Agrees I E) := by
  rw [agrees_eq]
  exact ((L.upheld _).congruence (K.upheld _) (scoped_true _)).unscoped

/-- What is upheld holds after every task that may start. -/
theorem Upheld.after_perform {G : Scope → Prop} {I : Heap → Array String → Prop}
    (L : Upheld G I) (S : Scoped G I) (fuel : Nat) {t : Task} {m : Machine}
    (admitted : t.AdmitsIn G m.depth) (known : G m.scope) (kept : I m.heap m.output) :
    I ((perform fuel t).after m).heap ((perform fuel t).after m).output :=
  ((L.congruence L S).perform fuel t m.depth admitted m rfl known kept).2.2.1

/-- What is upheld holds after every request. -/
theorem Upheld.after_serve {G : Scope → Prop} {I : Heap → Array String → Prop}
    (L : Upheld G I) (S : Scoped G I) (fuel : Nat) (r : Request) {m : Machine}
    (known : G m.scope) (kept : I m.heap m.output) :
    I ((r.serve (perform fuel)).after m).heap ((r.serve (perform fuel)).after m).output := by
  have C := L.congruence L S
  exact (C.serve (C.perform fuel) m.depth r m rfl known kept).2.2.1

/-- What lasts holds after every request. -/
theorem Heap.Lasting.after_serve {I : Heap → Prop} (L : Heap.Lasting I) (fuel : Nat)
    (r : Request) {m : Machine} (kept : I m.heap) :
    I ((r.serve (perform fuel)).after m).heap :=
  (L.upheld fun _ => True).after_serve (scoped_true _) fuel r trivial kept

/-! ## Evaluation with a detour -/

/-- A detour does not change any outcome, unless a task can take it.  Then what is upheld from
there on holds at the end. -/
theorem Upheld.perform_detour {G : Scope → Prop} {I E : Heap → Array String → Prop}
    (L : Upheld G I) (K : Upheld G E) (S : Scoped G I) {t₀ : Task} {m₀ : Machine}
    (taken : t₀.AdmitsIn G m₀.depth → m₀.depth ≤ maxDepth → G m₀.scope → I m₀.heap m₀.output →
      E m₀.heap m₀.output)
    (other : Performer) :
    ∀ fuel : Nat,
      Performer.RelatedIn G (AgreesIn G I E) (detour t₀ m₀ other fuel) (perform fuel) := by
  have C := L.congruence K S
  have turn : ∀ (fuel : Nat) {t : Task} {d : Nat} {m : Machine}, t.AdmitsIn G d → m.depth = d →
      G m.scope → I m.heap m.output → d ≤ maxDepth → t = t₀ ∧ m = m₀ →
      E ((perform fuel t).after m).heap ((perform fuel t).after m).output := by
    rintro fuel t d m admitted at_d known kept inside ⟨rfl, rfl⟩
    obtain ⟨-, -, -, lasts⟩ := C.perform fuel t d admitted m at_d known kept
    exact lasts (taken (at_d ▸ admitted) (at_d ▸ inside) known kept)
  intro fuel
  induction fuel with
  | zero =>
    intro t d admitted m at_d known kept
    have rest := C.endless (α := t.Result) d m at_d known kept
    refine ⟨fun inside => ?_, rest.2⟩
    by_cases here : t = t₀ ∧ m = m₀
    · exact .inr (turn 0 admitted at_d known kept inside here)
    · exact .inl (if_neg here)
  | succ fuel below =>
    intro t d admitted m at_d known kept
    obtain ⟨same, rest⟩ := C.step below t d admitted m at_d known kept
    refine ⟨fun inside => ?_, rest⟩
    by_cases here : t = t₀ ∧ m = m₀
    · exact .inr (turn (fuel + 1) admitted at_d known kept inside here)
    · exact (same inside).imp_left fun passed => (if_neg here).trans passed

/-- What is upheld from a machine on that a run meets holds at the end of the run. -/
theorem Request.Meets.upheld {G : Scope → Prop} {I E : Heap → Array String → Prop}
    (L : Upheld G I) (K : Upheld G E) (S : Scoped G I) {r : Request} {fuel : Nat}
    {m m' : Machine} {t : Task} (meets : r.Meets fuel m t m') (inside : m.depth ≤ maxDepth)
    (known : G m.scope) (kept : I m.heap m.output)
    (taken : t.AdmitsIn G m'.depth → m'.depth ≤ maxDepth → G m'.scope → I m'.heap m'.output →
      E m'.heap m'.output) :
    E ((r.serve (perform fuel)).after m).heap ((r.serve (perform fuel)).after m).output := by
  obtain ⟨other, changed⟩ := meets
  have related := L.perform_detour K S taken other fuel
  obtain ⟨same, -⟩ := (L.congruence K S).serve related m.depth r m rfl known kept
  exact (same inside).resolve_left changed

/-- What no heap and no lines have. -/
theorem upheld_false (G : Scope → Prop) : Upheld G fun _ _ => False :=
  Heap.lasting_false.upheld G

/-- What holds of every machine that a run meets, and of its scope. -/
theorem Request.Meets.keeps {G : Scope → Prop} {I : Heap → Array String → Prop}
    (L : Upheld G I) (S : Scoped G I) {r : Request} {fuel : Nat} {m m' : Machine} {t : Task}
    (meets : r.Meets fuel m t m') (inside : m.depth ≤ maxDepth) (known : G m.scope)
    (kept : I m.heap m.output) :
    t.AdmitsIn G m'.depth ∧ m'.depth ≤ maxDepth ∧ G m'.scope ∧ I m'.heap m'.output := by
  refine Classical.byContradiction fun missed => ?_
  refine meets.upheld L (upheld_false G) S inside known kept ?_
  exact fun admitted inside' known' kept' => missed ⟨admitted, inside', known', kept'⟩

/-- What lasts from a machine on that a run meets holds at the end of the run. -/
theorem Request.Meets.lasts {I E : Heap → Prop} (L : Heap.Lasting I) (K : Heap.Lasting E)
    {r : Request} {fuel : Nat} {m m' : Machine} {t : Task} (meets : r.Meets fuel m t m')
    (inside : m.depth ≤ maxDepth) (kept : I m.heap)
    (taken : t.Admits m'.depth → m'.depth ≤ maxDepth → I m'.heap → E m'.heap) :
    E ((r.serve (perform fuel)).after m).heap :=
  meets.upheld (L.upheld _) (K.upheld _) (scoped_true _) inside trivial kept
    fun admitted inside' _ kept' => taken admitted.admits inside' kept'

/-- What holds of every machine that a run meets. -/
theorem Request.Meets.holds {I : Heap → Prop} (L : Heap.Lasting I) {r : Request} {fuel : Nat}
    {m m' : Machine} {t : Task} (meets : r.Meets fuel m t m') (inside : m.depth ≤ maxDepth)
    (kept : I m.heap) : t.Admits m'.depth ∧ m'.depth ≤ maxDepth ∧ I m'.heap := by
  obtain ⟨admitted, inside', -, kept'⟩ :=
    meets.keeps (L.upheld _) (scoped_true _) inside trivial kept
  exact ⟨admitted.admits, inside', kept'⟩

theorem detour_self (t : Task) (m : Machine) (other : Performer) (fuel : Nat) :
    detour t m other fuel t m = other t m := by
  cases fuel <;> exact if_pos ⟨rfl, rfl⟩

/-- A call of a closure with as many arguments as it has parameters enters its body, if
the limit allows it. -/
theorem invoke_closure {m : Machine} {ref : Nat} {f : Function} {s : Scope}
    (found : m.heap.functions.getD ref default = .closure f s) {args : List Value}
    (arity : args.length = f.params.length) (room : m.depth < maxDepth) (p : Performer)
    (span : Span) :
    invoke p (.function ref) args span m = deeper (p.enter f s args span) m := by
  have read : callable ref m = .ok (.closure f s) m := by
    rw [← found]
    rfl
  refine (bind_of_ok read _).trans ?_
  have counted : ¬ args.length ≠ (Callable.closure f s).arity := not_not_intro arity
  simp only [if_neg counted, Action.nested, if_neg (Nat.not_le_of_lt room)]

/-- No outcome halts in every way. -/
theorem exists_other_halt {α : Type} (outcome : EStateM.Result Halt Machine α) :
    ∃ halt, ∀ m, outcome ≠ .error halt m := by
  cases outcome with
  | ok v m => exact ⟨.endless, fun _ same => nomatch same⟩
  | error e m =>
    cases e with
    | fault f => exact ⟨.endless, fun _ same => nomatch same⟩
    | crash c => exact ⟨.endless, fun _ same => nomatch same⟩
    | endless => exact ⟨.fault default, fun _ same => nomatch same⟩

theorem halts_of_deeper {α : Type} {a : Action α} {m m' : Machine} {e : Halt}
    (h : deeper a m = .error e m') :
    ∃ m'', a { m with depth := m.depth + 1 } = .error e m'' := by
  unfold deeper at h
  cases outcome : a { m with depth := m.depth + 1 } with
  | ok v m'' =>
    rw [outcome] at h
    cases h
  | error e' m'' =>
    rw [outcome] at h
    cases h
    exact ⟨m'', rfl⟩

/-- A call that enters a body meets it one call deeper. -/
theorem Request.meets_enter {m : Machine} {ref : Nat} {f : Function} {s : Scope}
    (found : m.heap.functions.getD ref default = .closure f s) {args : List Value}
    (arity : args.length = f.params.length) (room : m.depth < maxDepth) (fuel : Nat)
    (span : Span) :
    (Request.call (.function ref) args span).Meets (fuel + 1) m (.enter f s args span)
      { m with depth := m.depth + 1 } := by
  let inside : Machine := { m with depth := m.depth + 1 }
  let t : Task := .enter f s args span
  have plain : (Request.call (.function ref) args span).serve (perform (fuel + 1)) m =
      deeper (perform fuel t) m :=
    invoke_closure found arity room _ span
  have taken : ∀ other, (Request.call (.function ref) args span).serve
      (detour t inside other (fuel + 1)) m = deeper (other t) m := by
    intro other
    have elsewhere : ¬ (Task.call (.function ref) args span = t ∧ m = inside) :=
      fun same => nomatch same.1
    refine (if_neg elsewhere).trans ((invoke_closure found arity room _ span).trans ?_)
    have here : detour t inside other fuel t inside = other t inside :=
      detour_self t inside other fuel
    simp only [deeper, Performer.enter]
    rw [here]
  obtain ⟨halt, unlike⟩ := exists_other_halt (perform fuel t inside)
  refine ⟨fun _ => throw halt, fun same => ?_⟩
  rw [taken, plain] at same
  obtain ⟨m', halted⟩ := halts_of_deeper same.symm
  exact unlike m' halted

end Scriptlet
