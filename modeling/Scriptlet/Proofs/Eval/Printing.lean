import Scriptlet.Proofs.Eval.Twin
import Scriptlet.Proofs.Heap.Acyclic

/-!
# Printing

A print statement looks up the function that prints in the root scope.  The name
that it is bound to there is a reserved word, so no declaration can put another
binding in its place, and the binding is constant, so no assignment can.  A heap
on which all of this holds is *upright*.  Besides, all functions on an upright heap
remember scopes that end in the root.  A scope in the root is left for scopes in
the root only, and so a heap stays upright (`Heap.upheld_upright`).

It follows that printing goes well whenever the value has a text, however deep the
calls are and whatever happened before (`execute_print`).  Lines are only ever added
behind the others (`upheld_grown`).
-/

open Scriptlet.Action Scriptlet.Evaluate

namespace Scriptlet

/-! ## Scopes in the root -/

/-- The outermost frame of a scope is the root. -/
def Scope.Rooted (s : Scope) : Prop := s.frames.getLast? = some Machine.globals.own

theorem Scope.Rooted.newEnclosed {outer : Scope} (rooted : outer.Rooted) (h : Heap) :
    (h.newEnclosed outer).1.Rooted :=
  List.getLast?_cons_cons.trans rooted

namespace Heap

/-! ## Upright heaps -/

/-- What makes sure that printing works. -/
structure Upright (h : Heap) : Prop where
  /-- The root binds `print` to the first function ever made, for good. -/
  prints : h.Prints
  /-- Apart from that no frame binds a reserved word. -/
  reserved : ∀ {frame : Nat} {name : String} {b : Binding}, h.bindingIn? frame name = some b →
    Keyword.isReserved name = true → frame = Machine.globals.own ∧ name = Builtin.print.name
  /-- All scopes that functions remember are in the root. -/
  rooted : ∀ c ∈ h.functions, c.ScopeIn Scope.Rooted

/-- The outermost frame has the function that prints, and nothing else is there. -/
theorem upright_initial : Machine.initial.heap.Upright where
  prints := prints_initial
  reserved found _ := by
    obtain ⟨in_root, print, -⟩ := eq_of_bindingIn?_initial found
    exact ⟨in_root, print⟩
  rooted c inside := by
    obtain rfl : c = .builtin .print := Array.mem_singleton.mp inside
    trivial

namespace Upright

variable {h h' : Heap}

/-- A heap stays upright if no more names are bound and new functions are made in the root. -/
theorem keeps (upright : h.Upright) (prints : h'.Prints)
    (bound : ∀ frame name, (h'.bindingIn? frame name).isSome → (h.bindingIn? frame name).isSome)
    (functions : ∀ c ∈ h'.functions, c ∈ h.functions ∨ c.ScopeIn Scope.Rooted) :
    h'.Upright where
  prints := prints
  reserved found word := by
    obtain ⟨b, before⟩ := Option.isSome_iff_exists.mp (bound _ _ (Option.isSome_of_eq_some found))
    exact upright.reserved before word
  rooted c inside := (functions c inside).elim (upright.rooted c) id

/-- The same for a heap with the same frames. -/
theorem congr (upright : h.Upright) (prints : h'.Prints) (frames : h'.frames = h.frames)
    (functions : ∀ c ∈ h'.functions, c ∈ h.functions ∨ c.ScopeIn Scope.Rooted) :
    h'.Upright :=
  upright.keeps prints (fun _ _ => by rw [bindingIn?_congr frames]; exact id) functions

/-- Declaring any value under a name that can be declared keeps a heap upright. -/
theorem bind (upright : h.Upright) {s : Scope} {name : String} {span : Span}
    (free : h.declareFault? s name span = none) (b : Binding) :
    (h.bind s.own name b).Upright where
  prints := upright.prints.evolves (evolves_bind b (bindingIn?_of_declareFault? free)) rfl
  reserved found word := by
    rw [bindingIn?_bind] at found
    split at found
    next here =>
      rw [here.2, isReserved_of_declareFault? free] at word
      cases word
    next => exact upright.reserved found word
  rooted := upright.rooted

theorem rebind (upright : h.Upright) {s : Scope} {name : String} {v : Value} {span : Span}
    {frame : Nat} (found : h.assignFrame s name v span = .ok frame) :
    (h.rebind frame name v).Upright := by
  refine upright.keeps (lasting_prints.rebind upright.prints found) ?_ fun _ => .inl
  intro other n bound
  rw [bindingIn?_rebind] at bound
  split at bound
  next => rwa [Option.isSome_map] at bound
  next => exact bound

theorem supplies (upright : h.Upright) (supplies : h.Supplies h')
    (functions : ∀ c ∈ h'.functions, c ∈ h.functions ∨ c.ScopeIn Scope.Rooted) :
    h'.Upright :=
  upright.congr (upright.prints.supplies supplies) supplies.frames functions

end Upright

/-- Evaluation in the root keeps a heap upright. -/
theorem upheld_upright : Upheld Scope.Rooted fun h _ => h.Upright where
  bind {h o s name b span} upright free _ := upright.bind free b
  rebind upright found := upright.rebind found
  newArray _ upright := upright.congr (lasting_prints.newArray _ upright.prints) rfl fun _ => .inl
  newObject _ upright :=
    upright.congr (lasting_prints.newObject _ upright.prints) rfl fun _ => .inl
  newClosure {h o} f s rooted upright := by
    refine upright.congr (lasting_prints.newClosure f s upright.prints) rfl fun c inside => ?_
    refine (Array.mem_push.mp inside).imp_right ?_
    rintro rfl
    exact rooted
  setSlot {h o container key span s} v upright found :=
    upright.congr (lasting_prints.setSlot v upright.prints found) (frames_setSlot h s v)
      fun c inside => .inl (by cases s <;> exact inside)
  newEnclosed {h o outer} _ upright :=
    upright.keeps (lasting_prints.newEnclosed outer upright.prints)
      (fun _ _ => by rw [bindingIn?_newEnclosed]; exact id) fun _ => .inl
  emit _ upright := upright

/-- All evaluation on an upright heap is in the root, if it starts there. -/
theorem scoped_upright : Scoped Scope.Rooted fun h _ => h.Upright where
  inner h _ rooted := rooted.newEnclosed h
  callable {h o} upright ref := by
    rw [Array.getD_eq_getD_getElem?]
    cases found : h.functions[ref]? with
    | none => trivial
    | some c => exact upright.rooted c (Array.mem_of_getElem? found)

end Heap

/-! ## Lines -/

/-- The same lines as before, and maybe more behind them. -/
def Grown (before now : Array String) : Prop := ∃ lines, now = before ++ lines

theorem Grown.refl (o : Array String) : Grown o o := ⟨#[], by simp⟩

/-- Lines are added to lines. -/
theorem Grown.trans {o₁ o₂ o₃ : Array String} (first : Grown o₁ o₂) (second : Grown o₂ o₃) :
    Grown o₁ o₃ := by
  obtain ⟨lines, rfl⟩ := first
  obtain ⟨more, rfl⟩ := second
  exact ⟨lines ++ more, Array.append_assoc⟩

theorem upheld_grown (G : Scope → Prop) (before : Array String) :
    Upheld G fun _ o => Grown before o where
  bind grown _ _ := grown
  rebind grown _ := grown
  newArray _ grown := grown
  newObject _ grown := grown
  newClosure _ _ _ grown := grown
  setSlot _ grown _ := grown
  newEnclosed _ grown := grown
  emit line grown := grown.trans ⟨#[line], Array.push_eq_append⟩

/-- A task that may start adds lines behind the others, if any. -/
theorem grown_of_perform (fuel : Nat) {t : Task} {m : Machine} (admitted : t.Admits m.depth) :
    Grown m.output ((perform fuel t).after m).output :=
  (upheld_grown (fun _ => True) m.output).after_perform (scoped_true _) fuel admitted.admitsIn
    trivial (.refl _)

/-- A request keeps the lines that were printed before. -/
theorem Request.grown (r : Request) (fuel : Nat) (m : Machine) :
    Grown m.output ((r.serve (perform fuel)).after m).output :=
  (upheld_grown (fun _ => True) m.output).after_serve (scoped_true _) fuel r trivial (.refl _)

/-! ## Print statements -/

theorem query_of_ok {α : Type} {f : Heap → Scope → Except Halt α} {m : Machine} {a : α}
    (read : f m.heap m.scope = .ok a) : query f m = .ok a m := by
  unfold query
  rw [read]

/-- A print statement adds one line, the text of its value, and changes nothing else. -/
theorem execute_print {fuel : Nat} {e : Expr} {m m₁ : Machine} {v : Value} {text : String}
    (evaluated : (perform fuel).evaluate e m = .ok v m₁) (prints : m₁.heap.Prints)
    (shown : m₁.heap.display v = some text) (span : Span) :
    (perform (fuel + 1)).execute (.print e span) m =
      .ok (.normal .null) { m₁ with output := m₁.output.push text } := by
  match fuel with
  | 0 => cases evaluated
  | fuel + 1 =>
    have looked_up : lookupGlobal Builtin.print.name span m₁ = .ok (.function 0) m₁ :=
      query_of_ok (by rw [prints.lookup]; rfl)
    have found : callable 0 m₁ = .ok (.builtin .print) m₁ :=
      query_of_ok (by rw [Array.getD_eq_getD_getElem?, prints.builtin]; rfl)
    have displayed : display v m₁ = .ok text m₁ := query_of_ok (by rw [shown]; rfl)
    have emitted : callBuiltin .print [v] m₁ =
        .ok .null { m₁ with output := m₁.output.push text } := by
      have line : emitValue v m₁ = .ok () { m₁ with output := m₁.output.push text } :=
        bind_of_ok displayed _
      exact bind_of_ok (bind_of_ok line _) _
    have called : (perform (fuel + 1)).call (.function 0) [v] span m₁ =
        .ok .null { m₁ with output := m₁.output.push text } :=
      (bind_of_ok found _).trans emitted
    refine (bind_of_ok evaluated _).trans ?_
    exact (bind_of_ok looked_up _).trans (bind_of_ok called _)

/-! ## Sessions -/

/-- The machines that a session may come to if the host also declares and assigns names in
the root scope.  Functions that the host makes remember scopes in the root. -/
inductive Machine.LaterHosted (m : Machine) : Machine → Prop
  /-- Nothing happens. -/
  | refl : LaterHosted m m
  /-- A request is served, and gives a value or halts. -/
  | serve {m' : Machine} (fuel : Nat) (r : Request) : LaterHosted m m' →
      LaterHosted m ((r.serve (perform fuel)).after m')
  /-- The host declares a name, or fails to. -/
  | declare {m' : Machine} (name : String) (b : Binding) (span : Span) : LaterHosted m m' →
      LaterHosted m ((within Machine.globals (Action.declare name b span)).after m')
  /-- The host gives a name another value, or fails to. -/
  | assign {m' : Machine} (name : String) (v : Value) (span : Span) : LaterHosted m m' →
      LaterHosted m ((within Machine.globals (Action.assign name v span)).after m')
  /-- The host makes values. -/
  | supply {m' : Machine} {h : Heap} : LaterHosted m m' → m'.heap.Supplies h →
      (∀ c ∈ h.functions, c ∈ m'.heap.functions ∨ c.ScopeIn Scope.Rooted) →
      LaterHosted m { m' with heap := h }

/-- The machines that a session may come to with a host that declares and assigns names. -/
def Machine.Hosted (m : Machine) : Prop := Machine.initial.LaterHosted m

/-- The host declares a name only if that is possible. -/
theorem declare_within_globals (name : String) (b : Binding) (span : Span) (m : Machine) :
    (within Machine.globals (Action.declare name b span)).after m = m ∨
      m.heap.declareFault? Machine.globals name span = none ∧
        (within Machine.globals (Action.declare name b span)).after m =
          { m with heap := m.heap.bind Machine.globals.own name b } := by
  unfold after within Action.declare
  cases free : m.heap.declareFault? Machine.globals name span with
  | some e => exact .inl rfl
  | none => exact .inr ⟨rfl, rfl⟩

/-- The host assigns to a name only if that is possible. -/
theorem assign_within_globals (name : String) (v : Value) (span : Span) (m : Machine) :
    (within Machine.globals (Action.assign name v span)).after m = m ∨
      ∃ frame, m.heap.assignFrame Machine.globals name v span = .ok frame ∧
        (within Machine.globals (Action.assign name v span)).after m =
          { m with heap := m.heap.rebind frame name v } := by
  unfold after within Action.assign
  cases found : m.heap.assignFrame Machine.globals name v span with
  | error e => exact .inl rfl
  | ok frame => exact .inr ⟨frame, rfl, rfl⟩

namespace Machine

variable {m m' : Machine}

/-- What a session with a host keeps: the scope and the depth, and the lines printed. -/
structure Follows (m m' : Machine) : Prop where
  scope : m'.scope = m.scope
  depth : m'.depth = m.depth
  output : Grown m.output m'.output

theorem LaterHosted.follows (later : m.LaterHosted m') : m.Follows m' := by
  induction later with
  | refl => exact ⟨rfl, rfl, .refl _⟩
  | @serve m' fuel r _ ih =>
    obtain ⟨scope, depth⟩ := Request.restores fuel r m'
    exact ⟨scope.trans ih.scope, depth.trans ih.depth, ih.output.trans (r.grown fuel m')⟩
  | @declare m' name b span _ ih =>
    obtain failed | ⟨-, changed⟩ := declare_within_globals name b span m'
    · rwa [failed]
    · rw [changed]
      exact ⟨ih.scope, ih.depth, ih.output⟩
  | @assign m' name v span _ ih =>
    obtain failed | ⟨_, -, changed⟩ := assign_within_globals name v span m'
    · rwa [failed]
    · rw [changed]
      exact ⟨ih.scope, ih.depth, ih.output⟩
  | supply _ _ _ ih => exact ⟨ih.scope, ih.depth, ih.output⟩

theorem LaterHosted.upright (later : m.LaterHosted m') (rooted : m.scope.Rooted)
    (upright : m.heap.Upright) : m'.heap.Upright := by
  induction later with
  | refl => exact upright
  | @serve m' fuel r before ih =>
    have known : m'.scope.Rooted := before.follows.scope.symm ▸ rooted
    exact Heap.upheld_upright.after_serve Heap.scoped_upright fuel r known ih
  | @declare m' name b span _ ih =>
    obtain failed | ⟨free, changed⟩ := declare_within_globals name b span m'
    · rwa [failed]
    · rw [changed]
      exact ih.bind free b
  | @assign m' name v span _ ih =>
    obtain failed | ⟨_, found, changed⟩ := assign_within_globals name v span m'
    · rwa [failed]
    · rw [changed]
      exact ih.rebind found
  | supply _ supplies functions ih => exact ih.supplies supplies functions

end Machine

/-- In any session, also with a host that declares and assigns names, the root binds `print`
to the first function ever made as a constant, no other reserved word is bound anywhere, and
the current scope and all scopes that functions remember end in the root.  Between requests
and in the middle of them lines are only added behind those printed before.  A print statement
whose operand gives an acyclic value goes well at any depth.  It adds one line, the text that
the value then has. -/
theorem printing_stays_sound :
    (∀ m : Machine, m.Hosted →
      m.scope = Machine.globals ∧ m.depth = 0 ∧ m.scope.Rooted ∧ m.heap.Upright ∧
      (∀ m' : Machine, m.LaterHosted m' → Grown m.output m'.output) ∧
      ∀ (fuel : Nat) (r : Request) (t : Task) (m' : Machine), r.Meets fuel m t m' →
        m'.scope.Rooted ∧ m'.heap.Upright ∧ Grown m.output m'.output ∧
          Grown m'.output ((r.serve (perform fuel)).after m).output) ∧
    (∀ (fuel : Nat) (t : Task) (m : Machine), t.Admits m.depth →
      Grown m.output ((perform fuel t).after m).output) ∧
    ∀ (fuel : Nat) (e : Expr) (span : Span) (m m₁ : Machine) (v : Value), m.heap.Upright →
      (perform fuel).evaluate e m = .ok v m₁ → m₁.heap.Acyclic v →
      ∃ text, m₁.heap.display v = some text ∧
        (perform (fuel + 1)).execute (.print e span) m =
          .ok (.normal .null) { m₁ with output := m₁.output.push text } := by
  refine ⟨?_, fun fuel t m admitted => grown_of_perform fuel admitted, ?_⟩
  · intro m hosted
    obtain ⟨scope, depth, -⟩ := hosted.follows
    have outside : m.depth = 0 := depth
    have in_root : m.scope = Machine.globals := scope
    have rooted : m.scope.Rooted := in_root ▸ rfl
    have upright : m.heap.Upright := hosted.upright rfl Heap.upright_initial
    refine ⟨in_root, outside, rooted, upright, fun _ later => later.follows.output, ?_⟩
    intro fuel r t m' meets
    have room : m.depth ≤ maxDepth := outside ▸ Nat.zero_le maxDepth
    have kept := meets.keeps Heap.upheld_upright Heap.scoped_upright room rooted upright
    have before := meets.keeps (upheld_grown (fun _ => True) m.output) (scoped_true _) room
      trivial (.refl _)
    have behind := meets.upheld (Heap.lasting_true.upheld fun _ => True)
      (upheld_grown _ m'.output) (scoped_true _) room trivial trivial fun _ _ _ _ => .refl _
    exact ⟨kept.2.2.1, kept.2.2.2, before.2.2.2, behind⟩
  · intro fuel e span m m₁ v upright evaluated acyclic
    have L := Heap.lasting_prints.upheld fun _ => True
    have prints : m₁.heap.Prints := by
      have lasts := L.after_perform (t := .evaluate e) (scoped_true _) fuel trivial trivial
        upright.prints
      unfold Performer.evaluate at evaluated
      rwa [after, evaluated] at lasts
    obtain ⟨text, shown⟩ := Heap.exists_display_iff.mpr acyclic
    exact ⟨text, shown, execute_print evaluated prints shown span⟩

/-- The machine after a host has made a function and an array, has bound the array to `x`, and
has failed to assign to `print`. -/
def Machine.withArray : Machine :=
  let m := Machine.initial.withFunction default
  let m := { m with heap := (m.heap.newArray #[.null]).2 }
  let m := (within Machine.globals (Action.declare "x" ⟨.array 0, false, none⟩ default)).after m
  (within Machine.globals (Action.assign "print" .null default)).after m

/-- A host may build that machine. -/
theorem Machine.hosted_withArray : Machine.withArray.Hosted := by
  let m := Machine.initial.withFunction default
  have function : m.Hosted := by
    refine .supply .refl ⟨rfl, ⟨#[], rfl⟩, ⟨#[], rfl⟩, ⟨#[_], rfl⟩⟩ fun c inside => ?_
    refine (Array.mem_push.mp inside).imp_right ?_
    rintro rfl
    exact rfl
  have array : Machine.Hosted { m with heap := (m.heap.newArray #[.null]).2 } :=
    .supply function ⟨rfl, ⟨#[#[.null]], rfl⟩, ⟨#[], rfl⟩, ⟨#[], rfl⟩⟩ fun _ => .inl
  exact .assign "print" .null default (.declare "x" ⟨.array 0, false, none⟩ default array)

/-- In a call of the function, `print` is bound to null, and the statement prints the array all
the same. -/
theorem printing_stays_sound_hosted :
    ∃ (m m' m₁ : Machine) (text : String), m.Hosted ∧ m.heap.Upright ∧
      (Request.call (.function 1) [] default).Meets 3 m (.enter default m.scope [] default) m' ∧
      m'.depth = 1 ∧ m'.scope.Rooted ∧ m'.heap.Upright ∧
      (perform 2).evaluate (.identifier "x" default) m' = .ok (.array 0) m₁ ∧
      m₁.heap.Acyclic (.array 0) ∧ m₁.heap.display (.array 0) = some text ∧
      (perform 3).execute (.print (.identifier "x" default) default) m' =
        .ok (.normal .null) { m₁ with output := m₁.output.push text } ∧
      Grown m'.output
        ((perform 3 (.execute (.print (.identifier "x" default) default))).after m').output ∧
      m.LaterHosted m ∧ Grown m.output m.output := by
  let m := Machine.withArray
  let m' : Machine := { m with depth := 1 }
  have hosted : m.Hosted := Machine.hosted_withArray
  have meets : (Request.call (.function 1) [] default).Meets 3 m
      (.enter default m.scope [] default) m' :=
    Request.meets_enter rfl rfl (by decide) 2 default
  have evaluated : (perform 2).evaluate (.identifier "x" default) m' = .ok (.array 0) m' := rfl
  have null : m'.heap.Acyclic .null := Heap.acyclic_iff.mpr (by simp [Heap.inside])
  have acyclic : m'.heap.Acyclic (.array 0) := by
    refine Heap.acyclic_iff.mpr fun w inside => ?_
    obtain rfl : w = .null := List.mem_singleton.mp inside
    exact null
  obtain ⟨sessions, tasks, prints⟩ := printing_stays_sound
  obtain ⟨-, -, -, upright, later, met⟩ := sessions m hosted
  obtain ⟨rooted, upright', -, -⟩ := met 3 _ _ m' meets
  obtain ⟨text, shown, printed⟩ := prints 2 _ default m' m' _ upright' evaluated acyclic
  exact ⟨m, m', m', text, hosted, upright, meets, rfl, rooted, upright', evaluated, acyclic, shown,
    printed, tasks 3 _ m' trivial, .refl, later m .refl⟩

end Scriptlet
