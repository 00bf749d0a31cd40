import Scriptlet.Proofs.Eval.Detour
import Scriptlet.Proofs.Eval.Likeness
import Scriptlet.Tree.Lawful

/-!
# Disciplines

A *discipline* says what programs are made of, and which errors they may fail with
then.  Programs of a discipline keep the functions on the heap within it, fail as it
allows, and *declare* names where they say so: of the frames that are there already,
only the one of the current scope gets new names, and only such as the statement
declares (`Stmt.declares`).  Blocks, loops and calls run in new frames, so what is
declared inside of them is not seen (`Heap.Adds.enclosed`).

The main statement is `Discipline.step`: one level of evaluation takes performers
that keep to a discipline to such performers.  Two performers are compared, so that
a task which the discipline does not know may be performed in any other way
(`Discipline.detour`).  Hence all tasks that a run meets belong to the discipline
(`Discipline.meets`).
-/

open Scriptlet.Action Scriptlet.Evaluate

namespace Scriptlet

/-! ## Names of frames -/

namespace Heap

/-- The names that a frame binds, the newest first. -/
def namesIn (h : Heap) (frame : Nat) : List String := (h.bindings frame).map Prod.fst

/-- A heap with the frames of another one, and maybe more.  The frames of the other one bind
what they did, and one of them may bind more names. -/
structure Adds (own : Nat) (ns : List String) (h h' : Heap) : Prop where
  /-- No frame is removed. -/
  size : h.frames.size ≤ h'.frames.size
  /-- A frame keeps its names.  Only a given one gets more of them. -/
  names : ∀ frame < h.frames.size, ∃ new, h'.namesIn frame = new ++ h.namesIn frame ∧
    ∀ n ∈ new, frame = own ∧ n ∈ ns

namespace Adds

variable {own : Nat} {ns : List String} {h h' : Heap}

/-- Where the names of the old frames are the same, none was declared. -/
theorem of_names (size : h.frames.size ≤ h'.frames.size)
    (names : ∀ frame < h.frames.size, h'.namesIn frame = h.namesIn frame) : h.Adds own ns h' :=
  ⟨size, fun frame inside => ⟨[], names frame inside, nofun⟩⟩

/-- What leaves the frames alone declares nothing. -/
theorem of_frames (same : h'.frames = h.frames) : h.Adds own ns h' :=
  of_names (Nat.le_of_eq (congrArg Array.size same.symm)) fun frame _ => by
    simp only [namesIn, bindings, same]

theorem refl (own : Nat) (ns : List String) (h : Heap) : h.Adds own ns h := of_frames rfl

/-- What two steps declare is declared by both together. -/
theorem trans {h'' : Heap} (first : h.Adds own ns h') (second : h'.Adds own ns h'') :
    h.Adds own ns h'' := by
  refine ⟨Nat.le_trans first.size second.size, fun frame inside => ?_⟩
  obtain ⟨new, grown, allowed⟩ := first.names frame inside
  obtain ⟨new', grown', allowed'⟩ :=
    second.names frame (Nat.lt_of_lt_of_le inside first.size)
  refine ⟨new' ++ new, by rw [grown', grown, List.append_assoc], fun n added => ?_⟩
  exact (List.mem_append.mp added).elim (allowed' n) (allowed n)

theorem mono {ns' : List String} (adds : h.Adds own ns h') (more : ∀ n ∈ ns, n ∈ ns') :
    h.Adds own ns' h' := by
  refine ⟨adds.size, fun frame inside => ?_⟩
  obtain ⟨new, grown, allowed⟩ := adds.names frame inside
  exact ⟨new, grown, fun n added => (allowed n added).imp_right (more n)⟩

/-- If no name may be added, the frames bind the same names as before. -/
theorem namesIn_eq (adds : h.Adds own [] h') {frame : Nat} (inside : frame < h.frames.size) :
    h'.namesIn frame = h.namesIn frame := by
  obtain ⟨new, grown, allowed⟩ := adds.names frame inside
  cases new with
  | nil => exact grown
  | cons n _ => cases (allowed n (.head _)).2

/-- A declaration adds its name. -/
theorem bind (h : Heap) (own : Nat) {name : String} (b : Binding) (declared : name ∈ ns) :
    h.Adds own ns (h.bind own name b) := by
  refine ⟨by simp [Heap.bind], fun frame inside => ?_⟩
  simp only [namesIn, Heap.bind, bindings_modify]
  split
  next here => exact ⟨[name], rfl, by simpa using ⟨here.1, declared⟩⟩
  next => exact ⟨[], rfl, fun n added => absurd added List.not_mem_nil⟩

/-- An assignment adds no name. -/
theorem rebind (h : Heap) (frame : Nat) (name : String) (v : Value) :
    h.Adds own ns (h.rebind frame name v) := by
  refine of_names (by simp [Heap.rebind]) fun other _ => ?_
  simp only [namesIn, Heap.rebind, bindings_modify]
  split
  next => simp [Frame.set, Function.comp_def]
  next => rfl

/-- What is declared in a new scope is not seen outside. -/
theorem enclosed (outer : Scope) {ns' : List String}
    (adds : (h.newEnclosed outer).2.Adds h.frames.size ns' h') : h.Adds own ns h' := by
  have size : (h.newEnclosed outer).2.frames.size = h.frames.size + 1 := by
    simp [newEnclosed, newFrame]
  refine of_names (by have := adds.size; omega) fun frame inside => ?_
  obtain ⟨new, grown, allowed⟩ := adds.names frame (by omega)
  have kept : (h.newEnclosed outer).2.namesIn frame = h.namesIn frame := by
    have old := bindings_newFrame h [] frame
    rw [if_neg (Nat.ne_of_lt inside)] at old
    exact congrArg (List.map Prod.fst) old
  cases new with
  | nil => exact grown.trans kept
  | cons n _ => exact absurd (allowed n (.head _)).1 (Nat.ne_of_lt inside)

end Adds

end Heap

/-! ## Disciplines -/

/-- Whether an error is not one of those that a lawful program never fails with. -/
def Fault.isPlain : Fault → Bool
  | .reserved _ _ | .type .target _ | .type .control _ => false
  | _ => true

/-- A check of types fails with a plain error. -/
theorem isPlain_of_checkType {name : String} {type : Option TypeName} {v : Value} {span : Span}
    {f : Fault} (failed : checkType name type v span = .error f) : f.isPlain = true := by
  unfold checkType at failed
  grind [Fault.isPlain]

namespace Heap

variable {h : Heap} {s : Scope} {name : String} {span : Span}

theorem isPlain_of_lookup {f : Fault} (failed : h.lookup s name span = .error f) :
    f.isPlain = true := by
  unfold lookup at failed
  grind [Fault.isPlain]

theorem isPlain_of_assignFrame {v : Value} {f : Fault}
    (failed : h.assignFrame s name v span = .error f) : f.isPlain = true := by
  unfold assignFrame at failed
  grind [Fault.isPlain, isPlain_of_checkType]

/-- Asking for a slot fails with a plain error, if with an error at all. -/
theorem isPlain_of_slot {container key : Value} {f : Fault}
    (failed : h.slot container key span = .error (.fault f)) : f.isPlain = true := by
  unfold slot at failed
  grind [Fault.isPlain]

/-- An operator fails with a plain error, if with an error at all. -/
theorem isPlain_of_applyBinary {op : BinaryOp} {left right : Value} {f : Fault}
    (failed : h.applyBinary op left right span = .error (.fault f)) : f.isPlain = true := by
  unfold applyBinary at failed
  grind [Fault.isPlain]

end Heap

/-- What programs are made of, and how they may fail. -/
structure Discipline where
  /-- The expressions. -/
  expr : Expr → Prop
  /-- The statements. -/
  stmt : Stmt → Prop
  /-- The functions. -/
  function : Function → Prop
  /-- The names that are declared. -/
  name : String → Prop
  /-- The errors that may occur. -/
  fails : Fault → Prop
  expr_parts : ∀ {e : Expr}, expr e → e.Parts expr function
  stmt_parts : ∀ {s : Stmt}, stmt s → s.Parts expr function stmt
  body : ∀ {f : Function}, function f → ∀ s ∈ f.body, stmt s
  declares : ∀ {s : Stmt}, stmt s → ∀ n ∈ s.declares, name n
  params : ∀ {f : Function}, function f → ∀ p ∈ f.params, name p.name
  /-- All errors may occur but for some. -/
  plain : ∀ {f : Fault}, f.isPlain = true → fails f
  /-- The error of a reserved word may occur if such a word is declared. -/
  reserved : ∀ {n : String} (span : Span), name n → Keyword.isReserved n = true →
    fails (.reserved n span)
  /-- The error of a wrong target may occur if there is an assignment to one. -/
  target : ∀ {op : AssignOp} {t v : Expr} {span : Span}, expr (.assign op t v span) →
    t.isAssignable = false → fails (.type .target t.span)

namespace Discipline

/-- The discipline of all programs. -/
def free : Discipline where
  expr _ := True
  stmt _ := True
  function _ := True
  name _ := True
  fails _ := True
  expr_parts {e} _ := by cases e <;> simp [Expr.Parts]
  stmt_parts {s} _ := by cases s <;> simp [Stmt.Parts]
  body _ _ _ := trivial
  declares _ _ _ := trivial
  params _ _ _ := trivial
  plain _ := trivial
  reserved _ _ _ := trivial
  target _ _ := trivial

variable (D : Discipline)

/-- All functions on a heap belong to a discipline. -/
def Holds (h : Heap) : Prop := ∀ f s, .closure f s ∈ h.functions → D.function f

/-- A task belongs to a discipline. -/
def task : Task → Prop
  | .evaluate e => D.expr e
  | .call _ _ _ => True
  | .enter f _ _ _ => D.function f
  | .execute s => D.stmt s
  | .rounds c update body => (∀ e ∈ c, D.expr e) ∧ (∀ e ∈ update, D.expr e) ∧ D.stmt body

/-- What an action leaves of a machine: the scope is the same, the functions belong to the
discipline, and some names may have been declared. -/
structure Kept (ns : List String) (m m' : Machine) : Prop where
  scope : m'.scope = m.scope
  holds : D.Holds m'.heap
  adds : m.heap.Adds m.scope.own ns m'.heap

/-- An outcome that a discipline allows on a machine. -/
inductive Allows (ns : List String) (m : Machine) {α : Type} :
    EStateM.Result Halt Machine α → Prop
  | ok {v : α} {m' : Machine} : D.Kept ns m m' → Allows ns m (.ok v m')
  | error {e : Halt} {m' : Machine} :
    (∀ f, e = .fault f → D.fails f) → D.Kept ns m m' → Allows ns m (.error e m')

/-- Two actions with the same outcome on each machine of a discipline, one that it allows. -/
def Keeps (ns : List String) {α : Type} (a b : Action α) : Prop :=
  ∀ m : Machine, D.Holds m.heap → a m = b m ∧ D.Allows ns m (b m)

end Discipline

/-- The names that a task can declare in the scope that it starts in. -/
def Task.declares : Task → List String
  | .evaluate _ | .call _ _ _ | .enter _ _ _ _ => []
  | .execute s => s.declares
  | .rounds _ _ body => body.declares

/-- Two performers that keep to a discipline together. -/
def Performer.Keeps (D : Discipline) (p q : Performer) : Prop :=
  ∀ t : Task, D.task t → D.Keeps t.declares (p t) (q t)

namespace Discipline

variable {D : Discipline} {ns : List String} {α β : Type}

/-! ## Single steps of the machine -/

theorem Kept.trans {m m' m'' : Machine} (first : D.Kept ns m m') (second : D.Kept ns m' m'') :
    D.Kept ns m m'' where
  scope := second.scope.trans first.scope
  holds := second.holds
  adds := first.adds.trans (first.scope ▸ second.adds)

/-- More names may be declared than were. -/
theorem Kept.mono {ns' : List String} {m m' : Machine} (kept : D.Kept ns m m')
    (more : ∀ n ∈ ns, n ∈ ns') : D.Kept ns' m m' :=
  ⟨kept.scope, kept.holds, kept.adds.mono more⟩

/-- A heap with the same frames and the same functions. -/
theorem Kept.of_heap {m : Machine} (holds : D.Holds m.heap) {h : Heap} {output : Array String}
    (frames : h.frames = m.heap.frames) (functions : h.functions = m.heap.functions) :
    D.Kept ns m { m with heap := h, output := output } where
  scope := rfl
  holds f s inside := holds f s (functions ▸ inside)
  adds := .of_frames frames

theorem Allows.mono {ns' : List String} {m : Machine} {outcome : EStateM.Result Halt Machine α}
    (allows : D.Allows ns m outcome) (more : ∀ n ∈ ns, n ∈ ns') : D.Allows ns' m outcome := by
  cases allows with
  | ok kept => exact .ok (kept.mono more)
  | error fails kept => exact .error fails (kept.mono more)

/-- An error that may occur, and changes nothing. -/
theorem Allows.fault {m : Machine} (holds : D.Holds m.heap) {f : Fault} (fails : D.fails f) :
    D.Allows ns m (.error (.fault f) m : EStateM.Result Halt Machine α) := by
  refine .error ?_ (.of_heap holds rfl rfl)
  rintro _ ⟨⟩
  exact fails

namespace Keeps

/-- Reading the heap and the scope changes nothing. -/
theorem query {f : Heap → Scope → Except Halt α}
    (fails : ∀ h s e, f h s = .error (.fault e) → D.fails e) :
    D.Keeps ns (Action.query f) (Action.query f) := by
  intro m holds
  refine ⟨rfl, ?_⟩
  unfold Action.query
  cases outcome : f m.heap m.scope with
  | ok v => exact .ok (.of_heap holds rfl rfl)
  | error e =>
    refine .error (fun g same => ?_) (.of_heap holds rfl rfl)
    exact fails _ _ g (same ▸ outcome)

theorem pure (v : α) : D.Keeps ns (Pure.pure v) (Pure.pure v) :=
  fun _ holds => ⟨rfl, .ok (.of_heap holds rfl rfl)⟩

theorem endless : D.Keeps ns (throw .endless : Action α) (throw .endless) :=
  fun _ holds => ⟨rfl, .error nofun (.of_heap holds rfl rfl)⟩

/-- An error that may occur. -/
theorem fail {f : Fault} (fails : D.fails f) :
    D.Keeps ns (Action.fail f : Action α) (Action.fail f) :=
  fun _ holds => ⟨rfl, .fault holds fails⟩

theorem fail_plain (f : Fault) (plain : f.isPlain = true) :
    D.Keeps ns (Action.fail f : Action α) (Action.fail f) :=
  fail (D.plain plain)

/-- One action after another.  Neither leaves the discipline. -/
theorem bind {a b : Action α} {f g : α → Action β} (first : D.Keeps ns a b)
    (second : ∀ v, D.Keeps ns (f v) (g v)) : D.Keeps ns (a >>= f) (b >>= g) := by
  intro m holds
  obtain ⟨same, allows⟩ := first m holds
  cases outcome : b m with
  | error e m' =>
    rw [outcome] at same allows
    rw [bind_of_error outcome g, bind_of_error same f]
    cases allows with
    | error fails kept => exact ⟨rfl, .error fails kept⟩
  | ok v m' =>
    rw [outcome] at same allows
    rw [bind_of_ok outcome g, bind_of_ok same f]
    cases allows with
    | ok kept =>
      obtain ⟨same', allows'⟩ := second v m' kept.holds
      refine ⟨same', ?_⟩
      revert allows'
      generalize g v m' = outcome'
      intro allows'
      cases allows' with
      | ok kept' => exact .ok (kept.trans kept')
      | error fails kept' => exact .error fails (kept.trans kept')

theorem mono {ns' : List String} {a b : Action α} (h : D.Keeps ns a b)
    (more : ∀ n ∈ ns, n ∈ ns') : D.Keeps ns' a b :=
  fun m holds => (h m holds).imp_right fun allows => allows.mono more

/-- An action that declares nothing. -/
theorem quiet {a b : Action α} (h : D.Keeps [] a b) : D.Keeps ns a b :=
  h.mono nofun

/-- A declaration adds its name to the scope it is made in, and that name belongs to the
discipline. -/
theorem declare {name : String} (b : Binding) (span : Span) (known : D.name name)
    (declared : name ∈ ns) :
    D.Keeps ns (Action.declare name b span) (Action.declare name b span) := by
  intro m holds
  refine ⟨rfl, ?_⟩
  unfold Action.declare
  cases free : m.heap.declareFault? m.scope name span with
  | none => exact .ok ⟨rfl, holds, .bind m.heap m.scope.own b declared⟩
  | some e =>
    refine .fault holds ?_
    simp only [Heap.declareFault?] at free
    split at free
    next reserved =>
      cases free
      exact D.reserved span known reserved
    next =>
      split at free
      next =>
        cases free
        exact D.plain rfl
      next => cases free

/-- An assignment adds no name. -/
theorem assign (name : String) (v : Value) (span : Span) :
    D.Keeps ns (Action.assign name v span) (Action.assign name v span) := by
  intro m holds
  refine ⟨rfl, ?_⟩
  unfold Action.assign
  cases found : m.heap.assignFrame m.scope name v span with
  | ok frame => exact .ok ⟨rfl, holds, .rebind m.heap frame name v⟩
  | error e =>
    exact .fault holds (D.plain (Heap.isPlain_of_assignFrame found))

theorem newArray (elements : Array Value) :
    D.Keeps ns (Action.newArray elements) (Action.newArray elements) :=
  fun _ holds => ⟨rfl, .ok (.of_heap holds rfl rfl)⟩

theorem newObject (ps : Properties) : D.Keeps ns (Action.newObject ps) (Action.newObject ps) :=
  fun _ holds => ⟨rfl, .ok (.of_heap holds rfl rfl)⟩

theorem emit (line : String) : D.Keeps ns (Action.emit line) (Action.emit line) :=
  fun _ holds => ⟨rfl, .ok (.of_heap holds rfl rfl)⟩

/-- A function that is made belongs to the discipline, so all functions still do. -/
theorem newClosure {f : Function} (known : D.function f) :
    D.Keeps ns (Action.newClosure f) (Action.newClosure f) := by
  intro m holds
  refine ⟨rfl, .ok ⟨rfl, fun g s inside => ?_, .of_frames rfl⟩⟩
  obtain old | new := Array.mem_push.mp inside
  · exact holds g s old
  · cases new
    exact known

/-- A write changes no frame and no function. -/
theorem writeSlot (container key v : Value) (span : Span) :
    D.Keeps ns (Action.writeSlot container key v span)
      (Action.writeSlot container key v span) := by
  intro m holds
  refine ⟨rfl, ?_⟩
  unfold Action.writeSlot
  cases found : m.heap.slot container key span with
  | ok s => cases s <;> exact .ok (.of_heap holds rfl rfl)
  | error e =>
    refine .error (fun f same => D.plain ?_) (.of_heap holds rfl rfl)
    exact Heap.isPlain_of_slot (same ▸ found)

/-- What a function value stands for belongs to the discipline. -/
theorem callable {ref : Nat} {f g : Callable → Action α}
    (builtin : ∀ b, D.Keeps ns (f (.builtin b)) (g (.builtin b)))
    (closure : ∀ c s, D.function c → D.Keeps ns (f (.closure c s)) (g (.closure c s))) :
    D.Keeps ns (Action.callable ref >>= f) (Action.callable ref >>= g) := by
  intro m holds
  change f (m.heap.functions.getD ref default) m = g (m.heap.functions.getD ref default) m ∧
    D.Allows ns m (g (m.heap.functions.getD ref default) m)
  cases found : m.heap.functions.getD ref default with
  | builtin b => exact builtin b m holds
  | closure c s =>
    refine closure c s (holds c s ?_) m holds
    rw [Array.getD_eq_getD_getElem?] at found
    cases there : m.heap.functions[ref]? with
    | none =>
      rw [there] at found
      cases found
    | some c' =>
      rw [there] at found
      cases found
      exact Array.mem_of_getElem? there

/-- Acting in a new scope declares nothing outside of it. -/
theorem enclosed {ns' : List String} (outer : Scope) {a b : Action α} (h : D.Keeps ns' a b) :
    D.Keeps ns (Action.enclosed outer a) (Action.enclosed outer b) := by
  intro m holds
  obtain ⟨same, allows⟩ := h (m.opened outer) holds
  rw [enclosed_eq, enclosed_eq, same]
  refine ⟨rfl, ?_⟩
  revert allows
  generalize b _ = outcome
  intro allows
  cases allows with
  | ok kept => exact .ok ⟨rfl, kept.holds, .enclosed outer kept.adds⟩
  | error fails kept => exact .error fails ⟨rfl, kept.holds, .enclosed outer kept.adds⟩

/-- Acting one call deeper. -/
theorem nested (span : Span) {a b : Action α} (h : D.Keeps ns a b) :
    D.Keeps ns (Action.nested span a) (Action.nested span b) := by
  intro m holds
  unfold Action.nested
  split
  next => exact ⟨rfl, .fault holds (D.plain rfl)⟩
  next =>
    obtain ⟨same, allows⟩ := h { m with depth := m.depth + 1 } holds
    unfold deeper
    rw [same]
    refine ⟨rfl, ?_⟩
    revert allows
    generalize b _ = outcome
    intro allows
    cases allows with
    | ok kept => exact .ok ⟨kept.scope, kept.holds, kept.adds⟩
    | error fails kept => exact .error fails ⟨kept.scope, kept.holds, kept.adds⟩

/-! ## Steps without evaluation -/

/-- Reading something that is there or fails with a plain error. -/
theorem ofExcept {f : Heap → Scope → Except Fault α}
    (plain : ∀ {h s e}, f h s = .error e → e.isPlain = true) :
    D.Keeps ns (Action.query fun h s => Halt.ofExcept (f h s))
      (Action.query fun h s => Halt.ofExcept (f h s)) := by
  refine query fun h s e failed => D.plain ?_
  cases outcome : f h s with
  | ok v =>
    rw [outcome] at failed
    cases failed
  | error e' =>
    rw [outcome] at failed
    cases failed
    exact plain outcome

/-- Reading something that takes for ever or is there. -/
theorem ofOption {f : Heap → Scope → Option α} :
    D.Keeps ns (Action.query fun h s => Halt.ofOption (f h s))
      (Action.query fun h s => Halt.ofOption (f h s)) := by
  refine query fun h s e failed => ?_
  cases outcome : f h s with
  | some v =>
    rw [outcome] at failed
    cases failed
  | none =>
    rw [outcome] at failed
    cases failed

theorem lookup (name : String) (span : Span) :
    D.Keeps ns (Action.lookup name span) (Action.lookup name span) :=
  ofExcept Heap.isPlain_of_lookup

theorem applyBinary (op : BinaryOp) (left right : Value) (span : Span) :
    D.Keeps ns (Action.applyBinary op left right span)
      (Action.applyBinary op left right span) :=
  query fun _ _ _ failed => D.plain (Heap.isPlain_of_applyBinary failed)

theorem emitValue (v : Value) : D.Keeps ns (Action.emitValue v) (Action.emitValue v) :=
  .bind ofOption fun text => .emit text

/-- A step reads a name and assigns to it. -/
theorem count (op : StepOp) (operand : Expr) (inFront : Bool) (span : Span) :
    D.Keeps ns (Evaluate.count op operand inFront span)
      (Evaluate.count op operand inFront span) := by
  cases operand with
  | identifier name s =>
    refine .bind (.lookup name s) fun v => ?_
    cases v with
    | number => exact .bind (.assign name _ span) fun _ => .pure _
    | string | boolean | null | array | object | function => exact .fail_plain _ rfl
  | number | string | boolean | null | group | array | object | function | member | index
  | call | unary | stepAfter | binary | conditional | assign => exact .fail_plain _ rfl

/-- What an assignment stores is worked out without a change. -/
theorem combine (op : AssignOp) (old : Option Value) (v : Value) (span : Span) :
    D.Keeps ns (Evaluate.combine op old v span) (Evaluate.combine op old v span) := by
  unfold Evaluate.combine
  split
  next => exact .applyBinary _ _ v span
  next => exact .pure _

theorem current (op : AssignOp) {read : Action Value} (h : D.Keeps ns read read) :
    D.Keeps ns (Evaluate.current op read) (Evaluate.current op read) := by
  unfold Evaluate.current
  split
  next => exact .bind h fun _ => .pure _
  next => exact .pure _

/-- The initial value is checked before the name is declared. -/
theorem declareChecked {name : String} (b : Binding) (valueSpan nameSpan : Span)
    (known : D.name name) (declared : name ∈ ns) :
    D.Keeps ns (Evaluate.declareChecked name b valueSpan nameSpan)
      (Evaluate.declareChecked name b valueSpan nameSpan) := by
  refine .bind (ofExcept fun failed => ?_) fun _ => .declare b nameSpan known declared
  exact isPlain_of_checkType failed

/-- A variable takes its type from its initial value, if it has none of its own. -/
theorem declareVariable {name : String} (type : Option TypeName) (v : Value) (span : Span)
    (known : D.name name) (declared : name ∈ ns) :
    D.Keeps ns (Evaluate.declareVariable name type v span)
      (Evaluate.declareVariable name type v span) := by
  unfold Evaluate.declareVariable
  split
  next => exact .declare _ span known declared
  next => exact .declareChecked _ span span known declared

/-- A function without a name declares nothing. -/
theorem declareFunction {name : Option String} (v : Value) (span : Span)
    (known : ∀ n ∈ name, D.name n) :
    D.Keeps name.toList (Evaluate.declareFunction name v span)
      (Evaluate.declareFunction name v span) := by
  cases name with
  | none => exact .pure ()
  | some name => exact .declare _ span (known name rfl) (.head _)

/-- The parameters are declared in front of the body, one after another. -/
theorem bindParams (span : Span) : ∀ {ps : List Param}, (∀ p ∈ ps, D.name p.name) →
    ∀ vs : List Value, D.Keeps (ps.map Param.name) (Evaluate.bindParams span ps vs)
      (Evaluate.bindParams span ps vs)
  | [], _, _ => .pure ()
  | _ :: _, _, [] => .pure ()
  | p :: ps, known, v :: vs => by
    rw [Evaluate.bindParams]
    refine .bind (.declareChecked _ span p.span (known p (.head _)) (.head _)) fun _ => ?_
    refine (bindParams span (fun p inside => known p (.tail _ inside)) vs).mono ?_
    exact fun n => List.mem_cons_of_mem _

/-- A signal that comes out of a body is an error unless it returns. -/
theorem resultOf (span : Span) (flow : Flow) :
    D.Keeps ns (Evaluate.resultOf span flow) (Evaluate.resultOf span flow) := by
  cases flow with
  | normal | return_ => exact .pure _
  | break_ | continue_ => exact .fail_plain _ rfl

theorem checkResult (f : Function) (v : Value) (span : Span) :
    D.Keeps ns (Evaluate.checkResult f v span) (Evaluate.checkResult f v span) := by
  unfold Evaluate.checkResult
  split
  next => exact .pure v
  next =>
    split
    next => exact .pure v
    next => exact .fail_plain _ rfl

theorem emitValues : ∀ vs : List Value,
    D.Keeps ns (vs.forM Action.emitValue) (vs.forM Action.emitValue)
  | [] => .pure ()
  | v :: vs => .bind (.emitValue v) fun _ => emitValues vs

/-- A function of the language prints its arguments or counts them. -/
theorem callBuiltin (b : Builtin) (args : List Value) :
    D.Keeps ns (Evaluate.callBuiltin b args) (Evaluate.callBuiltin b args) := by
  cases b with
  | print => exact .bind (.emitValues args) fun _ => .pure _

/-! ## One step -/

section

variable {p q : Performer} (related : p.Keeps D q)

include related

/-- The parts of an expression declare nothing. -/
theorem evaluate {e : Expr} (known : D.expr e) : D.Keeps ns (p.evaluate e) (q.evaluate e) :=
  (related (.evaluate e) known).quiet

theorem values : ∀ {es : List Expr}, (∀ e ∈ es, D.expr e) →
    D.Keeps ns (Evaluate.values p es) (Evaluate.values q es)
  | [], _ => .pure []
  | e :: _, known =>
    .bind (evaluate related (known e (.head _))) fun _ =>
      .bind (values fun e inside => known e (.tail _ inside)) fun _ => .pure _

theorem properties : ∀ {ps : List (String × Expr)}, (∀ p ∈ ps, D.expr p.2) →
    ∀ before : Properties,
      D.Keeps ns (Evaluate.properties p before ps) (Evaluate.properties q before ps)
  | [], _, before => .pure before
  | (_, e) :: _, known, _ =>
    .bind (evaluate related (known (_, e) (.head _))) fun _ =>
      properties (fun e inside => known e (.tail _ inside)) _

theorem assignSlot (op : AssignOp) (container key : Value) {value : Expr}
    (known : D.expr value) (span : Span) :
    D.Keeps ns (Evaluate.assignSlot p op container key value span)
      (Evaluate.assignSlot q op container key value span) := by
  refine .bind (.current op ofOption) fun old => ?_
  refine .bind (evaluate related known) fun v => ?_
  refine .bind (.combine op old v span) fun new => ?_
  exact .bind (.writeSlot container key new span) fun _ => .pure new

/-- An assignment to anything else than a target fails, and such a one must be in the program. -/
theorem assignTo {op : AssignOp} {target value : Expr} {span : Span}
    (known : D.expr (.assign op target value span)) :
    D.Keeps ns (Evaluate.assignTo p op target value span)
      (Evaluate.assignTo q op target value span) := by
  obtain ⟨known_target, known_value⟩ := D.expr_parts known
  cases target with
  | identifier name s =>
    refine .bind (.current op (.lookup name s)) fun old => ?_
    refine .bind (evaluate related known_value) fun v => ?_
    refine .bind (.combine op old v span) fun new => ?_
    exact .bind (.assign name new span) fun _ => .pure new
  | member o property s =>
    refine .bind (evaluate related (D.expr_parts known_target)) fun container => ?_
    exact assignSlot related op container (.string property) known_value span
  | index o k s =>
    obtain ⟨known_o, known_k⟩ := D.expr_parts known_target
    refine .bind (evaluate related known_o) fun container => ?_
    refine .bind (evaluate related known_k) fun key => ?_
    exact assignSlot related op container key known_value span
  | number | string | boolean | null | group | array | object | function | call | unary
  | stepAfter | binary | conditional | assign => exact .fail (D.target known rfl)

theorem binary (op : BinaryOp) {l r : Expr} (known_l : D.expr l) (known_r : D.expr r)
    (s : Span) :
    D.Keeps ns (Evaluate.expression p (.binary op l r s))
      (Evaluate.expression q (.binary op l r s)) := by
  have strict : D.Keeps ns
      (p.evaluate l >>= fun v => p.evaluate r >>= fun w => Action.applyBinary op v w s)
      (q.evaluate l >>= fun v => q.evaluate r >>= fun w => Action.applyBinary op v w s) :=
    .bind (evaluate related known_l) fun _ =>
      .bind (evaluate related known_r) fun _ => .applyBinary op _ _ s
  cases op with
  | and =>
    refine .bind (evaluate related known_l) fun v => ?_
    split
    next => exact evaluate related known_r
    next => exact .pure v
  | or =>
    refine .bind (evaluate related known_l) fun v => ?_
    split
    next => exact .pure v
    next => exact evaluate related known_r
  | add | sub | mul | div | rem | eq | ne | lt | le | gt | ge => exact strict

/-- One step of an expression.  What a discipline says of it holds of its parts. -/
theorem expression {e : Expr} (known : D.expr e) :
    D.Keeps ns (Evaluate.expression p e) (Evaluate.expression q e) := by
  have parts := D.expr_parts known
  cases e with
  | number | string | boolean | null => exact .pure _
  | identifier name s => exact .lookup name s
  | group => exact evaluate related parts
  | array => exact .bind (values related parts) fun _ => .newArray _
  | object => exact .bind (properties related parts []) fun _ => .newObject _
  | function => exact .newClosure parts
  | member => exact .bind (evaluate related parts) fun _ => ofOption
  | index =>
    refine .bind (evaluate related parts.1) fun _ => ?_
    exact .bind (evaluate related parts.2) fun _ => ofOption
  | call c args s =>
    refine .bind (evaluate related parts.1) fun callee => ?_
    refine .bind (values related parts.2) fun vs => ?_
    exact (related (.call callee vs s) trivial).quiet
  | unary op x s =>
    cases op with
    | negate =>
      refine .bind (evaluate related parts) fun v => ?_
      cases v with
      | number => exact .pure _
      | string | boolean | null | array | object | function => exact .fail_plain _ rfl
    | not => exact .bind (evaluate related parts) fun _ => .pure _
    | step op => exact .count op x true s
  | stepAfter op x s => exact .count op x false s
  | binary op l r s => exact binary related op parts.1 parts.2 s
  | conditional =>
    refine .bind (evaluate related parts.1) fun v => ?_
    split
    next => exact evaluate related parts.2.1
    next => exact evaluate related parts.2.2
  | assign => exact assignTo related known

/-- A call acts in the scope of the function and leaves the one of the caller. -/
theorem invoke (callee : Value) (args : List Value) (span : Span) :
    D.Keeps ns (Evaluate.invoke p callee args span) (Evaluate.invoke q callee args span) := by
  cases callee with
  | function ref =>
    refine .callable (fun b => ?_) fun f s known => ?_
    · split
      next => exact .fail_plain _ rfl
      next => exact .callBuiltin b args
    · split
      next => exact .fail_plain _ rfl
      next => exact .nested span (related (.enter f s args span) known).quiet
  | number | string | boolean | null | array | object => exact .fail_plain _ rfl

/-- Statements in order declare what one of them declares. -/
theorem sequence : ∀ {ss : List Stmt}, (∀ s ∈ ss, D.stmt s) →
    D.Keeps (allDeclare ss) (Evaluate.sequence p ss) (Evaluate.sequence q ss)
  | [], _ => .pure _
  | s :: rest, known => by
    refine .bind ((related (.execute s) (known s (.head _))).mono ?_) fun flow => ?_
    · exact fun n => List.mem_append_left _
    · cases flow with
      | normal =>
        refine (sequence fun s inside => known s (.tail _ inside)).mono ?_
        exact fun n => List.mem_append_right _
      | break_ | continue_ | return_ => exact .pure _

/-- The body of a function declares its parameters and more, all in a new frame. -/
theorem body {f : Function} (known : D.function f) (s : Scope) (args : List Value)
    (span : Span) :
    D.Keeps ns (Evaluate.body p f s args span) (Evaluate.body q f s args span) := by
  have inner : D.Keeps (f.params.map Param.name ++ allDeclare f.body)
      (Evaluate.bindParams span f.params args >>= fun _ => Evaluate.sequence p f.body)
      (Evaluate.bindParams span f.params args >>= fun _ => Evaluate.sequence q f.body) := by
    refine .bind ((bindParams span (D.params known) args).mono ?_) fun _ =>
      (sequence related (D.body known)).mono ?_
    · exact fun n => List.mem_append_left _
    · exact fun n => List.mem_append_right _
  refine .bind (.enclosed s inner) fun flow => ?_
  exact .bind (.resultOf span flow) fun v => .checkResult f v span

theorem optional (missing : Value) {e : Option Expr} (known : ∀ x ∈ e, D.expr x) :
    D.Keeps ns (Evaluate.optional p missing e) (Evaluate.optional q missing e) := by
  cases e with
  | none => exact .pure missing
  | some e => exact evaluate related (known e rfl)

theorem prepare {s : Option Stmt} (known : ∀ x ∈ s, D.stmt x) :
    D.Keeps (statementDeclares s) (Evaluate.prepare p s) (Evaluate.prepare q s) := by
  cases s with
  | none => exact .pure ()
  | some s => exact .bind (related (.execute s) (known s rfl)) fun _ => .pure ()

/-- One step of a statement, which declares what is written in it in the current scope. -/
theorem statement {s : Stmt} (known : D.stmt s) :
    D.Keeps s.declares (Evaluate.statement p s) (Evaluate.statement q s) := by
  have parts := D.stmt_parts known
  have names := D.declares known
  have scope : ∀ {ns}, D.Keeps ns Action.scope Action.scope := query nofun
  cases s with
  | block => exact .bind scope fun outer => .enclosed outer (sequence related parts)
  | declare word name type init span =>
    refine .bind (optional related .null parts) fun v => ?_
    have known_name := names name (.head _)
    exact .bind (.declareVariable type v span known_name (.head _)) fun _ => .pure _
  | constant name type init span =>
    refine .bind (evaluate related parts) fun v => ?_
    have known_name := names name (.head _)
    exact .bind (.declareChecked _ span span known_name (.head _)) fun _ => .pure _
  | expr => exact .bind (evaluate related parts) fun _ => .pure _
  | print e span =>
    refine .bind (evaluate related parts) fun v => ?_
    refine .bind (ofExcept Heap.isPlain_of_lookup) fun print => ?_
    exact .bind (related (.call print [v] span) trivial) fun _ => .pure _
  | if_ c a b =>
    obtain ⟨known_c, known_a, known_b⟩ := parts
    refine .bind (evaluate related known_c) fun v => ?_
    split
    next => exact (related (.execute a) known_a).mono fun n => List.mem_append_left _
    next =>
      cases b with
      | none => exact .pure _
      | some b =>
        exact (related (.execute b) (known_b b rfl)).mono fun n => List.mem_append_right _
  | while_ c body =>
    exact related (.rounds (some c) none body) ⟨fun _ same => by cases same; exact parts.1, nofun,
      parts.2⟩
  | for_ init c update body =>
    obtain ⟨known_init, known_c, known_update, known_body⟩ := parts
    have inner : D.Keeps (statementDeclares init ++ body.declares)
        (Evaluate.prepare p init >>= fun _ => p.rounds c update body)
        (Evaluate.prepare q init >>= fun _ => q.rounds c update body) := by
      refine .bind ((prepare related known_init).mono ?_) fun _ =>
        (related (.rounds c update body) ⟨known_c, known_update, known_body⟩).mono ?_
      · exact fun n => List.mem_append_left _
      · exact fun n => List.mem_append_right _
    exact .bind scope fun outer => .enclosed outer inner
  | break_ | continue_ => exact .pure _
  | return_ => exact .bind (optional related .null parts) fun _ => .pure _
  | function f =>
    refine .bind (.newClosure parts) fun v => ?_
    refine .bind (.declareFunction v f.span fun n same => names n ?_) fun _ => .pure _
    exact Option.mem_toList.mpr same

/-- One round of a loop and the rounds that are left. -/
theorem loop {condition update : Option Expr} {b : Stmt} (known_c : ∀ e ∈ condition, D.expr e)
    (known_u : ∀ e ∈ update, D.expr e) (known_b : D.stmt b) :
    D.Keeps b.declares (Evaluate.loop p condition update b)
      (Evaluate.loop q condition update b) := by
  have again : D.Keeps b.declares
      (Evaluate.optional p .null update >>= fun _ => p.rounds condition update b)
      (Evaluate.optional q .null update >>= fun _ => q.rounds condition update b) :=
    .bind (optional related .null known_u) fun _ =>
      related (.rounds condition update b) ⟨known_c, known_u, known_b⟩
  refine .bind (optional related (.boolean true) known_c) fun v => ?_
  split
  next =>
    refine .bind (related (.execute b) known_b) fun flow => ?_
    cases flow with
    | normal | continue_ => exact again
    | break_ | return_ => exact .pure _
  next => exact .pure _

end

end Keeps

/-- One level of evaluation takes performers that keep to a discipline to such performers. -/
theorem step {p q : Performer} (related : p.Keeps D q) :
    (Evaluate.step p).Keeps D (Evaluate.step q) := by
  intro t known
  cases t with
  | evaluate e => exact Keeps.expression related known
  | call callee args span => exact Keeps.invoke related callee args span
  | enter f s args span => exact Keeps.body related known s args span
  | execute s => exact Keeps.statement related known
  | rounds condition update b => exact Keeps.loop related known.1 known.2.1 known.2.2

/-- Evaluation keeps to every discipline. -/
theorem perform : ∀ fuel : Nat, (Evaluate.perform fuel).Keeps D (Evaluate.perform fuel)
  | 0 => fun _ _ => .endless
  | fuel + 1 => step (perform fuel)

/-! ## Requests -/

/-- A request belongs to a discipline. -/
def request (D : Discipline) : Request → Prop
  | .run program => ∀ s ∈ program.body, D.stmt s
  | .evaluate e => D.expr e
  | .call _ _ _ => True

end Discipline

/-- The names that a request can declare in the scope that it starts in. -/
def Request.declares : Request → List String
  | .run program => allDeclare program.body
  | .evaluate _ | .call _ _ _ => []

namespace Discipline

variable {D : Discipline}

/-- The statements of a program declare names in the outermost scope. -/
theorem Keeps.runStatements {p q : Performer} (related : p.Keeps D q) :
    ∀ {ss : List Stmt}, (∀ s ∈ ss, D.stmt s) → ∀ last : Value,
      D.Keeps (allDeclare ss) (Scriptlet.runStatements p last ss)
        (Scriptlet.runStatements q last ss)
  | [], _, last => .pure last
  | s :: _, known, last => by
    refine .bind ((related (.execute s) (known s (.head _))).mono ?_) fun flow => ?_
    · exact fun n => List.mem_append_left _
    · have rest := fun v =>
        (runStatements related (fun s inside => known s (.tail _ inside)) v).mono
          fun n => List.mem_append_right s.declares
      cases flow with
      | normal v =>
        cases s with
        | expr => exact rest v
        | block | declare | constant | print | if_ | while_ | for_ | break_ | continue_
        | return_ | function => exact rest last
      | break_ | continue_ | return_ => exact .fail_plain _ rfl

/-- Performers that keep to a discipline serve its requests so. -/
theorem Keeps.serve {p q : Performer} (related : p.Keeps D q) {r : Request}
    (known : D.request r) : D.Keeps r.declares (r.serve p) (r.serve q) := by
  cases r with
  | run program => exact .runStatements related known .null
  | evaluate e => exact related (.evaluate e) known
  | call callee args span => exact related (.call callee args span) trivial

/-- What a request comes to on a machine of a discipline. -/
theorem serves (fuel : Nat) {r : Request} (known : D.request r) {m : Machine}
    (holds : D.Holds m.heap) : D.Allows r.declares m (r.serve (Evaluate.perform fuel) m) :=
  (Keeps.serve (perform fuel) known m holds).2

/-- What a task comes to on a machine of a discipline. -/
theorem performs (fuel : Nat) {t : Task} (known : D.task t) {m : Machine}
    (holds : D.Holds m.heap) : D.Allows t.declares m (Evaluate.perform fuel t m) :=
  (perform fuel t known m holds).2

/-- However an action ends, it keeps to the discipline. -/
theorem Allows.after {ns : List String} {α : Type} {m : Machine} {a : Action α}
    (allows : D.Allows ns m (a m)) : D.Kept ns m (a.after m) := by
  unfold Action.after
  cases outcome : a m with
  | ok | error =>
    rw [outcome] at allows
    cases allows
    assumption

/-- An error of an action is one that may occur. -/
theorem Allows.fails {ns : List String} {α : Type} {m m' : Machine} {f : Fault}
    (allows : D.Allows ns m (.error (.fault f) m' : EStateM.Result Halt Machine α)) :
    D.fails f := by
  cases allows with
  | error fails _ => exact fails f rfl

/-! ## Evaluation with a detour -/

/-- A detour at a task that does not belong to a discipline is not taken. -/
theorem detour {t₀ : Task} {m₀ : Machine} (outside : ¬ (D.task t₀ ∧ D.Holds m₀.heap))
    (other : Performer) :
    ∀ fuel : Nat, (Scriptlet.detour t₀ m₀ other fuel).Keeps D (Evaluate.perform fuel)
  | 0 => by
    intro t known m holds
    have elsewhere : ¬ (t = t₀ ∧ m = m₀) := fun same =>
      outside ⟨same.1 ▸ known, same.2 ▸ holds⟩
    exact ⟨if_neg elsewhere, performs 0 known holds⟩
  | fuel + 1 => by
    intro t known m holds
    have elsewhere : ¬ (t = t₀ ∧ m = m₀) := fun same =>
      outside ⟨same.1 ▸ known, same.2 ▸ holds⟩
    obtain ⟨same, allows⟩ := step (detour outside other fuel) t known m holds
    exact ⟨(if_neg elsewhere).trans same, allows⟩

/-- All tasks that a run meets belong to the discipline, and so do the functions on the heap
at that point. -/
theorem meets {r : Request} {fuel : Nat} {m m' : Machine} {t : Task}
    (met : r.Meets fuel m t m') (known : D.request r) (holds : D.Holds m.heap) :
    D.task t ∧ D.Holds m'.heap := by
  obtain ⟨other, changed⟩ := met
  refine Classical.byContradiction fun outside => changed ?_
  exact (Keeps.serve (detour outside other fuel) known m holds).1

/-- In a session of a discipline all functions on the heap belong to it. -/
theorem holds_of_laterBy {asks : Request → Prop} {makes : Callable → Prop} {m m' : Machine}
    (asked : ∀ r, asks r → D.request r) (made : ∀ f s, makes (.closure f s) → D.function f)
    (holds : D.Holds m.heap) (later : m.LaterBy asks makes m') : D.Holds m'.heap := by
  induction later with
  | refl => exact holds
  | serve fuel _ asks_r ih => exact (serves fuel (asked _ asks_r) ih).after.holds
  | supply _ _ supplied ih =>
    intro f s inside
    exact (supplied _ inside).elim (ih f s) (made f s)

end Discipline

end Scriptlet
