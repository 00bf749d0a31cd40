import Scriptlet.Eval.Session
import Scriptlet.Proofs.Heap.Evolution

/-!
# Relations that evaluation respects

A *congruence* relates two actions, for machines at which a given number of calls
are being made.  It holds of every single step of the machine and itself, and it
is kept by sequencing, by scopes and by calls.  A body counts one call more, and
it is entered only below the limit.

The main statement is `StagedCongruence.step`: one level of evaluation takes
related performers to related performers.  By induction on the fuel evaluation is
related to itself (`StagedCongruence.perform`).  So a property of all runs needs a
proof for each step of the machine only, and none that goes through the language
again.

An evaluation declares sound bindings only, and a congruence may rely on that.  It
also makes new scopes only inside of the current one and of those that functions
were made in.  So a relation may be restricted to certain scopes, as long as these
are all that are current and all that functions remember (`ScopedCongruence`).
Which scopes these are may depend on the frames that are there.  There are only ever
more of them, so a scope that counts at one stage still counts when it is entered
(`StagedCongruence`).
-/

open Scriptlet.Action Scriptlet.Evaluate

namespace Scriptlet

/-! ## Congruences -/

/-- A relation between actions, by the number of calls being made, that evaluation
respects. -/
structure Congruence (R : {α : Type} → Nat → Action α → Action α → Prop) : Prop where
  /-- One action after another. -/
  bind : ∀ {α β : Type} {d : Nat} {a b : Action α} {f g : α → Action β},
    R d a b → (∀ v, R d (f v) (g v)) → R d (a >>= f) (b >>= g)
  /-- Reading the heap and the current scope. -/
  query : ∀ {α : Type} (d : Nat) (f : Heap → Scope → Except Halt α),
    R d (Action.query f) (Action.query f)
  /-- Declaring a sound binding. -/
  declare : ∀ (d : Nat) (name : String) {b : Binding} (span : Span), b.Sound →
    R d (Action.declare name b span) (Action.declare name b span)
  /-- Assigning to a name. -/
  assign : ∀ (d : Nat) (name : String) (v : Value) (span : Span),
    R d (Action.assign name v span) (Action.assign name v span)
  /-- Making an array. -/
  newArray : ∀ (d : Nat) (elements : Array Value),
    R d (Action.newArray elements) (Action.newArray elements)
  /-- Making an object. -/
  newObject : ∀ (d : Nat) (ps : Properties), R d (Action.newObject ps) (Action.newObject ps)
  /-- Making a function. -/
  newClosure : ∀ (d : Nat) (f : Function), R d (Action.newClosure f) (Action.newClosure f)
  /-- Writing a slot. -/
  writeSlot : ∀ (d : Nat) (container key v : Value) (span : Span),
    R d (Action.writeSlot container key v span) (Action.writeSlot container key v span)
  /-- Printing a line. -/
  emit : ∀ (d : Nat) (line : String), R d (Action.emit line) (Action.emit line)
  /-- Acting in a new scope. -/
  enclosed : ∀ {α : Type} {d : Nat} (outer : Scope) {a b : Action α},
    R d a b → R d (Action.enclosed outer a) (Action.enclosed outer b)
  /-- Acting one call deeper, where the limit allows it. -/
  nested : ∀ {α : Type} {d : Nat} (span : Span) {a b : Action α},
    (d < maxDepth → R (d + 1) a b) → R d (Action.nested span a) (Action.nested span b)

/-- A function that is of the language, or was made in one of certain scopes. -/
def Callable.ScopeIn (G : Scope → Prop) : Callable → Prop
  | .closure _ s => G s
  | .builtin _ => True

/-- A relation between actions that evaluation respects where all scopes are among certain
ones. -/
structure ScopedCongruence (G : Scope → Prop)
    (R : {α : Type} → Nat → Action α → Action α → Prop) : Prop where
  /-- One action after another. -/
  bind : ∀ {α β : Type} {d : Nat} {a b : Action α} {f g : α → Action β},
    R d a b → (∀ v, R d (f v) (g v)) → R d (a >>= f) (b >>= g)
  /-- Reading the heap and the current scope. -/
  query : ∀ {α : Type} (d : Nat) (f : Heap → Scope → Except Halt α),
    R d (Action.query f) (Action.query f)
  /-- Going on with the current scope. -/
  scope : ∀ {α : Type} {d : Nat} {f g : Scope → Action α},
    (∀ s, G s → R d (f s) (g s)) → R d (Action.scope >>= f) (Action.scope >>= g)
  /-- Going on with what a function value stands for. -/
  callable : ∀ {α : Type} {d : Nat} (ref : Nat) {f g : Callable → Action α},
    (∀ c : Callable, c.ScopeIn G → R d (f c) (g c)) →
    R d (Action.callable ref >>= f) (Action.callable ref >>= g)
  /-- Declaring a sound binding. -/
  declare : ∀ (d : Nat) (name : String) {b : Binding} (span : Span), b.Sound →
    R d (Action.declare name b span) (Action.declare name b span)
  /-- Assigning to a name. -/
  assign : ∀ (d : Nat) (name : String) (v : Value) (span : Span),
    R d (Action.assign name v span) (Action.assign name v span)
  /-- Making an array. -/
  newArray : ∀ (d : Nat) (elements : Array Value),
    R d (Action.newArray elements) (Action.newArray elements)
  /-- Making an object. -/
  newObject : ∀ (d : Nat) (ps : Properties), R d (Action.newObject ps) (Action.newObject ps)
  /-- Making a function. -/
  newClosure : ∀ (d : Nat) (f : Function), R d (Action.newClosure f) (Action.newClosure f)
  /-- Writing a slot. -/
  writeSlot : ∀ (d : Nat) (container key v : Value) (span : Span),
    R d (Action.writeSlot container key v span) (Action.writeSlot container key v span)
  /-- Printing a line. -/
  emit : ∀ (d : Nat) (line : String), R d (Action.emit line) (Action.emit line)
  /-- Acting in a new scope inside of one of the scopes. -/
  enclosed : ∀ {α : Type} {d : Nat} {outer : Scope} {a b : Action α}, G outer →
    R d a b → R d (Action.enclosed outer a) (Action.enclosed outer b)
  /-- Acting one call deeper, where the limit allows it. -/
  nested : ∀ {α : Type} {d : Nat} (span : Span) {a b : Action α},
    (d < maxDepth → R (d + 1) a b) → R d (Action.nested span a) (Action.nested span b)

/-- A congruence does not need to know about scopes. -/
theorem Congruence.scoped {R : {α : Type} → Nat → Action α → Action α → Prop}
    (C : Congruence R) : ScopedCongruence (fun _ => True) R where
  bind := C.bind
  query := C.query
  scope known := C.bind (C.query _ _) fun s => known s trivial
  callable ref _ _ known := C.bind (C.query _ _) fun c => known c (by cases c <;> trivial)
  declare := C.declare
  assign := C.assign
  newArray := C.newArray
  newObject := C.newObject
  newClosure := C.newClosure
  writeSlot := C.writeSlot
  emit := C.emit
  enclosed _ related := C.enclosed _ related
  nested := C.nested

/-- What evaluation respects in all scopes is a congruence. -/
theorem ScopedCongruence.unscoped {R : {α : Type} → Nat → Action α → Action α → Prop}
    (C : ScopedCongruence (fun _ => True) R) : Congruence R where
  bind := C.bind
  query := C.query
  declare := C.declare
  assign := C.assign
  newArray := C.newArray
  newObject := C.newObject
  newClosure := C.newClosure
  writeSlot := C.writeSlot
  emit := C.emit
  enclosed := by
    intro _ d outer a b related
    exact C.enclosed trivial related
  nested := C.nested

/-- How far evaluation has come: the number of calls being made, and a number of frames that
are there. -/
structure Stage where
  /-- The calls. -/
  depth : Nat
  /-- The frames.  There may be more. -/
  frames : Nat

/-- One call deeper. -/
def Stage.deeper (w : Stage) : Stage := { w with depth := w.depth + 1 }

/-- A relation between actions that evaluation respects at each stage, where the scopes that
count depend on the frames that are there.  Reading a scope off the machine goes on at a stage
of the machine, at the same depth. -/
structure StagedCongruence (G : Nat → Scope → Prop)
    (R : {α : Type} → Stage → Action α → Action α → Prop) : Prop where
  /-- One action after another. -/
  bind : ∀ {α β : Type} {w : Stage} {a b : Action α} {f g : α → Action β},
    R w a b → (∀ v, R w (f v) (g v)) → R w (a >>= f) (b >>= g)
  /-- Reading the heap and the current scope. -/
  query : ∀ {α : Type} (w : Stage) (f : Heap → Scope → Except Halt α),
    R w (Action.query f) (Action.query f)
  /-- Going on with the current scope. -/
  scope : ∀ {α : Type} {w : Stage} {f g : Scope → Action α},
    (∀ w' : Stage, w'.depth = w.depth → ∀ s, G w'.frames s → R w' (f s) (g s)) →
    R w (Action.scope >>= f) (Action.scope >>= g)
  /-- Going on with what a function value stands for. -/
  callable : ∀ {α : Type} {w : Stage} (ref : Nat) {f g : Callable → Action α},
    (∀ w' : Stage, w'.depth = w.depth → ∀ c : Callable, c.ScopeIn (G w'.frames) →
      R w' (f c) (g c)) →
    R w (Action.callable ref >>= f) (Action.callable ref >>= g)
  /-- Declaring a sound binding. -/
  declare : ∀ (w : Stage) (name : String) {b : Binding} (span : Span), b.Sound →
    R w (Action.declare name b span) (Action.declare name b span)
  /-- Assigning to a name. -/
  assign : ∀ (w : Stage) (name : String) (v : Value) (span : Span),
    R w (Action.assign name v span) (Action.assign name v span)
  /-- Making an array. -/
  newArray : ∀ (w : Stage) (elements : Array Value),
    R w (Action.newArray elements) (Action.newArray elements)
  /-- Making an object. -/
  newObject : ∀ (w : Stage) (ps : Properties), R w (Action.newObject ps) (Action.newObject ps)
  /-- Making a function. -/
  newClosure : ∀ (w : Stage) (f : Function), R w (Action.newClosure f) (Action.newClosure f)
  /-- Writing a slot. -/
  writeSlot : ∀ (w : Stage) (container key v : Value) (span : Span),
    R w (Action.writeSlot container key v span) (Action.writeSlot container key v span)
  /-- Printing a line. -/
  emit : ∀ (w : Stage) (line : String), R w (Action.emit line) (Action.emit line)
  /-- Acting in a new scope inside of one of the scopes. -/
  enclosed : ∀ {α : Type} {w : Stage} {outer : Scope} {a b : Action α}, G w.frames outer →
    R w a b → R w (Action.enclosed outer a) (Action.enclosed outer b)
  /-- Acting one call deeper, where the limit allows it. -/
  nested : ∀ {α : Type} {w : Stage} (span : Span) {a b : Action α},
    (w.depth < maxDepth → R w.deeper a b) → R w (Action.nested span a) (Action.nested span b)

/-- A congruence that knows of certain scopes does not need to know of frames. -/
theorem ScopedCongruence.staged {G : Scope → Prop}
    {R : {α : Type} → Nat → Action α → Action α → Prop} (C : ScopedCongruence G R) :
    StagedCongruence (fun _ => G) (fun w => R w.depth) where
  bind := C.bind
  query w := C.query w.depth
  scope known := C.scope fun s inside => known _ rfl s inside
  callable ref _ _ known := C.callable ref fun c inside => known _ rfl c inside
  declare w := C.declare w.depth
  assign w := C.assign w.depth
  newArray w := C.newArray w.depth
  newObject w := C.newObject w.depth
  newClosure w := C.newClosure w.depth
  writeSlot w := C.writeSlot w.depth
  emit w := C.emit w.depth
  enclosed := by
    intro _ w outer a b known related
    exact C.enclosed known related
  nested := by
    intro _ w span a b related
    exact C.nested span related

/-- Whether a task may start while a number of calls are being made.  The body of
a function is inside at least one call. -/
def Task.Admits : Task → Nat → Prop
  | .enter _ _ _ _, d => 0 < d
  | .evaluate _, _ | .call _ _ _, _ | .execute _, _ | .rounds _ _ _, _ => True

/-- Whether a task may start where all scopes are among certain ones. -/
def Task.AdmitsIn (G : Scope → Prop) : Task → Nat → Prop
  | .enter _ s _ _, d => 0 < d ∧ G s
  | .evaluate _, _ | .call _ _ _, _ | .execute _, _ | .rounds _ _ _, _ => True

theorem Task.AdmitsIn.admits {G : Scope → Prop} {t : Task} {d : Nat} (h : t.AdmitsIn G d) :
    t.Admits d := by
  cases t with
  | enter => exact h.1
  | evaluate | call | execute | rounds => trivial

theorem Task.Admits.admitsIn {t : Task} {d : Nat} (h : t.Admits d) :
    t.AdmitsIn (fun _ => True) d := by
  cases t with
  | enter => exact ⟨h, trivial⟩
  | evaluate | call | execute | rounds => trivial

/-- Two performers are related if all tasks are that may start. -/
def Performer.Related (R : {α : Type} → Nat → Action α → Action α → Prop)
    (p q : Performer) : Prop :=
  ∀ (t : Task) (d : Nat), t.Admits d → R d (p t) (q t)

/-- Two performers are related if all tasks are that may start in certain scopes. -/
def Performer.RelatedIn (G : Scope → Prop)
    (R : {α : Type} → Nat → Action α → Action α → Prop) (p q : Performer) : Prop :=
  ∀ (t : Task) (d : Nat), t.AdmitsIn G d → R d (p t) (q t)

/-- Two performers are related if all tasks are that may start at a stage. -/
def Performer.RelatedAt (G : Nat → Scope → Prop)
    (R : {α : Type} → Stage → Action α → Action α → Prop) (p q : Performer) : Prop :=
  ∀ (t : Task) (w : Stage), t.AdmitsIn (G w.frames) w.depth → R w (p t) (q t)

theorem Performer.RelatedIn.relatedAt {G : Scope → Prop}
    {R : {α : Type} → Nat → Action α → Action α → Prop} {p q : Performer}
    (h : p.RelatedIn G R q) : p.RelatedAt (fun _ => G) (fun w => R w.depth) q :=
  fun t w admitted => h t w.depth admitted

theorem Performer.RelatedAt.relatedIn {G : Scope → Prop}
    {R : {α : Type} → Nat → Action α → Action α → Prop} {p q : Performer}
    (h : p.RelatedAt (fun _ => G) (fun w => R w.depth) q) : p.RelatedIn G R q :=
  fun t d admitted => h t ⟨d, 0⟩ admitted

theorem Performer.Related.relatedIn {R : {α : Type} → Nat → Action α → Action α → Prop}
    {p q : Performer} (h : p.Related R q) : p.RelatedIn (fun _ => True) R q :=
  fun t d admitted => h t d admitted.admits

namespace StagedCongruence

variable {G : Nat → Scope → Prop} {R : {α : Type} → Stage → Action α → Action α → Prop}
  (C : StagedCongruence G R)

include C

/-! ## Steps without evaluation -/

theorem pure {α : Type} (w : Stage) (a : α) : R w (Pure.pure a) (Pure.pure a) :=
  C.query w fun _ _ => .ok a

theorem fail {α : Type} (w : Stage) (f : Fault) :
    R w (Action.fail f : Action α) (Action.fail f) :=
  C.query w fun _ _ => .error (.fault f)

theorem endless {α : Type} (w : Stage) : R w (throw .endless : Action α) (throw .endless) :=
  C.query w fun _ _ => .error .endless

theorem count (w : Stage) (op : StepOp) (operand : Expr) (inFront : Bool) (span : Span) :
    R w (Evaluate.count op operand inFront span) (Evaluate.count op operand inFront span) := by
  cases operand with
  | identifier name s =>
    refine C.bind (C.query w _) fun v => ?_
    cases v with
    | number => exact C.bind (C.assign w name _ span) fun _ => C.pure w _
    | string | boolean | null | array | object | function => exact C.fail w _
  | number | string | boolean | null | group | array | object | function | member | index
  | call | unary | stepAfter | binary | conditional | assign => exact C.fail w _

theorem combine (w : Stage) (op : AssignOp) (old : Option Value) (v : Value) (span : Span) :
    R w (Evaluate.combine op old v span) (Evaluate.combine op old v span) := by
  unfold Evaluate.combine
  split
  next => exact C.query w _
  next => exact C.pure w _

theorem current (w : Stage) (op : AssignOp) {read : Action Value} (h : R w read read) :
    R w (Evaluate.current op read) (Evaluate.current op read) := by
  unfold Evaluate.current
  split
  next => exact C.bind h fun _ => C.pure w _
  next => exact C.pure w _

/-- A binding whose value is checked first is sound. -/
theorem declareChecked (w : Stage) (name : String) (b : Binding) (valueSpan nameSpan : Span) :
    R w (Evaluate.declareChecked name b valueSpan nameSpan)
      (Evaluate.declareChecked name b valueSpan nameSpan) := by
  cases checked : checkType name b.type b.value valueSpan with
  | error e =>
    have refused : Evaluate.declareChecked name b valueSpan nameSpan = Action.fail e := by
      funext m
      simp only [Evaluate.declareChecked, checkValue, checked]
      rfl
    rw [refused]
    exact C.fail w e
  | ok _ =>
    have declared : Evaluate.declareChecked name b valueSpan nameSpan =
        Action.declare name b nameSpan := by
      funext m
      simp only [Evaluate.declareChecked, checkValue, checked]
      rfl
    rw [declared]
    exact C.declare w name nameSpan fun type typed =>
      Or.inl (satisfies_of_checkType checked type typed)

theorem declareVariable (w : Stage) (name : String) (type : Option TypeName) (v : Value)
    (span : Span) :
    R w (Evaluate.declareVariable name type v span)
      (Evaluate.declareVariable name type v span) := by
  unfold Evaluate.declareVariable
  split
  next => exact C.declare w name span fun _ _ => Or.inr ⟨rfl, rfl⟩
  next => exact C.declareChecked w name _ span span

theorem declareFunction (w : Stage) (name : Option String) (v : Value) (span : Span) :
    R w (Evaluate.declareFunction name v span) (Evaluate.declareFunction name v span) := by
  cases name with
  | none => exact C.pure w ()
  | some name => exact C.declare w name span fun _ typed => nomatch typed

theorem bindParams (w : Stage) (span : Span) :
    ∀ (ps : List Param) (vs : List Value),
      R w (Evaluate.bindParams span ps vs) (Evaluate.bindParams span ps vs)
  | [], _ => by
    rw [Evaluate.bindParams]
    · exact C.pure w ()
    · intro _ _ _ _ given
      cases given
  | _ :: _, [] => by
    rw [Evaluate.bindParams]
    · exact C.pure w ()
    · intro _ _ _ _ _ given
      cases given
  | p :: ps, v :: vs => by
    rw [Evaluate.bindParams]
    exact C.bind (C.declareChecked w p.name _ span p.span) fun _ => bindParams w span ps vs

theorem resultOf (w : Stage) (span : Span) (flow : Flow) :
    R w (Evaluate.resultOf span flow) (Evaluate.resultOf span flow) := by
  cases flow with
  | normal | return_ => exact C.pure w _
  | break_ | continue_ => exact C.fail w _

theorem checkResult (w : Stage) (f : Function) (v : Value) (span : Span) :
    R w (Evaluate.checkResult f v span) (Evaluate.checkResult f v span) := by
  unfold Evaluate.checkResult
  split
  next => exact C.pure w v
  next =>
    split
    next => exact C.pure w v
    next => exact C.fail w _

theorem emitValues (w : Stage) : ∀ vs : List Value, R w (vs.forM emitValue) (vs.forM emitValue)
  | [] => C.pure w ()
  | _ :: vs => C.bind (C.bind (C.query w _) fun text => C.emit w text) fun _ => emitValues w vs

theorem callBuiltin (w : Stage) (b : Builtin) (args : List Value) :
    R w (Evaluate.callBuiltin b args) (Evaluate.callBuiltin b args) := by
  cases b with
  | print => exact C.bind (C.emitValues w args) fun _ => C.pure w _

/-! ## One step -/

section

variable {p q : Performer} (related : p.RelatedAt G R q) (w : Stage)

include related

theorem values : ∀ es : List Expr, R w (Evaluate.values p es) (Evaluate.values q es)
  | [] => C.pure w []
  | e :: es =>
    C.bind (related (.evaluate e) w trivial) fun _ =>
      C.bind (values es) fun _ => C.pure w _

theorem properties : ∀ (ps : List (String × Expr)) (before : Properties),
    R w (Evaluate.properties p before ps) (Evaluate.properties q before ps)
  | [], before => C.pure w before
  | (_, e) :: ps, _ =>
    C.bind (related (.evaluate e) w trivial) fun _ => properties ps _

theorem assignSlot (op : AssignOp) (container key : Value) (value : Expr) (span : Span) :
    R w (Evaluate.assignSlot p op container key value span)
      (Evaluate.assignSlot q op container key value span) := by
  refine C.bind (C.current w op (C.query w _)) fun old => ?_
  refine C.bind (related (.evaluate value) w trivial) fun v => ?_
  refine C.bind (C.combine w op old v span) fun new => ?_
  exact C.bind (C.writeSlot w container key new span) fun _ => C.pure w new

theorem assignTo (op : AssignOp) (target value : Expr) (span : Span) :
    R w (Evaluate.assignTo p op target value span)
      (Evaluate.assignTo q op target value span) := by
  cases target with
  | identifier name s =>
    refine C.bind (C.current w op (C.query w _)) fun old => ?_
    refine C.bind (related (.evaluate value) w trivial) fun v => ?_
    refine C.bind (C.combine w op old v span) fun new => ?_
    exact C.bind (C.assign w name new span) fun _ => C.pure w new
  | member o property s =>
    refine C.bind (related (.evaluate o) w trivial) fun container => ?_
    exact C.assignSlot related w op container (.string property) value span
  | index o k s =>
    refine C.bind (related (.evaluate o) w trivial) fun container => ?_
    refine C.bind (related (.evaluate k) w trivial) fun key => ?_
    exact C.assignSlot related w op container key value span
  | number | string | boolean | null | group | array | object | function | call | unary
  | stepAfter | binary | conditional | assign => exact C.fail w _

theorem binary (op : BinaryOp) (l r : Expr) (s : Span) :
    R w (expression p (.binary op l r s)) (expression q (.binary op l r s)) := by
  have strict : R w (p.evaluate l >>= fun v => p.evaluate r >>= fun w => applyBinary op v w s)
      (q.evaluate l >>= fun v => q.evaluate r >>= fun w => applyBinary op v w s) :=
    C.bind (related (.evaluate l) w trivial) fun _ =>
      C.bind (related (.evaluate r) w trivial) fun _ => C.query w _
  cases op with
  | and =>
    refine C.bind (related (.evaluate l) w trivial) fun v => ?_
    split
    next => exact related (.evaluate r) w trivial
    next => exact C.pure w v
  | or =>
    refine C.bind (related (.evaluate l) w trivial) fun v => ?_
    split
    next => exact C.pure w v
    next => exact related (.evaluate r) w trivial
  | add | sub | mul | div | rem | eq | ne | lt | le | gt | ge => exact strict

theorem expression (e : Expr) : R w (Evaluate.expression p e) (Evaluate.expression q e) := by
  cases e with
  | number | string | boolean | null => exact C.pure w _
  | identifier name s =>
    change R w (lookup name s) (lookup name s)
    exact C.query w _
  | group inner => exact related (.evaluate inner) w trivial
  | array es => exact C.bind (C.values related w es) fun _ => C.newArray w _
  | object ps => exact C.bind (C.properties related w ps []) fun _ => C.newObject w _
  | function f => exact C.newClosure w f
  | member o => exact C.bind (related (.evaluate o) w trivial) fun _ => C.query w _
  | index o k =>
    refine C.bind (related (.evaluate o) w trivial) fun _ => ?_
    exact C.bind (related (.evaluate k) w trivial) fun _ => C.query w _
  | call c args s =>
    refine C.bind (related (.evaluate c) w trivial) fun callee => ?_
    refine C.bind (C.values related w args) fun vs => ?_
    exact related (.call callee vs s) w trivial
  | unary op x s =>
    cases op with
    | negate =>
      refine C.bind (related (.evaluate x) w trivial) fun v => ?_
      cases v with
      | number => exact C.pure w _
      | string | boolean | null | array | object | function => exact C.fail w _
    | not => exact C.bind (related (.evaluate x) w trivial) fun _ => C.pure w _
    | step op => exact C.count w op x true s
  | stepAfter op x s => exact C.count w op x false s
  | binary op l r s => exact C.binary related w op l r s
  | conditional c a b =>
    refine C.bind (related (.evaluate c) w trivial) fun v => ?_
    split
    next => exact related (.evaluate a) w trivial
    next => exact related (.evaluate b) w trivial
  | assign op t v s => exact C.assignTo related w op t v s

theorem invoke (callee : Value) (args : List Value) (span : Span) :
    R w (Evaluate.invoke p callee args span) (Evaluate.invoke q callee args span) := by
  cases callee with
  | function ref =>
    refine C.callable ref fun w _ c known => ?_
    split
    next => exact C.fail w _
    next =>
      cases c with
      | builtin b => exact C.callBuiltin w b args
      | closure f s =>
        refine C.nested span fun _ => ?_
        exact related (.enter f s args span) w.deeper ⟨Nat.succ_pos _, known⟩
  | number | string | boolean | null | array | object => exact C.fail w _

theorem sequence : ∀ ss : List Stmt, R w (Evaluate.sequence p ss) (Evaluate.sequence q ss)
  | [] => C.pure w _
  | s :: rest => by
    refine C.bind (related (.execute s) w trivial) fun flow => ?_
    cases flow with
    | normal => exact sequence rest
    | break_ | continue_ | return_ => exact C.pure w _

theorem body (f : Function) {s : Scope} (known : G w.frames s) (args : List Value) (span : Span) :
    R w (Evaluate.body p f s args span) (Evaluate.body q f s args span) := by
  have inner : R w
      (Evaluate.bindParams span f.params args >>= fun _ => Evaluate.sequence p f.body)
      (Evaluate.bindParams span f.params args >>= fun _ => Evaluate.sequence q f.body) :=
    C.bind (C.bindParams w span f.params args) fun _ => C.sequence related w f.body
  refine C.bind (C.enclosed known inner) fun flow => ?_
  exact C.bind (C.resultOf w span flow) fun v => C.checkResult w f v span

theorem optional (missing : Value) (e : Option Expr) :
    R w (Evaluate.optional p missing e) (Evaluate.optional q missing e) := by
  cases e with
  | none => exact C.pure w missing
  | some e => exact related (.evaluate e) w trivial

theorem prepare (s : Option Stmt) : R w (Evaluate.prepare p s) (Evaluate.prepare q s) := by
  cases s with
  | none => exact C.pure w ()
  | some s => exact C.bind (related (.execute s) w trivial) fun _ => C.pure w ()

theorem statement (s : Stmt) : R w (Evaluate.statement p s) (Evaluate.statement q s) := by
  cases s with
  | block ss =>
    exact C.scope fun w _ outer known => C.enclosed known (C.sequence related w ss)
  | declare word name type init span =>
    refine C.bind (C.optional related w .null init) fun v => ?_
    exact C.bind (C.declareVariable w name type v span) fun _ => C.pure w _
  | constant name type init span =>
    refine C.bind (related (.evaluate init) w trivial) fun v => ?_
    exact C.bind (C.declareChecked w name _ span span) fun _ => C.pure w _
  | expr e => exact C.bind (related (.evaluate e) w trivial) fun _ => C.pure w _
  | print e span =>
    refine C.bind (related (.evaluate e) w trivial) fun v => ?_
    refine C.bind (C.query w _) fun print => ?_
    exact C.bind (related (.call print [v] span) w trivial) fun _ => C.pure w _
  | if_ c a b =>
    refine C.bind (related (.evaluate c) w trivial) fun v => ?_
    split
    next => exact related (.execute a) w trivial
    next =>
      cases b with
      | none => exact C.pure w _
      | some b => exact related (.execute b) w trivial
  | while_ c b => exact related (.rounds (some c) none b) w trivial
  | for_ init c update b =>
    refine C.scope fun w _ outer known => C.enclosed known ?_
    exact C.bind (C.prepare related w init) fun _ => related (.rounds c update b) w trivial
  | break_ | continue_ => exact C.pure w _
  | return_ value => exact C.bind (C.optional related w .null value) fun _ => C.pure w _
  | function f =>
    refine C.bind (C.newClosure w f) fun v => ?_
    exact C.bind (C.declareFunction w f.name v f.span) fun _ => C.pure w _

theorem loop (condition update : Option Expr) (b : Stmt) :
    R w (Evaluate.loop p condition update b) (Evaluate.loop q condition update b) := by
  have again : R w
      (Evaluate.optional p .null update >>= fun _ => p.rounds condition update b)
      (Evaluate.optional q .null update >>= fun _ => q.rounds condition update b) :=
    C.bind (C.optional related w .null update) fun _ =>
      related (.rounds condition update b) w trivial
  refine C.bind (C.optional related w (.boolean true) condition) fun v => ?_
  split
  next =>
    refine C.bind (related (.execute b) w trivial) fun flow => ?_
    cases flow with
    | normal | continue_ => exact again
    | break_ | return_ => exact C.pure w _
  next => exact C.pure w _

end

/-- One level of evaluation takes related performers to related performers. -/
theorem step {p q : Performer} (related : p.RelatedAt G R q) :
    Performer.RelatedAt G R (Evaluate.step p) (Evaluate.step q) := by
  intro t w admitted
  cases t with
  | evaluate e => exact C.expression related w e
  | call callee args span => exact C.invoke related w callee args span
  | enter f s args span => exact C.body related w f admitted.2 args span
  | execute s => exact C.statement related w s
  | rounds condition update b => exact C.loop related w condition update b

/-- Evaluation is related to itself. -/
theorem perform : ∀ fuel : Nat,
    Performer.RelatedAt G R (Evaluate.perform fuel) (Evaluate.perform fuel)
  | 0 => fun _ w _ => C.endless w
  | fuel + 1 => C.step (perform fuel)

/-! ## Requests -/

theorem runStatements {p q : Performer} (related : p.RelatedAt G R q) (w : Stage) :
    ∀ (last : Value) (ss : List Stmt),
      R w (Scriptlet.runStatements p last ss) (Scriptlet.runStatements q last ss)
  | last, [] => C.pure w last
  | last, s :: rest => by
    refine C.bind (related (.execute s) w trivial) fun flow => ?_
    cases flow with
    | normal v =>
      cases s with
      | expr => exact runStatements related w v rest
      | block | declare | constant | print | if_ | while_ | for_ | break_ | continue_
      | return_ | function => exact runStatements related w last rest
    | break_ | continue_ | return_ => exact C.fail w _

/-- Related performers serve a request in related ways. -/
theorem serve {p q : Performer} (related : p.RelatedAt G R q) (w : Stage) (r : Request) :
    R w (r.serve p) (r.serve q) := by
  cases r with
  | run program => exact C.runStatements related w .null program.body
  | evaluate e => exact related (.evaluate e) w trivial
  | call callee args span => exact related (.call callee args span) w trivial

end StagedCongruence

/-! ## Certain scopes -/

namespace ScopedCongruence

variable {G : Scope → Prop} {R : {α : Type} → Nat → Action α → Action α → Prop}
  (C : ScopedCongruence G R)

include C

theorem endless {α : Type} (d : Nat) : R d (throw .endless : Action α) (throw .endless) :=
  C.staged.endless ⟨d, 0⟩

/-- One level of evaluation takes related performers to related performers. -/
theorem step {p q : Performer} (related : p.RelatedIn G R q) :
    Performer.RelatedIn G R (Evaluate.step p) (Evaluate.step q) :=
  (C.staged.step related.relatedAt).relatedIn

/-- Evaluation is related to itself. -/
theorem perform (fuel : Nat) :
    Performer.RelatedIn G R (Evaluate.perform fuel) (Evaluate.perform fuel) :=
  (C.staged.perform fuel).relatedIn

/-- Related performers serve a request in related ways. -/
theorem serve {p q : Performer} (related : p.RelatedIn G R q) (d : Nat) (r : Request) :
    R d (r.serve p) (r.serve q) :=
  C.staged.serve related.relatedAt ⟨d, 0⟩ r

end ScopedCongruence

/-! ## All scopes -/

namespace Congruence

variable {R : {α : Type} → Nat → Action α → Action α → Prop} (C : Congruence R)

include C

/-- Evaluation is related to itself. -/
theorem perform (fuel : Nat) :
    Performer.Related R (Evaluate.perform fuel) (Evaluate.perform fuel) :=
  fun t d admitted => C.scoped.perform fuel t d admitted.admitsIn

/-- Related performers serve a request in related ways. -/
theorem serve {p q : Performer} (related : p.Related R q) (d : Nat) (r : Request) :
    R d (r.serve p) (r.serve q) :=
  C.scoped.serve related.relatedIn d r

end Congruence

end Scriptlet
