import Scriptlet.Proofs.Eval.Likeness

/-!
# Simulations

Two actions *act alike* if they take related machines to related machines, and
either both give a result, related ones, or both halt, with errors that are
alike.  A *simulation* is a relation between machines under which each single
step of the machine acts alike with itself.

A call does not look at the scope that it is made in, so outside of its body it
keeps more relations than a simulation: those of `Callers`.  An expression looks
names up in the current scope but declares none in it, and a block declares its
names in a scope of its own.  They keep the relations of `Evaluators`.

The main statement is `Simulation.step`: one level of evaluation of programs that
are alike acts alike if their parts do.  By induction on the fuel, related
machines evaluate programs that are alike in the same way
(`Simulation.performs`), and serve requests that are alike in the same way
(`Simulation.serve`).  So a property of two runs, or of one run compared with
itself, needs a proof for each step of the machine only.
-/

open Scriptlet.Action Scriptlet.Evaluate

namespace Scriptlet

/-! ## Actions that act alike -/

/-- Two outcomes that are related. -/
inductive Ends (K : Likeness) (M : Machine → Machine → Prop) {α β : Type} (Q : α → β → Prop) :
    EStateM.Result Halt Machine α → EStateM.Result Halt Machine β → Prop
  | ok {v : α} {w : β} {m m' : Machine} : Q v w → M m m' → Ends K M Q (.ok v m) (.ok w m')
  | error {e e' : Halt} {m m' : Machine} :
    e.Alike K e' → M m m' → Ends K M Q (.error e m) (.error e' m')

/-- Two actions with related outcomes on related machines. -/
def Acts (K : Likeness) (M : Machine → Machine → Prop) {α β : Type} (Q : α → β → Prop)
    (a : Action α) (b : Action β) : Prop :=
  ∀ m m' : Machine, M m m' → Ends K M Q (a m) (b m')

/-- Any results are related. -/
def Anyway {α β : Type} (_ : α) (_ : β) : Prop := True

namespace Acts

variable {K : Likeness} {M : Machine → Machine → Prop} {α β γ δ : Type} {Q : α → β → Prop}
  {R : γ → δ → Prop}

theorem pure {v : α} {w : β} (h : Q v w) : Acts K M Q (Pure.pure v) (Pure.pure w) :=
  fun _ _ related => .ok h related

/-- One action after another, with results that are alike in between. -/
theorem bind {a : Action α} {b : Action β} {f : α → Action γ} {g : β → Action δ}
    (first : Acts K M Q a b) (second : ∀ {v w}, Q v w → Acts K M R (f v) (g w)) :
    Acts K M R (a >>= f) (b >>= g) := by
  intro m m' related
  change Ends K M R (EStateM.bind a f m) (EStateM.bind b g m')
  have ends := first m m' related
  unfold EStateM.bind
  revert ends
  generalize a m = left
  generalize b m' = right
  intro ends
  cases ends with
  | ok alike related' => exact second alike _ _ related'
  | error alike related' => exact .error alike related'

/-- Errors of the same kind that may occur. -/
theorem fail (f : Fault) {s : Span} (may : K.fails f) (h : K.span f.span s) :
    Acts K M Q (Action.fail f : Action α) (Action.fail (f.at s) : Action β) :=
  fun _ _ related => .error (.fault may h) related

/-- An error that is no signal occurs on both sides, at spans of their own. -/
theorem fail_plain (f : Fault) {s : Span} (plain : f.isEscape = false) (h : K.span f.span s) :
    Acts K M Q (Action.fail f : Action α) (Action.fail (f.at s) : Action β) :=
  fail f (K.fails_of_not_isEscape plain) h

/-- Acting in other scopes and coming back. -/
theorem within {N : Machine → Machine → Prop} {s s' : Scope} {a : Action α} {b : Action β}
    (enter : ∀ {m m' : Machine}, N m m' → M { m with scope := s } { m' with scope := s' })
    (leave : ∀ {m m' n n' : Machine}, N m m' → M n n' →
      N { n with scope := m.scope } { n' with scope := m'.scope })
    (h : Acts K M Q a b) : Acts K N Q (Action.within s a) (Action.within s' b) := by
  intro m m' related
  have ends := h _ _ (enter related)
  unfold Action.within
  revert ends
  generalize a { m with scope := s } = left
  generalize b { m' with scope := s' } = right
  intro ends
  cases ends with
  | ok alike related' => exact .ok alike (leave related related')
  | error alike related' => exact .error alike (leave related related')

/-- Acting one call deeper, at the same depth. -/
theorem nested {s s' : Span} (hs : K.span s s') {a : Action α} {b : Action β}
    (level : ∀ {m m' : Machine}, M m m' → m.depth = m'.depth)
    (shift : ∀ {m m' : Machine} (g : Nat → Nat), M m m' →
      M { m with depth := g m.depth } { m' with depth := g m'.depth })
    (h : Acts K M Q a b) : Acts K M Q (Action.nested s a) (Action.nested s' b) := by
  intro m m' related
  unfold Action.nested
  rw [level related]
  split
  next => exact fail_plain (.recursion maxDepth s) rfl hs m m' related
  next =>
    have ends := h _ _ (shift (· + 1) related)
    rw [level related] at ends
    unfold deeper
    rw [level related]
    revert ends
    generalize a { m with depth := m'.depth + 1 } = left
    generalize b { m' with depth := m'.depth + 1 } = right
    intro ends
    cases ends with
    | ok alike related' => exact .ok alike (shift (· - 1) related')
    | error alike related' => exact .error alike (shift (· - 1) related')

end Acts

/-! ## Simulations -/

/-- A relation between machines that the steps of a call keep, if another one is kept in the
scope of its body.  Scopes are related in a given way. -/
structure Callers (K : Likeness) (ρ : Pairing) (Z : Scope → Scope → Prop)
    (M N : Machine → Machine → Prop) : Prop where
  callable : ∀ {i j : Nat}, ρ ⟨.function, i⟩ ⟨.function, j⟩ →
    Acts K N (Callable.Related K.function Z) (callable i) (callable j)
  emitValue : ∀ {v v' : Value}, v.Alike ρ v' → Acts K N Anyway (emitValue v) (emitValue v')
  enclosed : ∀ {α β : Type} {Q : α → β → Prop} {s s' : Scope} {a : Action α} {b : Action β},
    Z s s' → Acts K M Q a b → Acts K N Q (enclosed s a) (enclosed s' b)
  nested : ∀ {α β : Type} {Q : α → β → Prop} {s s' : Span} {a : Action α} {b : Action β},
    K.span s s' → Acts K N Q a b → Acts K N Q (nested s a) (nested s' b)

/-- A relation between machines that the steps of an expression keep too, and those into a new
scope. -/
structure Evaluators (K : Likeness) (ρ : Pairing) (Z : Scope → Scope → Prop)
    (M N : Machine → Machine → Prop) : Prop extends Callers K ρ Z M N where
  lookup : ∀ {s s' : Span} (name : String), K.span s s' →
    Acts K N (Value.Alike ρ) (lookup name s) (lookup name s')
  assign : ∀ {v v' : Value} {s s' : Span} (name : String), v.Alike ρ v' → K.span s s' →
    Acts K N Anyway (assign name v s) (assign name v' s')
  newArray : ∀ {vs vs' : List Value}, List.Forall₂ (Value.Alike ρ) vs vs' →
    Acts K N (Value.Alike ρ) (newArray vs.toArray) (newArray vs'.toArray)
  newObject : ∀ {ps ps' : Properties}, List.Forall₂ (Property.Alike ρ) ps ps' →
    Acts K N (Value.Alike ρ) (newObject ps) (newObject ps')
  newClosure : ∀ {f f' : Function}, K.function f f' →
    Acts K N (Value.Alike ρ) (newClosure f) (newClosure f')
  readSlot : ∀ {c c' k k' : Value}, c.Alike ρ c' → k.Alike ρ k' →
    Acts K N (Value.Alike ρ) (readSlot c k) (readSlot c' k')
  writeSlot : ∀ {c c' k k' v v' : Value} {s s' : Span}, c.Alike ρ c' → k.Alike ρ k' →
    v.Alike ρ v' → K.span s s' → Acts K N Anyway (writeSlot c k v s) (writeSlot c' k' v' s')
  applyBinary : ∀ {l l' r r' : Value} {s s' : Span} (op : BinaryOp), l.Alike ρ l' →
    r.Alike ρ r' → K.span s s' →
    Acts K N (Value.Alike ρ) (applyBinary op l r s) (applyBinary op l' r' s')
  scope : Acts K N Z scope scope

/-- A relation between machines that all steps of the machine keep. -/
structure Simulation (K : Likeness) (ρ : Pairing) (Z : Scope → Scope → Prop)
    (M : Machine → Machine → Prop) : Prop extends Evaluators K ρ Z M M where
  lookupPrint : ∀ {s s' : Span}, K.span s s' →
    Acts K M (Value.Alike ρ) (lookupGlobal Builtin.print.name s)
      (lookupGlobal Builtin.print.name s')
  declare : ∀ {b b' : Binding} {s s' : Span} (name : String), b.Alike ρ b' → K.span s s' →
    Acts K M Anyway (declare name b s) (declare name b' s')

/-- Two performers that act alike on expressions that are alike. -/
structure Evaluates (K : Likeness) (ρ : Pairing) (N : Machine → Machine → Prop)
    (p q : Performer) : Prop where
  evaluate : ∀ {e e' : Expr}, K.expr e e' →
    Acts K N (Value.Alike ρ) (p.evaluate e) (q.evaluate e')
  call : ∀ {c c' : Value} {args args' : List Value} {s s' : Span}, c.Alike ρ c' →
    List.Forall₂ (Value.Alike ρ) args args' → K.span s s' →
    Acts K N (Value.Alike ρ) (p.call c args s) (q.call c' args' s')

/-- Two performers that act alike on tasks that are alike. -/
structure Performs (K : Likeness) (ρ : Pairing) (Z : Scope → Scope → Prop)
    (M : Machine → Machine → Prop) (p q : Performer) : Prop extends Evaluates K ρ M p q where
  enter : ∀ {f f' : Function} {o o' : Scope} {args args' : List Value} {s s' : Span},
    K.function f f' → Z o o' → List.Forall₂ (Value.Alike ρ) args args' → K.span s s' →
    Acts K M (Value.Alike ρ) (p.enter f o args s) (q.enter f' o' args' s')
  execute : ∀ {π : K.Place} {s s' : Stmt}, K.stmt π s s' →
    Acts K M (Flow.Alike K ρ π) (p.execute s) (q.execute s')
  rounds : ∀ {π : K.Place} {c c' update update' : Option Expr} {b b' : Stmt},
    Option.Rel K.expr c c' → Option.Rel K.expr update update' → K.stmt (K.loop π) b b' →
    Acts K M (Flow.Alike K ρ π) (p.rounds c update b) (q.rounds c' update' b')

/-! ## Expressions -/

namespace Evaluates

variable {K : Likeness} {ρ : Pairing} {N : Machine → Machine → Prop} {p q : Performer}
  (related : Evaluates K ρ N p q)

include related

/-- Elements and arguments are evaluated from the left on both sides. -/
theorem values {es es' : List Expr} (h : List.Forall₂ K.expr es es') :
    Acts K N (List.Forall₂ (Value.Alike ρ)) (Evaluate.values p es) (Evaluate.values q es') := by
  induction h with
  | nil => exact .pure .nil
  | cons e _ ih =>
    exact .bind (related.evaluate e) fun hv => .bind ih fun hvs => .pure (.cons hv hvs)

theorem properties {ps ps' : List (String × Expr)}
    (h : List.Forall₂ (fun p p' => p.1 = p'.1 ∧ K.expr p.2 p'.2) ps ps')
    {before before' : Properties} (hb : List.Forall₂ (Property.Alike ρ) before before') :
    Acts K N (List.Forall₂ (Property.Alike ρ)) (Evaluate.properties p before ps)
      (Evaluate.properties q before' ps') := by
  induction h generalizing before before' with
  | nil => exact .pure hb
  | @cons entry entry' _ _ same _ ih =>
    obtain ⟨key, e⟩ := entry
    obtain ⟨key', e'⟩ := entry'
    obtain ⟨rfl, he⟩ := same
    exact .bind (related.evaluate he) fun hv => ih (insert_alike hb hv)

theorem optional {missing : Value} (hm : missing.Alike ρ missing) {e e' : Option Expr}
    (h : Option.Rel K.expr e e') :
    Acts K N (Value.Alike ρ) (Evaluate.optional p missing e)
      (Evaluate.optional q missing e') := by
  cases h with
  | none => exact .pure hm
  | some he => exact related.evaluate he

end Evaluates

namespace Evaluators

variable {K : Likeness} {ρ : Pairing} {Z : Scope → Scope → Prop} {M N : Machine → Machine → Prop}
  (E : Evaluators K ρ Z M N)

include E

/-- A step reads and assigns on both sides, or fails on both. -/
theorem count (op : StepOp) {x x' : Expr} (hx : K.expr x x') (inFront : Bool) {s s' : Span}
    (hs : K.span s s') :
    Acts K N (Value.Alike ρ) (Evaluate.count op x inFront s) (Evaluate.count op x' inFront s') := by
  cases K.expr_parallel hx with
  | identifier ht =>
    refine .bind (E.lookup _ ht) fun {v v'} hv => ?_
    cases hv with
    | number n =>
      refine .bind (E.assign _ (.number _) hs) fun _ => .pure ?_
      cases inFront
      · exact .number _
      · exact .number _
    | string => exact .fail_plain _ rfl hs
    | boolean => exact .fail_plain _ rfl hs
    | null => exact .fail_plain _ rfl hs
    | array => exact .fail_plain _ rfl hs
    | object => exact .fail_plain _ rfl hs
    | function => exact .fail_plain _ rfl hs
  | _ => exact .fail_plain _ rfl hs

theorem combine (op : AssignOp) {old old' : Option Value} (ho : Option.Rel (Value.Alike ρ) old old')
    {v v' : Value} (hv : v.Alike ρ v') {s s' : Span} (hs : K.span s s') :
    Acts K N (Value.Alike ρ) (Evaluate.combine op old v s) (Evaluate.combine op old' v' s') := by
  unfold Evaluate.combine
  cases op.binary? with
  | none => exact .pure hv
  | some binary =>
    cases ho with
    | none => exact .pure hv
    | some ho => exact E.applyBinary binary ho hv hs

omit E in
theorem current (op : AssignOp) {read read' : Action Value}
    (h : Acts K N (Value.Alike ρ) read read') :
    Acts K N (Option.Rel (Value.Alike ρ)) (Evaluate.current op read)
      (Evaluate.current op read') := by
  unfold Evaluate.current
  cases op.binary? with
  | none => exact .pure .none
  | some _ => exact .bind h fun hv => .pure (.some hv)

section

variable {p q : Performer} (related : Evaluates K ρ N p q)

include related

theorem assignSlot (op : AssignOp) {c c' k k' : Value} (hc : c.Alike ρ c') (hk : k.Alike ρ k')
    {value value' : Expr} (hv : K.expr value value') {s s' : Span} (hs : K.span s s') :
    Acts K N (Value.Alike ρ) (Evaluate.assignSlot p op c k value s)
      (Evaluate.assignSlot q op c' k' value' s') := by
  refine .bind (current op (E.readSlot hc hk)) fun old => ?_
  refine .bind (related.evaluate hv) fun v => ?_
  refine .bind (E.combine op old v hs) fun new => ?_
  exact .bind (E.writeSlot hc hk new hs) fun _ => .pure new

/-- Targets that are parallel are of one form. -/
theorem assignTo (op : AssignOp) {t t' value value' : Expr} (ht : K.expr t t')
    (hv : K.expr value value') {s s' : Span} (hs : K.span s s') :
    Acts K N (Value.Alike ρ) (Evaluate.assignTo p op t value s)
      (Evaluate.assignTo q op t' value' s') := by
  have span := (K.expr_parallel ht).span
  cases K.expr_parallel ht with
  | identifier hn =>
    refine .bind (current op (E.lookup _ hn)) fun old => ?_
    refine .bind (related.evaluate hv) fun v => ?_
    refine .bind (E.combine op old v hs) fun new => ?_
    exact .bind (E.assign _ new hs) fun _ => .pure new
  | member ho =>
    exact .bind (related.evaluate ho) fun hc => E.assignSlot related op hc (.string _) hv hs
  | index ho hk =>
    refine .bind (related.evaluate ho) fun hc => ?_
    exact .bind (related.evaluate hk) fun hk => E.assignSlot related op hc hk hv hs
  | _ => exact .fail_plain (.type .target _) rfl span

theorem binary (op : BinaryOp) {l l' r r' : Expr} (hl : K.expr l l') (hr : K.expr r r')
    {s s' : Span} (hs : K.span s s') :
    Acts K N (Value.Alike ρ) (Evaluate.expression p (.binary op l r s))
      (Evaluate.expression q (.binary op l' r' s')) := by
  have strict : Acts K N (Value.Alike ρ)
      (p.evaluate l >>= fun v => p.evaluate r >>= fun w => Action.applyBinary op v w s)
      (q.evaluate l' >>= fun v => q.evaluate r' >>= fun w => Action.applyBinary op v w s') :=
    .bind (related.evaluate hl) fun hv => .bind (related.evaluate hr) fun hw =>
      E.applyBinary op hv hw hs
  cases op with
  | and =>
    refine .bind (related.evaluate hl) fun hv => ?_
    rw [hv.isTruthy_eq]
    split
    next => exact related.evaluate hr
    next => exact .pure hv
  | or =>
    refine .bind (related.evaluate hl) fun hv => ?_
    rw [hv.isTruthy_eq]
    split
    next => exact .pure hv
    next => exact related.evaluate hr
  | add | sub | mul | div | rem | eq | ne | lt | le | gt | ge => exact strict

/-- One step of an expression.  Its parts are evaluated by performers that act alike. -/
theorem expression {e e' : Expr} (h : K.expr e e') :
    Acts K N (Value.Alike ρ) (Evaluate.expression p e) (Evaluate.expression q e') := by
  cases K.expr_parallel h with
  | number => exact .pure (.number _)
  | string => exact .pure (.string _)
  | boolean => exact .pure (.boolean _)
  | null => exact .pure .null
  | identifier hs => exact E.lookup _ hs
  | group he => exact related.evaluate he
  | array hes => exact .bind (related.values hes) fun hvs => E.newArray hvs
  | object hps => exact .bind (related.properties hps .nil) fun hqs => E.newObject hqs
  | function hf => exact E.newClosure hf
  | member ho => exact .bind (related.evaluate ho) fun hc => E.readSlot hc (.string _)
  | index ho hk =>
    refine .bind (related.evaluate ho) fun hc => ?_
    exact .bind (related.evaluate hk) fun hk => E.readSlot hc hk
  | call hc hargs hs =>
    refine .bind (related.evaluate hc) fun hv => ?_
    exact .bind (related.values hargs) fun hvs => related.call hv hvs hs
  | @unary op x x' s s' hx hs =>
    cases op with
    | negate =>
      refine .bind (related.evaluate hx) fun {v v'} hv => ?_
      cases hv with
      | number => exact .pure (.number _)
      | string => exact .fail_plain _ rfl hs
      | boolean => exact .fail_plain _ rfl hs
      | null => exact .fail_plain _ rfl hs
      | array => exact .fail_plain _ rfl hs
      | object => exact .fail_plain _ rfl hs
      | function => exact .fail_plain _ rfl hs
    | not =>
      refine .bind (related.evaluate hx) fun hv => .pure ?_
      rw [hv.isTruthy_eq]
      exact .boolean _
    | step op => exact E.count op hx true hs
  | stepAfter hx hs => exact E.count _ hx false hs
  | binary hl hr hs => exact E.binary related _ hl hr hs
  | conditional hc ha hb =>
    refine .bind (related.evaluate hc) fun hv => ?_
    rw [hv.isTruthy_eq]
    split
    next => exact related.evaluate ha
    next => exact related.evaluate hb
  | assign ht hv hs => exact E.assignTo related _ ht hv hs

end

/-- A block makes a scope of its own. -/
theorem block {p q : Performer} {Q : Flow → Flow → Prop} {ss ss' : List Stmt}
    (h : Acts K M Q (Evaluate.sequence p ss) (Evaluate.sequence q ss')) (s s' : Span) :
    Acts K N Q (Evaluate.statement p (.block ss s)) (Evaluate.statement q (.block ss' s')) :=
  .bind E.scope fun ho => E.enclosed ho h

end Evaluators

namespace Simulation

variable {K : Likeness} {ρ : Pairing} {Z : Scope → Scope → Prop} {M : Machine → Machine → Prop}
  (S : Simulation K ρ Z M)

include S

/-! ## Statements -/

omit S in
/-- Values that are alike are of the same type. -/
theorem checkValue (name : String) (type : Option TypeName) {v v' : Value} (hv : v.Alike ρ v')
    {s s' : Span} (hs : K.span s s') :
    Acts K M Anyway (Action.checkValue name type v s) (Action.checkValue name type v' s') := by
  unfold Action.checkValue checkType
  cases type with
  | none => exact .pure trivial
  | some expected =>
    simp only [hv.satisfies_eq, hv.tag_eq]
    split
    next => exact .pure trivial
    next => exact .fail_plain (.mismatch name expected v'.tag s) rfl hs

theorem declareChecked (name : String) {b b' : Binding} (hb : b.Alike ρ b')
    {s s' t t' : Span} (hs : K.span s s') (ht : K.span t t') :
    Acts K M Anyway (Evaluate.declareChecked name b s t)
      (Evaluate.declareChecked name b' s' t') := by
  unfold Evaluate.declareChecked
  rw [hb.type]
  exact .bind (checkValue name b'.type hb.value hs) fun _ => S.declare name hb ht

theorem declareVariable (name : String) (type : Option TypeName) {v v' : Value}
    (hv : v.Alike ρ v') {s s' : Span} (hs : K.span s s') :
    Acts K M Anyway (Evaluate.declareVariable name type v s)
      (Evaluate.declareVariable name type v' s') := by
  unfold Evaluate.declareVariable
  simp only [hv.eq_null_iff]
  split
  next => exact S.declare name (Value.Alike.null.binding false type) hs
  next => exact S.declareChecked name (hv.binding false type) hs hs

theorem declareFunction (name : Option String) {v v' : Value} (hv : v.Alike ρ v') {s s' : Span}
    (hs : K.span s s') :
    Acts K M Anyway (Evaluate.declareFunction name v s)
      (Evaluate.declareFunction name v' s') := by
  cases name with
  | none => exact .pure trivial
  | some name => exact S.declare name (hv.binding false none) hs

/-- Parameters that are parallel have the same names and types. -/
theorem bindParams {s s' : Span} (hs : K.span s s') {ps ps' : List Param}
    (hp : List.Forall₂ (Param.Parallel K.span) ps ps') {vs vs' : List Value}
    (hv : List.Forall₂ (Value.Alike ρ) vs vs') :
    Acts K M Anyway (Evaluate.bindParams s ps vs) (Evaluate.bindParams s' ps' vs') := by
  induction hp generalizing vs vs' with
  | nil => exact .pure trivial
  | cons p _ ih =>
    cases hv with
    | nil => exact .pure trivial
    | cons v vs =>
      simp only [Evaluate.bindParams, p.name, p.type]
      exact .bind (S.declareChecked _ (v.binding _ _) hs p.span) fun _ => ih vs

omit S in
/-- A signal becomes an error on both sides, or its value is the result. -/
theorem resultOf {s s' : Span} {flow flow' : Flow} (h : Flow.Alike K ρ K.body flow flow') :
    Acts K M (Value.Alike ρ) (Evaluate.resultOf s flow) (Evaluate.resultOf s' flow') := by
  cases h with
  | normal => exact .pure .null
  | return_ _ hv => exact .pure hv
  | break_ may hs =>
    exact .fail (.escape .break_ _) (K.fails_of_body may fun same => nomatch same) hs
  | continue_ may hs =>
    exact .fail (.escape .continue_ _) (K.fails_of_body may fun same => nomatch same) hs

omit S in
theorem checkResult {f f' : Function} (hf : K.function f f') {v v' : Value} (hv : v.Alike ρ v')
    {s s' : Span} (hs : K.span s s') :
    Acts K M (Value.Alike ρ) (Evaluate.checkResult f v s) (Evaluate.checkResult f' v' s') := by
  have parallel := K.function_parallel hf
  unfold Evaluate.checkResult
  rw [parallel.returns, parallel.name]
  cases f'.returns with
  | none => exact .pure hv
  | some type =>
    simp only [hv.satisfies_eq, hv.tag_eq]
    split
    next => exact .pure hv
    next => exact .fail_plain (.type (.result _ type v'.tag) s) rfl hs

section

variable {p q : Performer} (related : Performs K ρ Z M p q)

include related

omit S in
/-- Statements run side by side up to the first signal. -/
theorem sequence {π : K.Place} {ss ss' : List Stmt} (h : List.Forall₂ (K.stmt π) ss ss') :
    Acts K M (Flow.Alike K ρ π) (Evaluate.sequence p ss) (Evaluate.sequence q ss') := by
  induction h with
  | nil => exact .pure (.normal .null)
  | cons s _ ih =>
    refine .bind (related.execute s) fun {flow flow'} hf => ?_
    cases hf with
    | normal => exact ih
    | break_ may hs => exact .pure (.break_ may hs)
    | continue_ may hs => exact .pure (.continue_ may hs)
    | return_ may hv hs => exact .pure (.return_ may hv hs)

omit S in
theorem prepare {π : K.Place} {s s' : Option Stmt} (h : Option.Rel (K.stmt π) s s') :
    Acts K M Anyway (Evaluate.prepare p s) (Evaluate.prepare q s') := by
  cases h with
  | none => exact .pure trivial
  | some hs => exact .bind (related.execute hs) fun _ => .pure trivial

/-- One step of a statement. -/
theorem statement {π : K.Place} {s s' : Stmt} (h : K.stmt π s s') :
    Acts K M (Flow.Alike K ρ π) (Evaluate.statement p s) (Evaluate.statement q s') := by
  cases K.stmt_parallel h with
  | block hss => exact S.toEvaluators.block (sequence related hss) _ _
  | declare hi hs =>
    refine .bind (related.optional .null hi) fun hv => ?_
    exact .bind (S.declareVariable _ _ hv hs) fun _ => .pure (.normal .null)
  | constant hi hs =>
    refine .bind (related.evaluate hi) fun hv => ?_
    exact .bind (S.declareChecked _ (hv.binding _ _) hs hs) fun _ => .pure (.normal .null)
  | expr he => exact .bind (related.evaluate he) fun hv => .pure (.normal hv)
  | print he hs =>
    refine .bind (related.evaluate he) fun hv => ?_
    refine .bind (S.lookupPrint hs) fun hp => ?_
    exact .bind (related.call hp (.cons hv .nil) hs) fun _ => .pure (.normal .null)
  | if_ hc ha hb =>
    refine .bind (related.evaluate hc) fun hv => ?_
    rw [hv.isTruthy_eq]
    split
    next => exact related.execute ha
    next =>
      cases hb with
      | none => exact .pure (.normal .null)
      | some hb => exact related.execute hb
  | while_ hc hb => exact related.rounds (.some hc) .none hb
  | for_ hi hc hu hb =>
    refine .bind S.scope fun ho => S.enclosed ho ?_
    exact .bind (prepare related hi) fun _ => related.rounds hc hu hb
  | break_ may hs => exact .pure (.break_ may hs)
  | continue_ may hs => exact .pure (.continue_ may hs)
  | return_ may hv hs =>
    exact .bind (related.optional .null hv) fun hv => .pure (.return_ may hv hs)
  | function hf hs =>
    rw [Evaluate.statement, Evaluate.statement, (K.function_parallel hf).name]
    refine .bind (S.newClosure hf) fun hv => ?_
    exact .bind (S.declareFunction _ hv hs) fun _ => .pure (.normal .null)

omit S in
/-- One round of a loop and the rounds that are left. -/
theorem loop {π : K.Place} {c c' update update' : Option Expr} {b b' : Stmt}
    (hc : Option.Rel K.expr c c') (hu : Option.Rel K.expr update update')
    (hb : K.stmt (K.loop π) b b') :
    Acts K M (Flow.Alike K ρ π) (Evaluate.loop p c update b)
      (Evaluate.loop q c' update' b') := by
  have again : Acts K M (Flow.Alike K ρ π)
      (Evaluate.optional p .null update >>= fun _ => p.rounds c update b)
      (Evaluate.optional q .null update' >>= fun _ => q.rounds c' update' b') :=
    .bind (related.optional .null hu) fun _ => related.rounds hc hu hb
  refine .bind (related.optional (.boolean true) hc) fun hv => ?_
  rw [hv.isTruthy_eq]
  split
  next =>
    refine .bind (related.execute hb) fun {flow flow'} hf => ?_
    cases hf with
    | normal => exact again
    | continue_ => exact again
    | break_ => exact .pure (.normal .null)
    | return_ may hv hs => exact .pure (.return_ (K.return_of_loop may) hv hs)
  next => exact .pure (.normal .null)

end

end Simulation

/-! ## Calls -/

namespace Callers

variable {K : Likeness} {ρ : Pairing} {Z : Scope → Scope → Prop} {M N : Machine → Machine → Prop}
  (C : Callers K ρ Z M N)

include C

theorem emitValues {vs vs' : List Value} (hv : List.Forall₂ (Value.Alike ρ) vs vs') :
    Acts K N Anyway (vs.forM Action.emitValue) (vs'.forM Action.emitValue) := by
  induction hv with
  | nil => exact .pure trivial
  | cons v _ ih => exact .bind (C.emitValue v) fun _ => ih

theorem callBuiltin (b : Builtin) {args args' : List Value}
    (ha : List.Forall₂ (Value.Alike ρ) args args') :
    Acts K N (Value.Alike ρ) (Evaluate.callBuiltin b args) (Evaluate.callBuiltin b args') := by
  cases b with
  | print => exact .bind (C.emitValues ha) fun _ => .pure .null

/-- What is called is a function on both sides, with bodies that are alike, or fails on both. -/
theorem invoke {p q : Performer}
    (enter : ∀ {f f' : Function} {o o' : Scope} {args args' : List Value} {s s' : Span},
      K.function f f' → Z o o' → List.Forall₂ (Value.Alike ρ) args args' → K.span s s' →
      Acts K N (Value.Alike ρ) (p.enter f o args s) (q.enter f' o' args' s'))
    {c c' : Value} (hc : c.Alike ρ c') {args args' : List Value}
    (ha : List.Forall₂ (Value.Alike ρ) args args') {s s' : Span} (hs : K.span s s') :
    Acts K N (Value.Alike ρ) (Evaluate.invoke p c args s) (Evaluate.invoke q c' args' s') := by
  cases hc with
  | function hr =>
    refine .bind (C.callable hr) fun {c c'} hc => ?_
    have same_arity : c.arity = c'.arity := by
      cases hc with
      | builtin => rfl
      | closure hf => exact (K.function_parallel hf).params.length_eq
    have same_name : c.name = c'.name := hc.name_eq fun hf => (K.function_parallel hf).name
    rw [same_arity, same_name, ha.length_eq]
    split
    next => exact .fail_plain _ rfl hs
    next =>
      cases hc with
      | builtin b => exact C.callBuiltin b ha
      | closure hf ho => exact C.nested hs (enter hf ho ha hs)
  | number => exact .fail_plain _ rfl hs
  | string => exact .fail_plain _ rfl hs
  | boolean => exact .fail_plain _ rfl hs
  | null => exact .fail_plain _ rfl hs
  | array => exact .fail_plain _ rfl hs
  | object => exact .fail_plain _ rfl hs

/-- A body runs in a new frame on both sides. -/
theorem body (S : Simulation K ρ Z M) {p q : Performer} (related : Performs K ρ Z M p q)
    {f f' : Function} (hf : K.function f f') {o o' : Scope} (ho : Z o o')
    {args args' : List Value} (ha : List.Forall₂ (Value.Alike ρ) args args') {s s' : Span}
    (hs : K.span s s') :
    Acts K N (Value.Alike ρ) (Evaluate.body p f o args s) (Evaluate.body q f' o' args' s') := by
  have parallel := K.function_parallel hf
  have inner : Acts K M (Flow.Alike K ρ K.body)
      (Evaluate.bindParams s f.params args >>= fun _ => Evaluate.sequence p f.body)
      (Evaluate.bindParams s' f'.params args' >>= fun _ => Evaluate.sequence q f'.body) :=
    .bind (S.bindParams hs parallel.params ha) fun _ => Simulation.sequence related parallel.body
  refine .bind (C.enclosed ho inner) fun hflow => ?_
  exact .bind (Simulation.resultOf hflow) fun hv => Simulation.checkResult hf hv hs

end Callers

namespace Simulation

variable {K : Likeness} {ρ : Pairing} {Z : Scope → Scope → Prop} {M : Machine → Machine → Prop}
  (S : Simulation K ρ Z M)

include S

/-! ## One step -/

section

variable {p q : Performer} (related : Performs K ρ Z M p q)

include related

/-- One level of evaluation takes performers that act alike to such performers. -/
theorem step : Performs K ρ Z M (Evaluate.step p) (Evaluate.step q) where
  evaluate := S.expression related.toEvaluates
  call hc ha hs := S.invoke related.enter hc ha hs
  enter hf ho ha hs := S.body S related hf ho ha hs
  execute := S.statement related
  rounds := loop related

end

/-! ## Evaluation -/

omit S in
theorem endless {α β : Type} {Q : α → β → Prop} :
    Acts K M Q (throw .endless : Action α) (throw .endless : Action β) :=
  fun _ _ related => .error .endless related

/-- Evaluation acts alike on tasks that are alike. -/
theorem performs : ∀ fuel : Nat,
    Performs K ρ Z M (Evaluate.perform fuel) (Evaluate.perform fuel)
  | 0 => ⟨⟨fun _ => endless, fun _ _ _ => endless⟩, fun _ _ _ _ => endless, fun _ => endless,
      fun _ _ _ => endless⟩
  | fuel + 1 => S.step (performs fuel)

omit S in
theorem runStatements {p q : Performer} (related : Performs K ρ Z M p q) {ss ss' : List Stmt}
    (h : List.Forall₂ (K.stmt K.top) ss ss') {last last' : Value} (hl : last.Alike ρ last') :
    Acts K M (Value.Alike ρ) (Scriptlet.runStatements p last ss)
      (Scriptlet.runStatements q last' ss') := by
  induction h generalizing last last' with
  | nil => exact .pure hl
  | cons hs _ ih =>
    refine .bind (related.execute hs) fun {flow flow'} hf => ?_
    cases hf with
    | normal hv =>
      cases K.stmt_parallel hs with
      | expr => exact ih hv
      | _ => exact ih hl
    | break_ may hs => exact .fail (.escape .break_ _) (K.fails_of_top may) hs
    | continue_ may hs => exact .fail (.escape .continue_ _) (K.fails_of_top may) hs
    | return_ may _ hs => exact .fail (.escape .return_ _) (K.fails_of_top may) hs

/-- Requests that are alike are served in the same way. -/
theorem serve (fuel : Nat) {r r' : Request} (h : r.Alike K ρ r') :
    Acts K M (Value.Alike ρ) (r.serve (Evaluate.perform fuel))
      (r'.serve (Evaluate.perform fuel)) := by
  cases h with
  | run hss => exact runStatements (S.performs fuel) hss .null
  | evaluate he => exact (S.performs fuel).evaluate he
  | call hc ha hs => exact (S.performs fuel).call hc ha hs

end Simulation

/-! ## Other relations -/

section

variable {K : Likeness} {ρ : Pairing} {Z : Scope → Scope → Prop} {M N : Machine → Machine → Prop}

/-- Calls of values that are alike act alike, whatever the scopes that they are made in. -/
theorem Callers.call (C : Callers K ρ Z M N) (S : Simulation K ρ Z M) (fuel : Nat) {c c' : Value}
    (hc : c.Alike ρ c') {args args' : List Value} (ha : List.Forall₂ (Value.Alike ρ) args args')
    {s s' : Span} (hs : K.span s s') :
    Acts K N (Value.Alike ρ) ((perform fuel).call c args s)
      ((perform fuel).call c' args' s') := by
  cases fuel with
  | zero => exact Simulation.endless
  | succ fuel =>
    refine C.invoke ?_ hc ha hs
    intro f f' o o' args args' s s' hf ho ha hs
    cases fuel with
    | zero => exact Simulation.endless
    | succ fuel => exact C.body S (S.performs fuel) hf ho ha hs

variable (E : Evaluators K ρ Z M N) (S : Simulation K ρ Z M)

include E S

/-- Expressions that are alike act alike in scopes that no names are declared in. -/
theorem Evaluators.evaluates : ∀ fuel : Nat, Evaluates K ρ N (perform fuel) (perform fuel)
  | 0 => ⟨fun _ => Simulation.endless, fun _ _ _ => Simulation.endless⟩
  | fuel + 1 =>
    ⟨E.expression (evaluates fuel), fun hc ha hs => E.toCallers.call S (fuel + 1) hc ha hs⟩

/-- So do blocks. -/
theorem Evaluators.executes (fuel : Nat) {π : K.Place} {ss ss' : List Stmt}
    (h : List.Forall₂ (K.stmt π) ss ss') (s s' : Span) :
    Acts K N (Flow.Alike K ρ π) ((perform fuel).execute (.block ss s))
      ((perform fuel).execute (.block ss' s')) := by
  cases fuel with
  | zero => exact Simulation.endless
  | succ fuel => exact E.block (Simulation.sequence (S.performs fuel) h) s s'

end

end Scriptlet
