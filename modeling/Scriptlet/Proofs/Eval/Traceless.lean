import Scriptlet.Proofs.Eval.Detour
import Scriptlet.Proofs.Heap.Slot

/-!
# Failing without a trace

Declarations, assignments and steps evaluate their operands first (`Task.operands?`).  Then they
check that they can be done, and only then they change something.  So if one of them fails by
itself, the machine is as the last operand left it, and if an operand fails, it is as that operand
left it (`Task.Fails`).

A call is refused if the callee is no function, if the arguments are too many or too few, if too
many calls are being made, or if a parameter cannot be bound (`Machine.callFault?`).  The last case
comes to light in the middle of the call: the frame of the call is there already, and some
parameters may be in it.  But nobody else sees the frame, so all that was there before is as it was
(`Machine.Keeps`), and the body is not begun.
-/

open Scriptlet.Action Scriptlet.Evaluate

namespace Scriptlet

/-! ## Actions that fail -/

namespace Action

variable {α β : Type}

/-- However the action ends, the machine is as it was. -/
def Looks (a : Action α) : Prop := ∀ m, a.after m = m

/-- If the action fails, the machine is as it was. -/
def Traceless (a : Action α) : Prop := ∀ m e m', a m = .error e m' → m' = m

theorem Looks.of_ok {a : Action α} (looks : a.Looks) {m m' : Machine} {v : α}
    (ended : a m = .ok v m') : m' = m := by
  have same := looks m
  rwa [after, ended] at same

/-- What only looks changes nothing when it fails. -/
theorem Looks.traceless {a : Action α} (looks : a.Looks) : a.Traceless := by
  intro m e m' failed
  have same := looks m
  rwa [after, failed] at same

theorem looks_pure (v : α) : (pure v : Action α).Looks := fun _ => rfl

theorem looks_query (f : Heap → Scope → Except Halt α) : (query f).Looks := by
  intro m
  unfold after query
  cases f m.heap m.scope <;> rfl

/-- Looking first does no harm. -/
theorem Looks.bind {a : Action α} (looks : a.Looks) {f : α → Action β}
    (rest : ∀ v, (f v).Traceless) : (a >>= f).Traceless := by
  intro m e m' failed
  rcases error_of_bind failed with first | ⟨v, m'', ended, second⟩
  · exact looks.traceless m e m' first
  · rw [← looks.of_ok ended]
    exact rest v m'' e m' second

/-- Giving another value than that of an action does not make it fail. -/
theorem Traceless.bind_pure {a : Action α} (traceless : a.Traceless) (f : α → β) :
    (a >>= fun v => pure (f v)).Traceless := by
  intro m e m' failed
  rcases error_of_bind failed with first | ⟨v, m'', -, second⟩
  · exact traceless m e m' first
  · cases second

/-! ## The operations of the machine -/

/-- A declaration is checked before it is made. -/
theorem traceless_declare (name : String) (b : Binding) (span : Span) :
    (declare name b span).Traceless := by
  intro m e m' failed
  unfold declare at failed
  split at failed <;> cases failed
  rfl

/-- An assignment is checked before it is made. -/
theorem traceless_assign (name : String) (v : Value) (span : Span) :
    (assign name v span).Traceless := by
  intro m e m' failed
  unfold assign at failed
  split at failed <;> cases failed
  rfl

/-- A write is checked before it is made. -/
theorem traceless_writeSlot (container key v : Value) (span : Span) :
    (writeSlot container key v span).Traceless := by
  intro m e m' failed
  unfold writeSlot at failed
  split at failed <;> cases failed
  rfl

end Action

namespace Evaluate

theorem looks_combine (op : AssignOp) (old : Option Value) (v : Value) (span : Span) :
    (combine op old v span).Looks := by
  unfold combine
  split
  · exact looks_query _
  · exact looks_pure _

theorem traceless_declareChecked (name : String) (b : Binding) (valueSpan nameSpan : Span) :
    (declareChecked name b valueSpan nameSpan).Traceless :=
  (looks_query _).bind fun _ => traceless_declare name b nameSpan

theorem traceless_declareVariable (name : String) (type : Option TypeName) (v : Value)
    (span : Span) : (declareVariable name type v span).Traceless := by
  unfold declareVariable
  split
  · exact traceless_declare _ _ _
  · exact traceless_declareChecked _ _ _ _

/-- A step reads, works out and assigns.  Only the last of these changes anything. -/
theorem traceless_count (op : StepOp) (operand : Expr) (inFront : Bool) (span : Span) :
    (count op operand inFront span).Traceless := by
  unfold count
  split
  · refine (looks_query _).bind fun v => ?_
    split
    · exact (traceless_assign _ _ _).bind_pure _
    · exact (looks_query _).traceless
  · exact (looks_query _).traceless

end Evaluate

/-! ## Operands -/

/-- The operands of an assignment to a target. -/
def Expr.targetOperands : Expr → List Expr
  | .member o _ _ => [o]
  | .index o k _ => [o, k]
  | _ => []

/-- Whether an assignment to a target gets as far as its value. -/
def Expr.isTarget : Expr → Bool
  | .identifier _ _ | .member _ _ _ | .index _ _ _ => true
  | _ => false

/-- What a target holds, given the values of its operands. -/
def Expr.readTarget : Expr → List Value → Action Value
  | .identifier name span, _ => lookup name span
  | .member _ property _, [container] => readSlot container (.string property)
  | .index _ _ _, [container, key] => readSlot container key
  | e, _ => fail (.type .target e.span)

/-- Reading a target changes nothing. -/
theorem Expr.looks_readTarget (target : Expr) (vs : List Value) :
    (target.readTarget vs).Looks := by
  unfold readTarget
  split <;> exact looks_query _

/-- The operands of a declaration, an assignment or a step, in the order in which they are
evaluated.  Other tasks have parts that are no operands. -/
def Task.operands? : Task → Option (List Expr)
  | .execute (.declare _ _ _ init _) => some init.toList
  | .execute (.constant _ _ init _) => some [init]
  | .evaluate (.assign _ target value _) =>
    some (if target.isTarget then target.targetOperands ++ [value] else [])
  | .evaluate (.unary (.step _) _ _) => some []
  | .evaluate (.stepAfter _ _ _) => some []
  | _ => none

/-- How a task fails that has given operands, with what error, and on what machine. -/
inductive Task.Fails (p : Performer) (t : Task) (es : List Expr) (m : Machine) (e : Halt)
    (m' : Machine) : Prop
  /-- An operand fails, after the ones in front of it. -/
  | operand {before after : List Expr} {x : Expr} {vs : List Value} {m₁ : Machine} :
    es = before ++ x :: after → values p before m = .ok vs m₁ →
    p.evaluate x m₁ = .error e m' → Fails p t es m e m'
  /-- The target of a compound assignment cannot be read, before the value is evaluated. -/
  | target {op : AssignOp} {target value : Expr} {span : Span} {vs : List Value} :
    t = .evaluate (.assign op target value span) → op.binary? ≠ none →
    es = target.targetOperands ++ [value] → values p target.targetOperands m = .ok vs m' →
    target.readTarget vs m' = .error e m' → Fails p t es m e m'
  /-- All operands are evaluated, and the machine is as the last one left it. -/
  | self {vs : List Value} : values p es m = .ok vs m' → Fails p t es m e m'

section

variable {p : Performer} {t : Task} {es before after : List Expr} {x : Expr} {vs : List Value}
  {m m₁ m' : Machine} {e : Halt}

/-- One operand more. -/
theorem values_append_singleton {m₂ : Machine} {v : Value} (last : p.evaluate x m₁ = .ok v m₂) :
    ∀ {before : List Expr} {vs : List Value} {m : Machine}, values p before m = .ok vs m₁ →
      values p (before ++ [x]) m = .ok (vs ++ [v]) m₂
  | [], vs, m, ended => by
    cases ended
    exact (bind_of_ok last _).trans rfl
  | x' :: before, vs, m, ended => by
    obtain ⟨v', m'', first, rest⟩ := ok_of_bind ended
    obtain ⟨vs', m''', others, given⟩ := ok_of_bind rest
    cases given
    refine (bind_of_ok first _).trans ((bind_of_ok ?_ _).trans rfl)
    exact values_append_singleton last others

/-- The next operand fails, or what comes after it fails. -/
theorem Task.Fails.next {α : Type} {f : Value → Action α} (before : List Expr)
    (split : es = before ++ x :: after)
    (done : values p before m = .ok vs m₁)
    (failed : (p.evaluate x >>= f) m₁ = .error e m')
    (go : ∀ v m₂, values p (before ++ [x]) m = .ok (vs ++ [v]) m₂ → f v m₂ = .error e m' →
      t.Fails p es m e m') : t.Fails p es m e m' := by
  rcases error_of_bind failed with here | ⟨v, m₂, ended, later⟩
  · exact .operand split done here
  · exact go v m₂ (values_append_singleton ended done) later

/-- After all operands, a task fails without a trace. -/
theorem Task.Fails.of_traceless {α : Type} {a : Action α} (traceless : a.Traceless)
    (done : values p es m = .ok vs m₁) (failed : a m₁ = .error e m') : t.Fails p es m e m' := by
  obtain rfl := traceless m₁ e m' failed
  exact .self done

/-- How an assignment fails, once the operands of its target are evaluated. -/
theorem Task.Fails.assign {op : AssignOp} {target value : Expr} {span : Span}
    {write : Value → Action Unit} (traceless : ∀ v, (write v).Traceless)
    (done : values p target.targetOperands m = .ok vs m₁)
    (failed : (do
      let old ← current op (target.readTarget vs)
      let v ← p.evaluate value
      let new ← combine op old v span
      write new
      return new : Action Value) m₁ = .error e m') :
    (Task.evaluate (.assign op target value span)).Fails p (target.targetOperands ++ [value]) m e
      m' := by
  have rest : ∀ old, (do
      let v ← p.evaluate value
      let new ← combine op old v span
      write new
      return new : Action Value) m₁ = .error e m' →
      (Task.evaluate (.assign op target value span)).Fails p (target.targetOperands ++ [value]) m
        e m' := by
    intro old failed
    refine .next target.targetOperands rfl done failed fun v m₂ done' failed' => ?_
    refine .of_traceless ((looks_combine op old v span).bind fun new => ?_) done' failed'
    exact (traceless new).bind_pure _
  unfold current at failed
  cases compound : op.binary? with
  | none =>
    rw [compound] at failed
    exact rest none failed
  | some binary =>
    rw [compound] at failed
    rcases error_of_bind failed with reading | ⟨old, m₂, read, later⟩
    · rcases error_of_bind reading with unread | ⟨v, m₂, -, given⟩
      · obtain rfl := (target.looks_readTarget vs).traceless m₁ e m' unread
        exact .target rfl (by simp [compound]) rfl done unread
      · cases given
    · obtain ⟨v, m₃, seen, given⟩ := ok_of_bind read
      cases given
      obtain rfl := (target.looks_readTarget vs).of_ok seen
      exact rest (some v) later

end

/-- A task with operands fails in one of the ways that there are. -/
theorem Task.fails_of_step {p : Performer} {t : Task} {es : List Expr} {m m' : Machine} {e : Halt}
    (operands : t.operands? = some es) (failed : step p t m = .error e m') :
    t.Fails p es m e m' := by
  have none_yet : ∀ m, values p [] m = .ok [] m := fun _ => rfl
  unfold operands? at operands
  split at operands
  next name type init span =>
    cases operands
    cases init with
    | none =>
      refine .of_traceless ?_ (none_yet m) (failed : (_ >>= fun _ => _ : Action Flow) m = _)
      exact (traceless_declareVariable _ _ _ _).bind_pure _
    | some x =>
      refine .next [] rfl (none_yet m) failed fun v m₁ done failed' => ?_
      exact .of_traceless ((traceless_declareVariable _ _ _ _).bind_pure _) done failed'
  next name type init span =>
    cases operands
    refine .next [] rfl (none_yet m) failed fun v m₁ done failed' => ?_
    exact .of_traceless ((traceless_declareChecked _ _ _ _).bind_pure _) done failed'
  next op target value span =>
    cases operands
    cases target with
    | identifier name s =>
      exact .assign (fun v => traceless_assign name v span) (none_yet m) failed
    | member o property s =>
      refine .next [] rfl (none_yet m) failed fun c m₁ done failed' => ?_
      exact .assign (fun v => traceless_writeSlot _ _ v span) done failed'
    | index o k s =>
      refine .next [] rfl (none_yet m) failed fun c m₁ done failed' => ?_
      refine .next [o] rfl done failed' fun key m₂ done' failed'' => ?_
      exact .assign (fun v => traceless_writeSlot _ _ v span) done' failed''
    | number | string | boolean | null | group | array | object | function | call | unary
    | stepAfter | binary | conditional | assign =>
      exact
        .of_traceless (a := fail (.type .target _)) (looks_query _).traceless (none_yet m) failed
  next op x span =>
    cases operands
    exact .of_traceless (traceless_count op x true span) (none_yet m) failed
  next op x span =>
    cases operands
    exact .of_traceless (traceless_count op x false span) (none_yet m) failed
  next => cases operands

/-! ## Refused calls -/

/-- Why parameters cannot be bound to arguments in a frame that binds certain names, if they
cannot. -/
def paramFault? (span : Span) (bound : List String) : List Param → List Value → Option Fault
  | p :: ps, v :: vs =>
    match checkType p.name p.type v span with
    | .error fault => some fault
    | .ok () =>
      if Keyword.isReserved p.name then some (.reserved p.name p.span)
      else if p.name ∈ bound then some (.duplicate p.name p.span)
      else paramFault? span (p.name :: bound) ps vs
  | _, _ => none

namespace Machine

/-- Why a call is refused before its body is begun, if it is. -/
def callFault? (m : Machine) (callee : Value) (args : List Value) (span : Span) : Option Fault :=
  match callee with
  | .function ref =>
    let c := m.heap.callable ref
    if args.length ≠ c.arity then
      some (.arity (c.name.getD Callable.anonymous) c.arity args.length span)
    else
      match c with
      | .builtin _ => none
      | .closure f _ =>
        if maxDepth ≤ m.depth then some (.recursion maxDepth span)
        else paramFault? span [] f.params args
  | v => some (.notCallable v.tag span)

/-- The second machine has all that the first one has, as it was.  New cells may be there too. -/
structure Keeps (m m' : Machine) : Prop where
  cells : ∀ c, m.heap.Has c → m.heap.SameAt m'.heap c
  scope : m'.scope = m.scope
  depth : m'.depth = m.depth
  output : m'.output = m.output

theorem Keeps.refl (m : Machine) : m.Keeps m where
  cells c _ := .refl m.heap c
  scope := rfl
  depth := rfl
  output := rfl

/-- Two changes to one cell are a change to it. -/
theorem Changes.trans {m m₁ m₂ : Machine} {c : Cell} (first : m.Changes c m₁)
    (second : m₁.Changes c m₂) : m.Changes c m₂ where
  cells d other := (first.cells d other).trans (second.cells d other)
  has := second.has
  scope := second.scope.trans first.scope
  depth := second.depth.trans first.depth
  output := second.output.trans first.output

theorem Changes.refl {m : Machine} {c : Cell} (there : m.heap.Has c) : m.Changes c m where
  cells d _ := .refl m.heap d
  has := there
  scope := rfl
  depth := rfl
  output := rfl

/-- The machine in which the parameters of a call are bound. -/
def entered (m : Machine) (s : Scope) : Machine :=
  { m with heap := (m.heap.newEnclosed s).2, scope := (m.heap.newEnclosed s).1,
           depth := m.depth + 1 }

/-- What is changed in the frame of a call only keeps what was there before. -/
theorem Changes.keeps {m m' : Machine} {s : Scope}
    (changes : (m.entered s).Changes ⟨.frame, m.heap.frames.size⟩ m') :
    m.Keeps { m' with scope := m.scope, depth := m'.depth - 1 } where
  cells c there := by
    have old : c ≠ ⟨.frame, m.heap.frames.size⟩ := by
      rintro rfl
      exact Nat.lt_irrefl _ there
    exact ((m.heap.puts_newEnclosed s).sameAt old).trans (changes.cells c old)
  scope := rfl
  depth := congrArg Nat.pred changes.depth
  output := changes.output

end Machine

namespace Evaluate

variable {m : Machine} {p : Performer} {span : Span} {args : List Value}

/-- A checked declaration, by the checks that it makes. -/
theorem declareChecked_eq (name : String) (b : Binding) (valueSpan nameSpan : Span) (m : Machine) :
    declareChecked name b valueSpan nameSpan m =
      match checkType name b.type b.value valueSpan, m.heap.declareFault? m.scope name nameSpan with
      | .error fault, _ | .ok (), some fault => .error (.fault fault) m
      | .ok (), none => .ok () { m with heap := m.heap.bind m.scope.own name b } := by
  cases checked : checkType name b.type b.value valueSpan with
  | error fault =>
    have first : checkValue name b.type b.value valueSpan m = .error (.fault fault) m := by
      simp only [checkValue, query, checked, Halt.ofExcept]
    exact bind_of_error first _
  | ok u =>
    have first : checkValue name b.type b.value valueSpan m = .ok u m := by
      simp only [checkValue, query, checked, Halt.ofExcept]
    refine (bind_of_ok first _).trans ?_
    unfold declare
    cases m.heap.declareFault? m.scope name nameSpan <;> rfl

/-- The frame of the current scope binds certain names, and no others. -/
def Binds (m : Machine) (bound : List String) : Prop :=
  m.heap.Has ⟨.frame, m.scope.own⟩ ∧
    ∀ name, (m.heap.bindingIn? m.scope.own name).isSome = decide (name ∈ bound)

/-- Binding parameters fails as it should, and changes the frame of the current scope only. -/
theorem bindParams_spec : ∀ (ps : List Param) (vs : List Value) {m : Machine}
    {bound : List String}, Binds m bound →
    ∃ m', m.Changes ⟨.frame, m.scope.own⟩ m' ∧
      bindParams span ps vs m =
        match paramFault? span bound ps vs with
        | some fault => .error (.fault fault) m'
        | none => .ok () m'
  | [], _, m, bound, binds => ⟨m, .refl binds.1, rfl⟩
  | _ :: _, [], m, bound, binds => ⟨m, .refl binds.1, rfl⟩
  | p :: ps, v :: vs, m, bound, ⟨there, binds⟩ => by
    have first := declareChecked_eq p.name ⟨v, false, p.type⟩ span p.span m
    simp only [Heap.declareFault?, binds p.name, decide_eq_true_eq] at first
    unfold bindParams paramFault?
    cases checked : checkType p.name p.type v span with
    | error fault =>
      rw [checked] at first
      exact ⟨m, .refl there, bind_of_error first _⟩
    | ok u =>
      rw [checked] at first
      by_cases reserved : Keyword.isReserved p.name = true
      · rw [if_pos reserved] at first
        exact ⟨m, .refl there, by simpa only [if_pos reserved] using bind_of_error first _⟩
      by_cases taken : p.name ∈ bound
      · rw [if_neg reserved, if_pos taken] at first
        refine ⟨m, .refl there, ?_⟩
        simpa only [if_neg reserved, if_pos taken] using bind_of_error first _
      rw [if_neg reserved, if_neg taken] at first
      have puts := m.heap.puts_bind there p.name ⟨v, false, p.type⟩
      have changes := Machine.changes_of_puts puts
      have binds' : Binds { m with heap := m.heap.bind m.scope.own p.name ⟨v, false, p.type⟩ }
          (p.name :: bound) := by
        refine ⟨changes.has, fun name => ?_⟩
        rw [Heap.bindingIn?_bind]
        by_cases same : name = p.name
        · have here : m.scope.own < m.heap.frames.size := there
          simp [same, here]
        · simp [same, binds name]
      obtain ⟨m', later, outcome⟩ := bindParams_spec ps vs binds'
      refine ⟨m', changes.trans later, ?_⟩
      simp only [if_neg reserved, if_neg taken]
      exact (bind_of_ok first _).trans outcome

/-- Binding the parameters of a call, in its new frame. -/
theorem bindParams_entered (m : Machine) (s : Scope) (span : Span) (ps : List Param)
    (vs : List Value) :
    ∃ m', (m.entered s).Changes ⟨.frame, m.heap.frames.size⟩ m' ∧
      bindParams span ps vs (m.entered s) =
        match paramFault? span [] ps vs with
        | some fault => .error (.fault fault) m'
        | none => .ok () m' := by
  refine bindParams_spec ps vs ⟨?_, fun name => ?_⟩
  · exact ((m.heap.puts_newEnclosed s).has _).mpr (.inr rfl)
  · have fresh := (m.heap.puts_newEnclosed s).contents ⟨.frame, m.heap.frames.size⟩
    rw [if_pos rfl] at fresh
    exact congrArg Option.isSome (congrFun (Contents.frame.inj fresh) name)

variable {f : Function} {s : Scope} {fault : Fault}

/-- What fails in the frame of a call fails in the body of the function. -/
theorem body_eq_error {m' : Machine} {e : Halt}
    (failed : (bindParams span f.params args >>= fun _ => sequence p f.body) (m.entered s) =
      .error e m') :
    body p f s args span { m with depth := m.depth + 1 } =
      .error e { m' with scope := m.scope } := by
  refine bind_of_error ?_ _
  change within (m.heap.newEnclosed s).1 _
    { m with heap := (m.heap.newEnclosed s).2, depth := m.depth + 1 } = _
  unfold within
  rw [show ({ m with heap := (m.heap.newEnclosed s).2, scope := (m.heap.newEnclosed s).1,
                     depth := m.depth + 1 } : Machine) = m.entered s from rfl, failed]

/-- A body with parameters that cannot be bound is not begun. -/
theorem body_of_refused (refused : paramFault? span [] f.params args = some fault) :
    ∃ m', m.Keeps { m' with depth := m'.depth - 1 } ∧
      ∀ p, body p f s args span { m with depth := m.depth + 1 } = .error (.fault fault) m' := by
  obtain ⟨m', changes, outcome⟩ := bindParams_entered m s span f.params args
  rw [refused] at outcome
  exact ⟨_, changes.keeps, fun p => body_eq_error (bind_of_error outcome _)⟩

/-- A body with parameters that are bound begins with its first statement. -/
theorem body_of_bound (bound : paramFault? span [] f.params args = none) {first : Stmt}
    {rest : List Stmt} (begins : f.body = first :: rest) :
    ∃ m', (m.entered s).Changes ⟨.frame, m.heap.frames.size⟩ m' ∧
      ∀ (p : Performer) e m'', p.execute first m' = .error e m'' →
        ∃ m₁, body p f s args span { m with depth := m.depth + 1 } = .error e m₁ := by
  obtain ⟨m', changes, outcome⟩ := bindParams_entered m s span f.params args
  rw [bound] at outcome
  refine ⟨m', changes, fun p e m'' failed => ?_⟩
  have halts : (bindParams span f.params args >>= fun _ => sequence p f.body) (m.entered s) =
      .error e m'' := by
    rw [begins]
    exact (bind_of_ok outcome _).trans (bind_of_error failed _)
  exact ⟨_, body_eq_error halts⟩

theorem deeper_of_error {α : Type} {a : Action α} {e : Halt} {m' : Machine}
    (failed : a { m with depth := m.depth + 1 } = .error e m') :
    deeper a m = .error e { m' with depth := m'.depth - 1 } := by
  simp only [deeper, failed]

/-- A call of a closure that gets as far as binding parameters. -/
theorem invoke_of_counted {ref : Nat} (found : m.heap.callable ref = .closure f s)
    (arity : args.length = f.params.length) (room : ¬ maxDepth ≤ m.depth) (p : Performer) :
    invoke p (.function ref) args span m = deeper (p.enter f s args span) m :=
  invoke_closure found arity (Nat.lt_of_not_le room) p span

/-- A refused call fails at once, or gets as far as binding parameters. -/
theorem invoke_of_refused {callee : Value} (refused : m.callFault? callee args span = some fault) :
    (∀ p, invoke p callee args span m = .error (.fault fault) m) ∨
      ∃ f s m', m.Keeps { m' with depth := m'.depth - 1 } ∧
        (∀ p, invoke p callee args span m = deeper (p.enter f s args span) m) ∧
        ∀ p, body p f s args span { m with depth := m.depth + 1 } = .error (.fault fault) m' := by
  cases callee with
  | function ref =>
    have read : callable ref m = .ok (m.heap.callable ref) m := rfl
    simp only [Machine.callFault?] at refused
    split at refused
    next uneven =>
      cases refused
      refine .inl fun p => (bind_of_ok read _).trans ?_
      simp only [if_pos uneven]
      rfl
    next even =>
      split at refused
      next => cases refused
      next f s found =>
        have counted : args.length = f.params.length := by
          have arity := not_not.mp even
          rwa [found] at arity
        split at refused
        next full =>
          cases refused
          rw [found] at read even
          refine .inl fun p => (bind_of_ok read _).trans ?_
          simp only [if_neg even, nested, if_pos full]
          rfl
        next room =>
          obtain ⟨m', keeps, fails⟩ := body_of_refused (m := m) (s := s) refused
          exact .inr ⟨f, s, m', keeps, invoke_of_counted found counted room, fails⟩
  | number | string | boolean | null | array | object =>
    cases refused
    exact .inl fun p => rfl

end Evaluate

/-- A refused call fails, and all that was there is as it was. -/
theorem call_of_refused {m : Machine} {callee : Value} {args : List Value} {span : Span}
    {fault : Fault} (refused : m.callFault? callee args span = some fault) (fuel : Nat) :
    ∃ m', (perform (fuel + 2)).call callee args span m = .error (.fault fault) m' ∧
      m.Keeps m' := by
  rcases invoke_of_refused refused with at_once | ⟨f, s, m', keeps, enters, fails⟩
  · exact ⟨m, at_once _, .refl m⟩
  · refine ⟨_, (enters (perform (fuel + 1))).trans ?_, keeps⟩
    have failed : (perform (fuel + 1)).enter f s args span { m with depth := m.depth + 1 } =
        .error (.fault fault) m' := fails (perform fuel)
    exact deeper_of_error failed

/-- A refused call comes to no statement. -/
theorem not_meets_of_refused {m m' : Machine} {callee : Value} {args : List Value} {span : Span}
    {fault : Fault} (refused : m.callFault? callee args span = some fault) (fuel : Nat)
    (st : Stmt) : ¬ (Request.call callee args span).Meets fuel m (.execute st) m' := by
  rintro ⟨other, differs⟩
  refine differs ?_
  cases fuel with
  | zero => exact if_neg fun same => nomatch same.1
  | succ fuel =>
    refine (if_neg fun same => nomatch same.1).trans ?_
    change invoke (detour (.execute st) m' other fuel) callee args span m =
      invoke (perform fuel) callee args span m
    rcases invoke_of_refused refused with at_once | ⟨f, s, m'', -, enters, fails⟩
    · rw [at_once, at_once]
    · rw [enters, enters]
      -- The body comes to nothing, whoever performs its statements.
      have same : (detour (.execute st) m' other fuel).enter f s args span
          { m with depth := m.depth + 1 } =
          (perform fuel).enter f s args span { m with depth := m.depth + 1 } := by
        cases fuel with
        | zero => exact if_neg fun same => nomatch same.1
        | succ fuel =>
          refine (if_neg fun same => nomatch same.1).trans ?_
          exact (fails _).trans (fails _).symm
      simp only [deeper, same]

/-- A call of a closure that is not refused comes to the first statement of the body, with all
parameters bound. -/
theorem meets_of_not_refused {m : Machine} {ref : Nat} {args : List Value} {span : Span}
    (accepted : m.callFault? (.function ref) args span = none) {f : Function} {s : Scope}
    (found : m.heap.callable ref = .closure f s) {first : Stmt} {rest : List Stmt}
    (begins : f.body = first :: rest) :
    ∃ m', (m.entered s).Changes ⟨.frame, m.heap.frames.size⟩ m' ∧
      ∀ fuel, (Request.call (.function ref) args span).Meets (fuel + 2) m (.execute first) m' := by
  simp only [Machine.callFault?, found] at accepted
  split at accepted
  next => cases accepted
  next even =>
    split at accepted
    next => cases accepted
    next room =>
      have counted : args.length = f.params.length := not_not.mp even
      obtain ⟨m', changes, reaches⟩ := body_of_bound (m := m) (s := s) accepted begins
      refine ⟨m', changes, fun fuel => ?_⟩
      let t : Task := .execute first
      obtain ⟨halt, unlike⟩ :=
        exists_other_halt ((Request.call (.function ref) args span).serve (perform (fuel + 2)) m)
      let other : Performer := fun _ => throw halt
      obtain ⟨m₁, failed⟩ := reaches (detour t m' other fuel) halt m' (detour_self t m' other fuel)
      refine ⟨other, fun same => unlike { m₁ with depth := m₁.depth - 1 } (same.symm.trans ?_)⟩
      refine (if_neg fun same => nomatch same.1).trans ?_
      refine (invoke_of_counted found counted room _).trans (deeper_of_error ?_)
      exact (if_neg fun same => nomatch same.1).trans failed

/-- A declaration, an assignment or a step that fails by itself leaves the machine as its last
operand left it, and otherwise as the operand that failed left it.  A compound assignment whose
target cannot be read fails before its value is evaluated, on the machine that the other operands
left.  A call that is refused keeps all that was there as it was, prints nothing, and comes to no
statement.  Other calls of closures come to the first statement of the body. -/
theorem failures_leave_no_trace :
    (∀ (fuel : Nat) (t : Task) (es : List Expr) (m : Machine) (e : Halt) (m' : Machine),
      t.operands? = some es → perform (fuel + 1) t m = .error e m' →
      t.Fails (perform fuel) es m e m') ∧
    (∀ (m : Machine) (callee : Value) (args : List Value) (span : Span) (fault : Fault),
      m.callFault? callee args span = some fault →
      ∀ fuel : Nat,
        (∃ m', (perform (fuel + 2)).call callee args span m = .error (.fault fault) m' ∧
          m.Keeps m') ∧
        ∀ (s : Stmt) (m' : Machine),
          ¬ (Request.call callee args span).Meets fuel m (.execute s) m') ∧
    ∀ (m : Machine) (ref : Nat) (args : List Value) (span : Span) (f : Function) (s : Scope)
      (first : Stmt) (rest : List Stmt),
      m.callFault? (.function ref) args span = none → m.heap.callable ref = .closure f s →
      f.body = first :: rest →
      ∃ m', (m.entered s).Changes ⟨.frame, m.heap.frames.size⟩ m' ∧
        ∀ fuel : Nat,
          (Request.call (.function ref) args span).Meets (fuel + 2) m (.execute first) m' := by
  refine ⟨fun fuel t es m e m' operands failed => Task.fails_of_step operands failed, ?_,
    fun m ref args span f s first rest accepted found begins =>
      meets_of_not_refused accepted found begins⟩
  intro m callee args span fault refused fuel
  exact ⟨call_of_refused refused fuel, fun s m' => not_meets_of_refused refused fuel s⟩

/-- A constant is assigned to, and a function is called that has two parameters of one name.  A
function with one of them can be called. -/
theorem failures_leave_no_trace_of_calls :
    ∃ (m m₁ : Machine) (one two : Function) (fault : Fault),
      m = (Machine.initial.withFunction one).withFunction two ∧
      m.callFault? (.function 2) [.null, .null] default = some fault ∧
      (∃ m', (perform 2).call (.function 2) [.null, .null] default m = .error (.fault fault) m' ∧
        m.Keeps m') ∧
      ¬ (Request.call (.function 2) [.null, .null] default).Meets 2 m (.execute (.break_ default))
        m₁ ∧
      m.callFault? (.function 1) [.null] default = none ∧
      (Request.call (.function 1) [.null] default).Meets 2 m (.execute (.break_ default)) m₁ ∧
      ∃ t : Task, t.operands? = some [.null default] ∧
        perform 2 t m = .error (.fault (.constant "print" default)) m ∧
        t.Fails (perform 1) [.null default] m (.fault (.constant "print" default)) m := by
  let a : Param := ⟨"a", none, default⟩
  let one : Function := .mk none [a] none [.break_ default] default
  let two : Function := .mk none [a, a] none [.break_ default] default
  let m : Machine := (Machine.initial.withFunction one).withFunction two
  let t : Task :=
    .evaluate (.assign .set (.identifier "print" default) (.null default) default)
  obtain ⟨operations, refusals, others⟩ := failures_leave_no_trace
  have refused : m.callFault? (.function 2) [.null, .null] default =
      some (.duplicate "a" default) := by decide +kernel
  have accepted : m.callFault? (.function 1) [.null] default = none := by decide +kernel
  have failed : perform 2 t m = .error (.fault (.constant "print" default)) m := rfl
  obtain ⟨m₁, -, meets⟩ := others m 1 [.null] default one m.scope _ _ accepted rfl rfl
  exact ⟨m, m₁, one, two, _, rfl, refused, (refusals m _ _ _ _ refused 0).1,
    (refusals m _ _ _ _ refused 2).2 _ _, accepted, meets 0, t, rfl, failed,
    operations 1 t _ m _ m rfl failed⟩

end Scriptlet
