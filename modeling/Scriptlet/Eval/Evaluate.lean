import Scriptlet.Eval.Machine

/-!
# Evaluation

Expressions give values and statements give an ending: they finish, or they end
early with a signal.  A loop receives `break` and `continue`, and a call
receives `return`.  A signal that nobody receives is an error.

What the evaluator can be asked for is a *task*, and a *performer* is a way to
perform tasks.  `step` says how a task is performed if a performer for its parts
is given.  It goes down one level and no further, so whatever is to be shown of
all tasks is shown of one step.

A program may run for ever, so `perform` takes a number of levels that it may go
down, its *fuel*.  When the fuel is used up the action halts as endless.

Operands are evaluated from left to right.  A compound assignment reads its
target before it evaluates the right side.  Blocks, loops and calls have frames
of their own, and a call's frame lies in the scope that its function was made
in, not in the one it is called from.
-/

namespace Scriptlet

/-- How a statement ends. -/
inductive Flow where
  /-- It finishes, with the value of its expression or null. -/
  | normal (v : Value)
  /-- It breaks off a loop. -/
  | break_ (span : Span)
  /-- It goes on with the next round of a loop. -/
  | continue_ (span : Span)
  /-- It ends a call with a result. -/
  | return_ (v : Value) (span : Span)
deriving DecidableEq, Repr, Inhabited

/-- The error of a signal that nobody receives. -/
def Flow.escape? : Flow → Option Fault
  | .normal _ => none
  | .break_ s => some (.escape .break_ s)
  | .continue_ s => some (.escape .continue_ s)
  | .return_ _ s => some (.escape .return_ s)

/-! ## Tasks -/

/-- What the evaluator can be asked for. -/
inductive Task where
  /-- The value of an expression. -/
  | evaluate (e : Expr)
  /-- The value of a call with arguments that are already evaluated. -/
  | call (callee : Value) (args : List Value) (span : Span)
  /-- The value of the body of a function, once the call is counted. -/
  | enter (f : Function) (scope : Scope) (args : List Value) (span : Span)
  /-- The ending of a statement. -/
  | execute (s : Stmt)
  /-- The ending of a loop from the start of a round. -/
  | rounds (condition update : Option Expr) (body : Stmt)

/-- What a task gives. -/
@[reducible] def Task.Result : Task → Type
  | .evaluate _ | .call _ _ _ | .enter _ _ _ _ => Value
  | .execute _ | .rounds _ _ _ => Flow

/-- A way to perform every task. -/
abbrev Performer := (t : Task) → Action t.Result

namespace Performer

/-- Evaluates an expression. -/
@[inline] def evaluate (p : Performer) (e : Expr) : Action Value := p (.evaluate e)

/-- Makes a call. -/
@[inline] def call (p : Performer) (callee : Value) (args : List Value) (span : Span) :
    Action Value :=
  p (.call callee args span)

/-- Enters a function. -/
@[inline] def enter (p : Performer) (f : Function) (s : Scope) (args : List Value)
    (span : Span) : Action Value :=
  p (.enter f s args span)

/-- Executes a statement. -/
@[inline] def execute (p : Performer) (s : Stmt) : Action Flow := p (.execute s)

/-- Goes round a loop. -/
@[inline] def rounds (p : Performer) (condition update : Option Expr) (body : Stmt) :
    Action Flow :=
  p (.rounds condition update body)

end Performer

namespace Evaluate

open Scriptlet.Action

/-! ## Steps without evaluation -/

/-- Counts a variable up or down.  A step in front of the variable gives its new
value, and one behind it the old value. -/
def count (op : StepOp) (operand : Expr) (inFront : Bool) (span : Span) : Action Value :=
  match operand with
  | .identifier name s => do
    match (← lookup name s) with
    | .number n =>
      let updated := n.add op.delta
      assign name (.number updated) span
      return .number (if inFront then updated else n)
    | v => fail (.type (.stepOperand op v.tag) span)
  | _ => fail (.type (.stepTarget op) span)

/-- The value that an assignment stores, from the old value where there is an
operator. -/
def combine (op : AssignOp) (current : Option Value) (v : Value) (span : Span) : Action Value :=
  match op.binary?, current with
  | some binary, some old => applyBinary binary old v span
  | _, _ => return v

/-- Declares a name with a value of its type.  A wrong value and a wrong name may be
blamed on different places. -/
def declareChecked (name : String) (b : Binding) (valueSpan nameSpan : Span) : Action Unit := do
  checkValue name b.type b.value valueSpan
  declare name b nameSpan

/-- Declares a variable.  It may start out as null whatever its type. -/
def declareVariable (name : String) (type : Option TypeName) (v : Value) (span : Span) :
    Action Unit :=
  if v = .null then declare name ⟨.null, false, type⟩ span
  else declareChecked name ⟨v, false, type⟩ span span

/-- Declares a function under its name, if it has one. -/
def declareFunction (name : Option String) (v : Value) (span : Span) : Action Unit :=
  match name with
  | some name => declare name ⟨v, false, none⟩ span
  | none => return ()

/-- Declares the parameters of a call with their arguments. -/
def bindParams (span : Span) : List Param → List Value → Action Unit
  | p :: ps, v :: vs => do
    declareChecked p.name ⟨v, false, p.type⟩ span p.span
    bindParams span ps vs
  | _, _ => return ()

/-- The value of a call whose body ended in a given way. -/
def resultOf (span : Span) : Flow → Action Value
  | .normal _ => return .null
  | .return_ v _ => return v
  | flow => fail (flow.escape?.getD (.type .control span))

/-- Checks the value of a call against the declared type of its function. -/
def checkResult (f : Function) (v : Value) (span : Span) : Action Value :=
  match f.returns with
  | none => return v
  | some type =>
    if v.satisfies type then return v
    else fail (.type (.result (f.name.getD Callable.anonymous) type v.tag) span)

/-- Calls a built-in function. -/
def callBuiltin (b : Builtin) (args : List Value) : Action Value :=
  match b with
  | .print => do
    args.forM emitValue
    return .null

/-! ## One step -/

section

variable (p : Performer)

/-- The values of expressions, from left to right. -/
def values : List Expr → Action (List Value)
  | [] => return []
  | e :: rest => do
    let v ← p.evaluate e
    let vs ← values rest
    return v :: vs

/-- The properties of an object, added to the ones before.  Of two with the same
name the later one counts. -/
def properties (before : Properties) : List (String × Expr) → Action Properties
  | [] => return before
  | (key, e) :: rest => do
    let v ← p.evaluate e
    properties (before.insert key v) rest

/-- What the target of a compound assignment holds.  A plain one does not ask. -/
def current (op : AssignOp) (read : Action Value) : Action (Option Value) :=
  match op.binary? with
  | some _ => do
    let v ← read
    return some v
  | none => return none

/-- An assignment to a slot of a container. -/
def assignSlot (op : AssignOp) (container key : Value) (value : Expr) (span : Span) :
    Action Value := do
  let old ← current op (readSlot container key)
  let v ← p.evaluate value
  let new ← combine op old v span
  writeSlot container key new span
  return new

/-- An assignment to a target. -/
def assignTo (op : AssignOp) (target value : Expr) (span : Span) : Action Value :=
  match target with
  | .identifier name s => do
    let old ← current op (lookup name s)
    let v ← p.evaluate value
    let new ← combine op old v span
    assign name new span
    return new
  | .member o property _ => do
    let container ← p.evaluate o
    assignSlot p op container (.string property) value span
  | .index o k _ => do
    let container ← p.evaluate o
    let key ← p.evaluate k
    assignSlot p op container key value span
  | _ => fail (.type .target target.span)

/-- The value of an expression. -/
def expression (e : Expr) : Action Value :=
  match e with
  | .number n _ => return .number n
  | .string s _ => return .string s
  | .boolean b _ => return .boolean b
  | .null _ => return .null
  | .identifier name s => lookup name s
  | .group inner _ => p.evaluate inner
  | .array es _ => do
    let vs ← values p es
    newArray vs.toArray
  | .object ps _ => do
    let qs ← properties p [] ps
    newObject qs
  | .function f => newClosure f
  | .member o property _ => do
    let container ← p.evaluate o
    readSlot container (.string property)
  | .index o k _ => do
    let container ← p.evaluate o
    let key ← p.evaluate k
    readSlot container key
  | .call c args s => do
    let callee ← p.evaluate c
    let vs ← values p args
    p.call callee vs s
  | .unary .negate x s => do
    match (← p.evaluate x) with
    | .number n => return .number n.neg
    | v => fail (.type (.negation v.tag) s)
  | .unary .not x _ => do
    let v ← p.evaluate x
    return .boolean !v.isTruthy
  | .unary (.step op) x s => count op x true s
  | .stepAfter op x s => count op x false s
  | .binary .and l r _ => do
    let v ← p.evaluate l
    if v.isTruthy then p.evaluate r else return v
  | .binary .or l r _ => do
    let v ← p.evaluate l
    if v.isTruthy then return v else p.evaluate r
  | .binary op l r s => do
    let v ← p.evaluate l
    let w ← p.evaluate r
    applyBinary op v w s
  | .conditional c a b _ => do
    let v ← p.evaluate c
    if v.isTruthy then p.evaluate a else p.evaluate b
  | .assign op t v s => assignTo p op t v s

/-- A call with arguments that are already evaluated. -/
def invoke (callee : Value) (args : List Value) (span : Span) : Action Value :=
  match callee with
  | .function ref => do
    let c ← callable ref
    if args.length ≠ c.arity then
      fail (.arity (c.name.getD Callable.anonymous) c.arity args.length span)
    else
      match c with
      | .builtin b => callBuiltin b args
      | .closure f s => nested span (p.enter f s args span)
  | v => fail (.notCallable v.tag span)

/-- Statements in order, up to the first signal. -/
def sequence : List Stmt → Action Flow
  | [] => return .normal .null
  | s :: rest => do
    match (← p.execute s) with
    | .normal _ => sequence rest
    | signal => return signal

/-- The body of a function, in a frame of its own with the parameters. -/
def body (f : Function) (s : Scope) (args : List Value) (span : Span) : Action Value := do
  let flow ← enclosed s do
    bindParams span f.params args
    sequence p f.body
  let v ← resultOf span flow
  checkResult f v span

/-- The value of an expression that may be missing. -/
def optional (missing : Value) : Option Expr → Action Value
  | some e => p.evaluate e
  | none => return missing

/-- Runs the first clause of a loop, if there is one. -/
def prepare : Option Stmt → Action Unit
  | some s => do
    let _ ← p.execute s
    return ()
  | none => return ()

/-- Runs a statement. -/
def statement (s : Stmt) : Action Flow :=
  match s with
  | .block body _ => do
    enclosed (← scope) (sequence p body)
  | .declare _ name type init span => do
    let v ← optional p .null init
    declareVariable name type v span
    return .normal .null
  | .constant name type init span => do
    let v ← p.evaluate init
    declareChecked name ⟨v, true, type⟩ span span
    return .normal .null
  | .expr e _ => do
    let v ← p.evaluate e
    return .normal v
  | .print e span => do
    let v ← p.evaluate e
    let print ← lookupGlobal Builtin.print.name span
    let _ ← p.call print [v] span
    return .normal .null
  | .if_ c a b _ => do
    let v ← p.evaluate c
    if v.isTruthy then p.execute a
    else
      match b with
      | some b => p.execute b
      | none => return .normal .null
  | .while_ c body _ => p.rounds (some c) none body
  | .for_ init c update body _ => do
    enclosed (← scope) do
      prepare p init
      p.rounds c update body
  | .break_ span => return .break_ span
  | .continue_ span => return .continue_ span
  | .return_ value span => do
    let v ← optional p .null value
    return .return_ v span
  | .function f => do
    let v ← newClosure f
    declareFunction f.name v f.span
    return .normal .null

/-- The rounds of a loop.  Each tests the condition, runs the body and evaluates
the update, where there is one. -/
def loop (condition update : Option Expr) (body : Stmt) : Action Flow := do
  let v ← optional p (.boolean true) condition
  if v.isTruthy then
    match (← p.execute body) with
    | .break_ _ => return .normal .null
    | .return_ v span => return .return_ v span
    | .normal _ | .continue_ _ =>
      let _ ← optional p .null update
      p.rounds condition update body
  else return .normal .null

/-- One level of a task, with a performer for its parts. -/
def step : Performer
  | .evaluate e => expression p e
  | .call callee args span => invoke p callee args span
  | .enter f s args span => body p f s args span
  | .execute s => statement p s
  | .rounds condition update b => loop p condition update b

end

/-! ## Evaluation -/

/-- Performs a task as far as it goes down no more levels than the fuel. -/
def perform : Nat → Performer
  | 0, _ => throw .endless
  | fuel + 1, t => step (perform fuel) t

/-- The value of an expression. -/
def evaluate (fuel : Nat) (e : Expr) : Action Value := (perform fuel).evaluate e

/-- The value of a call. -/
def call (fuel : Nat) (callee : Value) (args : List Value) (span : Span) : Action Value :=
  (perform fuel).call callee args span

end Evaluate

end Scriptlet
