import Scriptlet.Eval.Session
import Scriptlet.Proofs.Heap.Cell

/-!
# Programs that are alike

Two nodes are *parallel* if they are of the same sort, with the same names and
operators, and if their parts and their spans are related.  A node is parallel to
itself if its parts are related to themselves (`Expr.parallel_of_parts`).  A
*likeness* is a relation between programs of which related nodes are parallel.  So
it goes down to all parts of a program.

Statements are related at a *place*, which says what signals may come out of
them.  The body of a loop is at another place than the loop, since the loop
receives `break` and `continue`, and the body of a function is at a place of its
own.
-/

namespace Scriptlet

/-! ## Parts -/

/-- The parts of an expression have some properties. -/
def Expr.Parts (E : Expr → Prop) (F : Function → Prop) : Expr → Prop
  | .number _ _ | .string _ _ | .boolean _ _ | .null _ | .identifier _ _ => True
  | .group e _ | .member e _ _ | .unary _ e _ | .stepAfter _ e _ => E e
  | .array es _ => ∀ e ∈ es, E e
  | .object ps _ => ∀ p ∈ ps, E p.2
  | .function f => F f
  | .index e k _ => E e ∧ E k
  | .call c args _ => E c ∧ ∀ e ∈ args, E e
  | .binary _ l r _ => E l ∧ E r
  | .conditional c a b _ => E c ∧ E a ∧ E b
  | .assign _ t v _ => E t ∧ E v

/-- The parts of a statement have some properties. -/
def Stmt.Parts (E : Expr → Prop) (F : Function → Prop) (S : Stmt → Prop) : Stmt → Prop
  | .block body _ => ∀ s ∈ body, S s
  | .declare _ _ _ init _ => ∀ e ∈ init, E e
  | .constant _ _ e _ | .expr e _ | .print e _ => E e
  | .if_ c a b _ => E c ∧ S a ∧ ∀ s ∈ b, S s
  | .while_ c body _ => E c ∧ S body
  | .for_ init c update body _ => (∀ s ∈ init, S s) ∧ (∀ e ∈ c, E e) ∧ (∀ e ∈ update, E e) ∧ S body
  | .break_ _ | .continue_ _ => True
  | .return_ value _ => ∀ e ∈ value, E e
  | .function f => F f

/-! ## Parallel nodes -/

section

variable (E : Expr → Expr → Prop) (F : Function → Function → Prop) (σ : Span → Span → Prop)

/-- Expressions of the same sort with related parts. -/
inductive Expr.Parallel : Expr → Expr → Prop
  | number {n : Number} {s s' : Span} : σ s s' → Parallel (.number n s) (.number n s')
  | string {t : String} {s s' : Span} : σ s s' → Parallel (.string t s) (.string t s')
  | boolean {b : Bool} {s s' : Span} : σ s s' → Parallel (.boolean b s) (.boolean b s')
  | null {s s' : Span} : σ s s' → Parallel (.null s) (.null s')
  | identifier {name : String} {s s' : Span} :
    σ s s' → Parallel (.identifier name s) (.identifier name s')
  | group {e e' : Expr} {s s' : Span} : E e e' → σ s s' → Parallel (.group e s) (.group e' s')
  | array {es es' : List Expr} {s s' : Span} :
    List.Forall₂ E es es' → σ s s' → Parallel (.array es s) (.array es' s')
  | object {ps ps' : List (String × Expr)} {s s' : Span} :
    List.Forall₂ (fun p p' => p.1 = p'.1 ∧ E p.2 p'.2) ps ps' → σ s s' →
    Parallel (.object ps s) (.object ps' s')
  | function {f f' : Function} : F f f' → σ f.span f'.span → Parallel (.function f) (.function f')
  | member {o o' : Expr} {property : String} {s s' : Span} :
    E o o' → σ s s' → Parallel (.member o property s) (.member o' property s')
  | index {o o' k k' : Expr} {s s' : Span} :
    E o o' → E k k' → σ s s' → Parallel (.index o k s) (.index o' k' s')
  | call {c c' : Expr} {args args' : List Expr} {s s' : Span} :
    E c c' → List.Forall₂ E args args' → σ s s' → Parallel (.call c args s) (.call c' args' s')
  | unary {op : UnaryOp} {x x' : Expr} {s s' : Span} :
    E x x' → σ s s' → Parallel (.unary op x s) (.unary op x' s')
  | stepAfter {op : StepOp} {x x' : Expr} {s s' : Span} :
    E x x' → σ s s' → Parallel (.stepAfter op x s) (.stepAfter op x' s')
  | binary {op : BinaryOp} {l l' r r' : Expr} {s s' : Span} :
    E l l' → E r r' → σ s s' → Parallel (.binary op l r s) (.binary op l' r' s')
  | conditional {c c' a a' b b' : Expr} {s s' : Span} :
    E c c' → E a a' → E b b' → σ s s' →
    Parallel (.conditional c a b s) (.conditional c' a' b' s')
  | assign {op : AssignOp} {t t' v v' : Expr} {s s' : Span} :
    E t t' → E v v' → σ s s' → Parallel (.assign op t v s) (.assign op t' v' s')

/-- Parameters of the same name and type. -/
structure Param.Parallel (p p' : Param) : Prop where
  name : p.name = p'.name
  type : p.type = p'.type
  span : σ p.span p'.span

variable (S : Stmt → Stmt → Prop)

/-- Functions of the same signature with related bodies. -/
structure Function.Parallel (f f' : Function) : Prop where
  name : f.name = f'.name
  params : List.Forall₂ (Param.Parallel σ) f.params f'.params
  returns : f.returns = f'.returns
  body : List.Forall₂ S f.body f'.body
  span : σ f.span f'.span

/-- Statements of the same sort with related parts.  The bodies of loops are related in a
way of their own, and a statement that is a signal must be allowed. -/
inductive Stmt.Parallel (inLoop : Stmt → Stmt → Prop) (allowed : Signal → Prop) :
    Stmt → Stmt → Prop
  | block {ss ss' : List Stmt} {s s' : Span} :
    List.Forall₂ S ss ss' → σ s s' → Parallel inLoop allowed (.block ss s) (.block ss' s')
  | declare {word : DeclareWord} {name : String} {type : Option TypeName}
    {init init' : Option Expr} {s s' : Span} :
    Option.Rel E init init' → σ s s' →
    Parallel inLoop allowed (.declare word name type init s) (.declare word name type init' s')
  | constant {name : String} {type : Option TypeName} {init init' : Expr} {s s' : Span} :
    E init init' → σ s s' →
    Parallel inLoop allowed (.constant name type init s) (.constant name type init' s')
  | expr {e e' : Expr} {s s' : Span} :
    E e e' → σ s s' → Parallel inLoop allowed (.expr e s) (.expr e' s')
  | print {e e' : Expr} {s s' : Span} :
    E e e' → σ s s' → Parallel inLoop allowed (.print e s) (.print e' s')
  | if_ {c c' : Expr} {a a' : Stmt} {b b' : Option Stmt} {s s' : Span} :
    E c c' → S a a' → Option.Rel S b b' → σ s s' →
    Parallel inLoop allowed (.if_ c a b s) (.if_ c' a' b' s')
  | while_ {c c' : Expr} {b b' : Stmt} {s s' : Span} :
    E c c' → inLoop b b' → σ s s' →
    Parallel inLoop allowed (.while_ c b s) (.while_ c' b' s')
  | for_ {init init' : Option Stmt} {c c' update update' : Option Expr} {b b' : Stmt}
    {s s' : Span} :
    Option.Rel S init init' → Option.Rel E c c' → Option.Rel E update update' →
    inLoop b b' → σ s s' →
    Parallel inLoop allowed (.for_ init c update b s) (.for_ init' c' update' b' s')
  | break_ {s s' : Span} :
    allowed .break_ → σ s s' → Parallel inLoop allowed (.break_ s) (.break_ s')
  | continue_ {s s' : Span} :
    allowed .continue_ → σ s s' → Parallel inLoop allowed (.continue_ s) (.continue_ s')
  | return_ {value value' : Option Expr} {s s' : Span} :
    allowed .return_ → Option.Rel E value value' → σ s s' →
    Parallel inLoop allowed (.return_ value s) (.return_ value' s')
  | function {f f' : Function} :
    F f f' → σ f.span f'.span → Parallel inLoop allowed (.function f) (.function f')

end

theorem Expr.Parallel.span {E : Expr → Expr → Prop} {F : Function → Function → Prop}
    {σ : Span → Span → Prop} {e e' : Expr} (h : Expr.Parallel E F σ e e') :
    σ e.span e'.span := by
  cases h <;> assumption

section

variable {E : Expr → Expr → Prop} {F : Function → Function → Prop} {σ : Span → Span → Prop}

theorem rel_self {α : Type} {R : α → α → Prop} {o : Option α} (h : ∀ a ∈ o, R a a) :
    Option.Rel R o o := by
  cases o with
  | none => exact .none
  | some a => exact .some (h a rfl)

/-- An expression is parallel to itself if its parts are related to themselves. -/
theorem Expr.parallel_of_parts {e : Expr} (parts : e.Parts (fun x => E x x) fun f => F f f)
    (here : σ e.span e.span) : Expr.Parallel E F σ e e := by
  cases e with
  | number => exact .number here
  | string => exact .string here
  | boolean => exact .boolean here
  | null => exact .null here
  | identifier => exact .identifier here
  | group => exact .group parts here
  | array => exact .array (List.forall₂_same.mpr parts) here
  | object => exact .object (List.forall₂_same.mpr fun p inside => ⟨rfl, parts p inside⟩) here
  | function => exact .function parts here
  | member => exact .member parts here
  | index => exact .index parts.1 parts.2 here
  | call => exact .call parts.1 (List.forall₂_same.mpr parts.2) here
  | unary => exact .unary parts here
  | stepAfter => exact .stepAfter parts here
  | binary => exact .binary parts.1 parts.2 here
  | conditional => exact .conditional parts.1 parts.2.1 parts.2.2 here
  | assign => exact .assign parts.1 parts.2 here

/-- The same for a statement, wherever it stands. -/
theorem Stmt.parallel_of_parts {S : Stmt → Stmt → Prop} {s : Stmt}
    (parts : s.Parts (fun x => E x x) (fun f => F f f) fun t => S t t)
    (here : σ s.span s.span) : Stmt.Parallel E F σ S S (fun _ => True) s s := by
  cases s with
  | block => exact .block (List.forall₂_same.mpr parts) here
  | declare => exact .declare (rel_self parts) here
  | constant => exact .constant parts here
  | expr => exact .expr parts here
  | print => exact .print parts here
  | if_ => exact .if_ parts.1 parts.2.1 (rel_self parts.2.2) here
  | while_ => exact .while_ parts.1 parts.2 here
  | for_ =>
    obtain ⟨init, condition, update, body⟩ := parts
    exact .for_ (rel_self init) (rel_self condition) (rel_self update) body here
  | break_ => exact .break_ trivial here
  | continue_ => exact .continue_ trivial here
  | return_ => exact .return_ trivial (rel_self parts) here
  | function => exact .function parts here

end

/-! ## Likenesses -/

/-- A relation between programs that goes down to their parts. -/
structure Likeness where
  /-- Related spans. -/
  span : Span → Span → Prop
  /-- Where a statement may stand. -/
  Place : Type
  /-- The top level of a program. -/
  top : Place
  /-- The body of a function. -/
  body : Place
  /-- The body of a loop at a place. -/
  loop : Place → Place
  /-- The signals that may come out of a statement at a place. -/
  allowed : Place → Signal → Prop
  /-- The errors that may occur. -/
  fails : Fault → Prop
  /-- Related expressions. -/
  expr : Expr → Expr → Prop
  /-- Related statements at a place. -/
  stmt : Place → Stmt → Stmt → Prop
  /-- Related functions. -/
  function : Function → Function → Prop
  expr_parallel : ∀ {e e' : Expr}, expr e e' → Expr.Parallel expr function span e e'
  stmt_parallel : ∀ {p : Place} {s s' : Stmt}, stmt p s s' →
    Stmt.Parallel expr function span (stmt p) (stmt (loop p)) (allowed p) s s'
  function_parallel : ∀ {f f' : Function}, function f f' →
    Function.Parallel span (stmt body) f f'
  /-- A loop lets `return` through. -/
  return_of_loop : ∀ {p : Place}, allowed (loop p) .return_ → allowed p .return_
  /-- All errors may occur but those of a signal. -/
  fails_of_not_isEscape : ∀ {f : Fault}, f.isEscape = false → fails f
  /-- A signal may leave a program where it is allowed at the top level. -/
  fails_of_top : ∀ {g : Signal} {s : Span}, allowed top g → fails (.escape g s)
  /-- A signal may leave a function where it is allowed in its body.  A call receives
  `return`. -/
  fails_of_body : ∀ {g : Signal} {s : Span}, allowed body g → g ≠ .return_ → fails (.escape g s)

variable (K : Likeness) (ρ : Pairing)

/-- Errors that differ in their spans only, which are related, or the same crash, or no end for
either. -/
inductive Halt.Alike : Halt → Halt → Prop
  | fault {f : Fault} {s : Span} :
    K.fails f → K.span f.span s → Alike (.fault f) (.fault (f.at s))
  | crash (c : Crash) : Alike (.crash c) (.crash c)
  | endless : Alike .endless .endless

variable {K} in
/-- An error that may occur. -/
theorem Halt.Alike.fails {f : Fault} {e : Halt} (h : Halt.Alike K (.fault f) e) : K.fails f := by
  cases h with
  | fault may _ => exact may

variable {K} in
/-- The span of an error is related to that of the other one. -/
theorem Halt.Alike.span {f : Fault} {e : Halt} (h : Halt.Alike K (.fault f) e) :
    ∃ s, K.span f.span s := by
  cases h with
  | @fault _ s _ related => exact ⟨s, related⟩

/-- The same ending of a statement at a place, with values that are alike. -/
inductive Flow.Alike (p : K.Place) : Flow → Flow → Prop
  | normal {v v' : Value} : v.Alike ρ v' → Alike p (.normal v) (.normal v')
  | break_ {s s' : Span} : K.allowed p .break_ → K.span s s' → Alike p (.break_ s) (.break_ s')
  | continue_ {s s' : Span} :
    K.allowed p .continue_ → K.span s s' → Alike p (.continue_ s) (.continue_ s')
  | return_ {v v' : Value} {s s' : Span} :
    K.allowed p .return_ → v.Alike ρ v' → K.span s s' →
    Alike p (.return_ v s) (.return_ v' s')

/-- Requests for related programs, or for calls of values that are alike. -/
inductive Request.Alike : Request → Request → Prop
  | run {program program' : Program} :
    List.Forall₂ (K.stmt K.top) program.body program'.body →
    Alike (.run program) (.run program')
  | evaluate {e e' : Expr} : K.expr e e' → Alike (.evaluate e) (.evaluate e')
  | call {callee callee' : Value} {args args' : List Value} {s s' : Span} :
    callee.Alike ρ callee' → List.Forall₂ (Value.Alike ρ) args args' → K.span s s' →
    Alike (.call callee args s) (.call callee' args' s')

end Scriptlet
