import Mathlib.Data.List.Forall2
import Scriptlet.Proofs.Tree.Rendering
import Scriptlet.Tree.Parser
import Scriptlet.Tree.Shape

/-!
# Two runs of the parser

Two tokens are *like* if the parser cannot tell them apart: they are of the same kind, and a
name, a number or a string is the same.  If two runs of the parser meet tokens that are like,
they do the same.

How far two runs go together differs, so it is left open here.  A *pace* (`Pace`) says which
lists of tokens are side by side, and what it means that two parsers do the same from there.
It must allow to go on after a token that both took, and with one parser after another.  Then
all parsers keep pace (`Pace.keepsBelow`).

A parser of a lower rank may be called on the same tokens, any other one is called on fewer.
So the lemmas take the entry points of the recursion for granted on fewer tokens
(`Pace.KeepsBelow`), and follow the ranks.
-/

namespace Scriptlet

/-! ## Tokens that are like -/

/-- The parser cannot tell two tokens apart. -/
structure Token.Like (t t' : Token) : Prop where
  kind : t.kind = t'.kind
  name : t.kind = .identifier → t.lexeme = t'.lexeme
  number : t.kind = .number → Parser.numberOf t = Parser.numberOf t'
  string : t.kind = .string → Parser.stringOf t = Parser.stringOf t'
  unterminated : t.kind = .string → t.isUnterminated = t'.isUnterminated

/-- Two things that are the same but for what a function forgets. -/
abbrev Same {α γ : Type} (f : α → γ) (a b : α) : Prop := f a = f b

/-- The cause of a refusal without its span. -/
def Refusal.Cause.bare : Refusal.Cause → Refusal.Cause
  | .unexpected e => .unexpected e
  | .invalidTarget _ => .invalidTarget default
  | .unterminated => .unterminated

/-- What is expected does not depend on spans. -/
theorem Refusal.Cause.eq_unexpected {cause : Refusal.Cause} {e : Expectation}
    (h : cause.bare = .unexpected e) : cause = .unexpected e := by
  cases cause with
  | unexpected => exact h
  | invalidTarget | unterminated => cases h

namespace Parser

/-! ## What is read off tokens -/

/-- Tokens that are like are of a kind or are not. -/
theorem rel_ofKind (k : Kind) {t t' : Token} (like : t.Like t') :
    Option.Rel (fun t t' => t.Like t' ∧ t.kind = k) (ofKind k t) (ofKind k t') := by
  unfold ofKind
  rw [← like.kind]
  split
  next is_k => exact .some ⟨like, is_k⟩
  next => exact .none

/-- A table of kinds. -/
theorem rel_table {κ : Type} (table : Kind → Option κ) {t t' : Token} (like : t.Like t') :
    Option.Rel Eq (table t.kind) (table t'.kind) := by
  rw [like.kind]
  cases table t'.kind with
  | none => exact .none
  | some _ => exact .some rfl

/-- A table of kinds, with the span of the token. -/
theorem rel_table_span {κ : Type} (table : Kind → Option κ) {t t' : Token} (like : t.Like t') :
    Option.Rel (Same Prod.fst) ((table t.kind).map (·, t.span))
      ((table t'.kind).map (·, t'.span)) := by
  rw [like.kind]
  cases table t'.kind with
  | none => exact .none
  | some _ => exact .some rfl

/-- Tokens that are like are the same key, if they are one. -/
theorem rel_propertyName? {t t' : Token} (like : t.Like t') :
    Option.Rel Eq (propertyName? t) (propertyName? t') := by
  have kind := like.kind
  unfold propertyName?
  split
  next is_name =>
    rw [is_name] at kind
    rw [← kind, like.name is_name]
    exact .some rfl
  next is_string =>
    rw [is_string] at kind
    rw [← kind, like.string is_string, like.unterminated is_string]
    dsimp only
    split
    next => exact .none
    next => exact .some rfl
  next not_name not_string =>
    split
    next is_name => exact absurd (kind.trans is_name) not_name
    next is_string => exact absurd (kind.trans is_string) not_string
    next => exact .none

/-- Tokens that are like are the same expression, if they are one by themselves. -/
theorem rel_atom? {t t' : Token} (like : t.Like t') :
    Option.Rel (Same Expr.bare) (atom? t) (atom? t') := by
  have kind := like.kind
  unfold atom?
  rw [← kind]
  split
  next is_number =>
    rw [like.number is_number]
    exact .some rfl
  next is_string =>
    rw [like.string is_string, like.unterminated is_string]
    split
    next => exact .none
    next => exact .some rfl
  next => exact .some rfl
  next => exact .some rfl
  next => exact .some rfl
  next is_name =>
    rw [like.name is_name]
    exact .some rfl
  next => exact .none

/-! ## What does not depend on spans -/

/-- Parameters without their spans. -/
def bareParams (ps : List Param) : List Param := ps.map fun p => { p with span := default }

/-- What can be assigned to does not depend on spans. -/
theorem isAssignable_eq {e e' : Expr} (same : Same Expr.bare e e') :
    e.isAssignable = e'.isAssignable := by
  rw [← Expr.isAssignable_bare e, ← Expr.isAssignable_bare e', same]

/-- The type of an initializer does not depend on spans. -/
theorem infer_eq {e e' : Expr} (same : Same Expr.bare e e') :
    TypeName.infer e = TypeName.infer e' := by
  have infer_bare (e : Expr) : TypeName.infer e.bare = TypeName.infer e := by cases e <;> rfl
  rw [← infer_bare e, ← infer_bare e', same]

/-- Whether a function has a name does not depend on spans. -/
theorem name_eq {f f' : Function} (same : Same Function.bare f f') : f.name = f'.name := by
  have name_bare (f : Function) : f.bare.name = f.name := by cases f; rfl
  rw [← name_bare f, ← name_bare f', same]

/-! ## Paces -/

/-- Two lists of tokens start in the same way. -/
inductive Heads (Rest : List Token → List Token → Prop) : List Token → List Token → Prop
  | nil : Heads Rest [] []
  | cons {t t' : Token} {us us' : List Token} :
    t.Like t' → Rest us us' → Heads Rest (t :: us) (t' :: us')

/-- How two runs of the parser go side by side.  The index says from where. -/
structure Pace (σ : Type) where
  /-- Two lists of tokens are side by side. -/
  At : σ → List Token → List Token → Prop
  /-- Two lists of tokens are what is left after tokens that were taken. -/
  Left : σ → List Token → List Token → Prop
  /-- Two parsers do the same.  What they give is related. -/
  Res : σ → ∀ {α β : Type}, (α → β → Prop) → ∀ {n n' : Nat},
    ParseResult α n → ParseResult β n' → Prop
  /-- The first list is not the longer one. -/
  le : ∀ {i ts ts'}, At i ts ts' → ts.length ≤ ts'.length
  /-- The first tokens are like, if there are any. -/
  heads : ∀ {i ts ts'}, At i ts ts' → Heads (Left i) ts ts'
  /-- Taking no tokens leaves what there was. -/
  left : ∀ {i ts ts'}, At i ts ts' → Left i ts ts'
  /-- Something was read on both sides. -/
  ok : ∀ {i} {α β : Type} {R : α → β → Prop} {n n' : Nat} {a b us us'} {shorter : us.length < n}
    {shorter' : us'.length < n'}, R a b → Left i us us' →
    Res i R (.ok ⟨a, us, shorter⟩) (.ok ⟨b, us', shorter'⟩)
  /-- The tokens are refused on both sides. -/
  refuse : ∀ {i} {α β : Type} {R : α → β → Prop} {n n' : Nat} {ts ts' cause cause'},
    Refusal.Cause.bare cause = cause'.bare → At i ts ts' →
    Res i R (refuse ts cause : ParseResult α n) (refuse ts' cause' : ParseResult β n')
  /-- One parser after another.  The second ones do the same wherever they start. -/
  bind : ∀ {i} {α β γ δ : Type} {R : α → β → Prop} {S : γ → δ → Prop} {n n' k k' : Nat}
    {x : ParseResult α n} {y : ParseResult β n'} {f : Parsed α n → ParseResult γ k}
    {g : Parsed β n' → ParseResult δ k'}, n ≤ n' → Res i R x y →
    (∀ {j a b us us' shorter shorter'}, R a b → At j us us' →
      Res j S (f ⟨a, us, shorter⟩) (g ⟨b, us', shorter'⟩)) →
    Res i S (x >>= f) (y >>= g)

namespace Pace

/-- A part that was taken on both sides, or is missing on both. -/
inductive Taken {σ : Type} (P : Pace σ) (i : σ) {α β : Type} (R : α → β → Prop) {n n' : Nat} :
    Option (Parsed α n) → Option (Parsed β n') → Prop
  | none : Taken P i R none none
  | some {a : α} {b : β} {us us' : List Token} {shorter : us.length < n}
    {shorter' : us'.length < n'} : R a b → P.Left i us us' →
    Taken P i R (some ⟨a, us, shorter⟩) (some ⟨b, us', shorter'⟩)

section

variable {σ : Type} {P : Pace σ} {i : σ} {α β γ δ : Type} {R : α → β → Prop} {S : γ → δ → Prop}
  {n n' k k' : Nat} {ts ts' us us' : List Token}

/-- The run on the right has as many tokens left, or more. -/
theorem At.le (here : P.At i ts ts') : ts.length ≤ ts'.length := P.le here

/-- Both runs give a value and leave all tokens. -/
theorem At.done {a : α} {b : β} {shorter : ts.length < n} {shorter' : ts'.length < n'}
    (here : P.At i ts ts') (related : R a b) :
    P.Res i R (.ok ⟨a, ts, shorter⟩) (.ok ⟨b, ts', shorter'⟩) :=
  P.ok related (P.left here)

/-- Both runs give a value behind the tokens that they took. -/
theorem Left.done {a : α} {b : β} {shorter : us.length < n} {shorter' : us'.length < n'}
    (left : P.Left i us us') (related : R a b) :
    P.Res i R (.ok ⟨a, us, shorter⟩) (.ok ⟨b, us', shorter'⟩) :=
  P.ok related left

/-- One parser after another. -/
theorem Res.bind {x : ParseResult α n} {y : ParseResult β n'} {f : Parsed α n → ParseResult γ k}
    {g : Parsed β n' → ParseResult δ k'} (room : n ≤ n') (first : P.Res i R x y)
    (second : ∀ {j a b us us' shorter shorter'}, R a b → P.At j us us' →
      P.Res j S (f ⟨a, us, shorter⟩) (g ⟨b, us', shorter'⟩)) : P.Res i S (x >>= f) (y >>= g) :=
  P.bind room first second

/-- A parser after something that was read. -/
theorem Res.apply {p : Parsed α n} {q : Parsed β n'} {f : Parsed α n → ParseResult γ k}
    {g : Parsed β n' → ParseResult δ k'} (room : n ≤ n') (first : P.Res i R (.ok p) (.ok q))
    (second : ∀ {j a b us us' shorter shorter'}, R a b → P.At j us us' →
      P.Res j S (f ⟨a, us, shorter⟩) (g ⟨b, us', shorter'⟩)) : P.Res i S (f p) (g q) :=
  P.bind room first second

/-- A parser after a token that was taken. -/
theorem Left.next {f : ∀ us : List Token, us.length < n → ParseResult γ k}
    {g : ∀ us : List Token, us.length < n' → ParseResult δ k'} (room : n ≤ n')
    (left : P.Left i us us') (shorter : us.length < n) (shorter' : us'.length < n')
    (second : ∀ {j us us' shorter shorter'}, P.At j us us' →
      P.Res j S (f us shorter) (g us' shorter')) : P.Res i S (f us shorter) (g us' shorter') := by
  have taken : P.Res i Eq (.ok ⟨(), us, shorter⟩) (.ok ⟨(), us', shorter'⟩) := left.done rfl
  let f' (p : Parsed Unit n) := f p.rest p.shorter
  let g' (p : Parsed Unit n') := g p.rest p.shorter
  have both : P.Res i S (f' ⟨(), us, shorter⟩) (g' ⟨(), us', shorter'⟩) :=
    taken.apply room fun _ here => second here
  exact both

/-! ## Single tokens -/

/-- Both runs take their first token or neither does. -/
theorem At.take? {use : Token → Option α} {use' : Token → Option β} (here : P.At i ts ts')
    (same : ∀ {t t'}, t.Like t' → Option.Rel R (use t) (use' t')) :
    P.Taken i R (take? use ts) (take? use' ts') := by
  cases P.heads here with
  | nil => exact .none
  | @cons t t' us us' like left =>
    have used := same like
    simp only [Parser.take?]
    generalize use t = first at used ⊢
    generalize use' t' = second at used ⊢
    cases used with
    | none => exact .none
    | some related => exact .some related left

theorem At.takeKind? (k : Kind) (here : P.At i ts ts') :
    P.Taken i (fun t t' => t.Like t' ∧ t.kind = k) (takeKind? k ts) (takeKind? k ts') :=
  here.take? (rel_ofKind k)

/-- Both runs see the same kind of first token. -/
theorem At.startsWith (k : Kind) (here : P.At i ts ts') : startsWith k ts = startsWith k ts' := by
  cases P.heads here with
  | nil => rfl
  | cons like _ => simp only [Parser.startsWith, List.head?_cons, Option.any_some, like.kind]

theorem At.atEnd (here : P.At i ts ts') : atEnd ts = atEnd ts' := by
  have same := here.startsWith .eof
  unfold Parser.atEnd
  rw [same]
  cases P.heads here with
  | nil | cons => rfl

/-- Both runs take a token or refuse theirs for the same cause. -/
theorem At.expectUse {use : Token → Option α} {use' : Token → Option β} (e : Expectation)
    (here : P.At i ts ts') (same : ∀ {t t'}, t.Like t' → Option.Rel R (use t) (use' t')) :
    P.Res i R (expectUse use e ts) (expectUse use' e ts') := by
  have taken := here.take? same
  unfold Parser.expectUse
  generalize Parser.take? use ts = first at taken ⊢
  generalize Parser.take? use' ts' = second at taken ⊢
  cases taken with
  | none => exact P.refuse rfl here
  | some related left => exact left.done related

theorem At.expect (k : Kind) (e : Expectation) (here : P.At i ts ts') :
    P.Res i (fun t t' => t.Like t' ∧ t.kind = k) (expect k e ts) (expect k e ts') :=
  here.expectUse e (rel_ofKind k)

theorem At.semicolon (e : Expectation) (here : P.At i ts ts') :
    P.Res i (fun _ _ => True) (semicolon e ts) (semicolon e ts') :=
  .bind here.le (here.expect _ e) fun _ here => here.done trivial

/-! ## Parts without expressions -/

theorem keeps_annotated (here : P.At i ts ts') : P.Res i Eq (annotated ts) (annotated ts') := by
  have colon := here.takeKind? (.symbol .colon)
  have room := here.le
  unfold annotated
  generalize takeKind? _ ts = first at colon ⊢
  generalize takeKind? _ ts' = second at colon ⊢
  cases colon with
  | none => exact here.done rfl
  | @some _ _ us us' shorter shorter' _ left =>
    apply left.next room shorter shorter'
    intro j us us' shorter shorter' here
    refine .bind here.le (here.expectUse .typeName (rel_table typeName?)) ?_
    rintro j type _ _ _ _ _ rfl here
    exact here.done rfl

/-- A comma makes both runs read another parameter. -/
theorem keeps_params {i : σ} {ts ts' : List Token} (here : P.At i ts ts') :
    P.Res i (Same bareParams) (params ts) (params ts') := by
  rw [params, params]
  refine .bind here.le (here.expect .identifier .parameterName) ?_
  intro j name name' us us' shorter shorter' named here
  refine .bind (Nat.succ_le_succ here.le) (keeps_annotated here) ?_
  rintro j type _ vs vs' shorter₂ shorter₂' rfl here
  have same_name := named.1.name named.2
  have comma := here.takeKind? (.symbol .comma)
  have room := here.le
  dsimp only
  generalize takeKind? _ vs = first at comma ⊢
  generalize takeKind? _ vs' = second at comma ⊢
  cases comma with
  | none => exact here.done (by simp [Same, bareParams, same_name])
  | @some _ _ us₂ us₂' shorter₃ shorter₃' _ left =>
    apply left.next room shorter₃ shorter₃'
    intro j us₃ us₃' shorter₄ _ here
    refine .bind here.le (keeps_params here) ?_
    intro j ps ps' _ _ _ _ same here
    refine here.done ?_
    simp only [Same, bareParams] at same
    simp only [Same, bareParams, List.map_cons, same_name, same]
termination_by ts.length

theorem keeps_paramsUpTo (here : P.At i ts ts') :
    P.Res i (Same bareParams) (paramsUpTo ts) (paramsUpTo ts') := by
  have room := here.le
  unfold paramsUpTo
  rw [here.startsWith]
  split
  next => exact here.done rfl
  next => exact .bind room (keeps_params here) fun same here => here.done same

theorem keeps_functionName (here : P.At i ts ts') :
    P.Res i Eq (.ok (functionName ts)) (.ok (functionName ts')) := by
  have name := here.takeKind? .identifier
  unfold functionName
  generalize takeKind? _ ts = first at name ⊢
  generalize takeKind? _ ts' = second at name ⊢
  cases name with
  | none => exact here.done rfl
  | some named left => exact left.done (congrArg some (named.1.name named.2))

/-- Steps behind two expressions that are the same but for their spans. -/
theorem keeps_stepsAfter {i : σ} {ts ts' : List Token} (here : P.At i ts ts') {e e' : Expr}
    (same : Same Expr.bare e e') :
    P.Res i (Same Expr.bare) (.ok (stepsAfter e ts)) (.ok (stepsAfter e' ts')) := by
  have step := here.take? (rel_table_span stepOp?)
  have room := here.le
  rw [stepsAfter, stepsAfter]
  generalize take? _ ts = first at step ⊢
  generalize take? _ ts' = second at step ⊢
  cases step with
  | none => exact here.done same
  | @some a b us us' shorter shorter' ops left =>
    obtain ⟨op, s⟩ := a
    obtain ⟨op', s'⟩ := b
    obtain rfl : op = op' := ops
    apply left.next room shorter shorter'
    intro j us us' shorter _ here
    have longer : Same Expr.bare (.stepAfter op e (e.span.merge s))
        (.stepAfter op e' (e'.span.merge s')) := by
      simp only [Same, Expr.bare, same]
    have steps := keeps_stepsAfter here longer
    dsimp only
    generalize stepsAfter _ us = p at steps ⊢
    generalize stepsAfter _ us' = p' at steps ⊢
    apply steps.apply (Nat.succ_le_succ here.le)
    exact fun same here => here.done same
termination_by ts.length

end

/-! ## Lists of expressions -/

/-- Expressions, statements and declarations keep pace where fewer tokens are left. -/
structure KeepsBelow {σ : Type} (P : Pace σ) (n : Nat) : Prop where
  expression : ∀ {i : σ} {ts ts' : List Token}, ts.length < n → P.At i ts ts' →
    P.Res i (Same Expr.bare) (expression ts) (expression ts')
  statement : ∀ {i : σ} {ts ts' : List Token}, ts.length < n → P.At i ts ts' →
    P.Res i (Same Stmt.bare) (statement ts) (statement ts')
  declaration : ∀ {i : σ} {ts ts' : List Token}, ts.length < n → P.At i ts ts' →
    P.Res i (Same Stmt.bare) (declaration ts) (declaration ts')

variable {σ : Type} {P : Pace σ} {n : Nat} (ih : KeepsBelow P n) {i : σ} {ts ts' : List Token}

include ih

/-- The list goes on in both runs or ends in both. -/
theorem keeps_someArguments {i : σ} {ts ts' : List Token} (short : ts.length < n)
    (here : P.At i ts ts') :
    P.Res i (Same bareAll) (someArguments ts) (someArguments ts') := by
  rw [someArguments, someArguments]
  refine .bind here.le (ih.expression short here) ?_
  intro j e e' us us' shorter shorter' same here
  have comma := here.takeKind? (.symbol .comma)
  have room := here.le
  dsimp only
  generalize takeKind? _ us = first at comma ⊢
  generalize takeKind? _ us' = second at comma ⊢
  cases comma with
  | none => exact here.done (by simp only [Same, bareAll, same])
  | @some _ _ us₂ us₂' shorter₂ shorter₂' _ left =>
    apply left.next room shorter₂ shorter₂'
    intro j us₃ us₃' shorter₃ _ here
    refine .bind here.le (keeps_someArguments (by omega) here) ?_
    intro j es es' _ _ _ _ sames here
    exact here.done (by simp only [Same, bareAll, same, sames])
termination_by ts.length

theorem keeps_arguments (short : ts.length < n) (here : P.At i ts ts') :
    P.Res i (Same bareAll) (arguments ts) (arguments ts') := by
  have room := here.le
  rw [arguments, arguments, here.startsWith]
  split
  next => exact here.done rfl
  next => exact .bind room (keeps_someArguments ih short here) fun same here => here.done same

theorem keeps_elements {i : σ} {ts ts' : List Token} (short : ts.length < n)
    (here : P.At i ts ts') : P.Res i (Same bareAll) (elements ts) (elements ts') := by
  rw [elements, elements, here.startsWith]
  split
  next => exact here.done rfl
  next =>
    refine .bind here.le (ih.expression short here) ?_
    intro j e e' us us' shorter shorter' same here
    have comma := here.takeKind? (.symbol .comma)
    have room := here.le
    dsimp only
    generalize takeKind? _ us = first at comma ⊢
    generalize takeKind? _ us' = second at comma ⊢
    cases comma with
    | none => exact here.done (by simp only [Same, bareAll, same])
    | @some _ _ us₂ us₂' shorter₂ shorter₂' _ left =>
      apply left.next room shorter₂ shorter₂'
      intro j us₃ us₃' shorter₃ _ here
      refine .bind (Nat.succ_le_succ here.le) (keeps_elements (by omega) here) ?_
      intro j es es' _ _ _ _ sames here
      exact here.done (by simp only [Same, bareAll, same, sames])
termination_by ts.length

theorem keeps_properties {i : σ} {ts ts' : List Token} (short : ts.length < n)
    (here : P.At i ts ts') : P.Res i (Same bareProperties) (properties ts) (properties ts') := by
  rw [properties, properties, here.startsWith]
  split
  next => exact here.done rfl
  next =>
    refine .bind here.le (here.expectUse .propertyName rel_propertyName?) ?_
    rintro j name _ us us' shorter shorter' rfl here
    refine .bind here.le (here.expect _ .propertyColon) ?_
    intro j _ _ us₂ us₂' (shorter₂ : us₂.length < us.length) _ _ here
    refine .bind here.le (ih.expression (by omega) here) ?_
    intro j e e' us₃ us₃' shorter₃ shorter₃' same here
    have comma := here.takeKind? (.symbol .comma)
    have room := here.le
    dsimp only
    generalize takeKind? _ us₃ = first at comma ⊢
    generalize takeKind? _ us₃' = second at comma ⊢
    cases comma with
    | none => exact here.done (by simp only [Same, bareProperties, same])
    | @some _ _ us₄ us₄' shorter₄ shorter₄' _ left =>
      apply left.next room shorter₄ shorter₄'
      intro j us₅ us₅' shorter₅ _ here
      refine .bind (Nat.succ_le_succ here.le) (keeps_properties (by omega) here) ?_
      intro j ps ps' _ _ _ _ sames here
      exact here.done (by simp only [Same, bareProperties, same, sames])
termination_by ts.length

/-! ## Functions -/

theorem keeps_blockBody {i : σ} {ts ts' : List Token} (short : ts.length < n)
    (here : P.At i ts ts') : P.Res i (Same bareStatements) (blockBody ts) (blockBody ts') := by
  rw [blockBody, blockBody, here.startsWith, here.atEnd]
  split
  next => exact here.done rfl
  next =>
    refine .bind here.le (ih.declaration short here) ?_
    intro j s s' us us' shorter _ same here
    refine .bind (Nat.succ_le_succ here.le) (keeps_blockBody (by omega) here) ?_
    intro j ss ss' _ _ _ _ sames here
    exact here.done (by simp only [Same, bareStatements, same, sames])
termination_by ts.length

theorem keeps_block (short : ts.length ≤ n) (here : P.At i ts ts') :
    P.Res i (Same (bareStatements ∘ Prod.fst)) (block ts) (block ts') := by
  rw [block, block]
  refine .bind here.le (here.expect _ .blockOpen) ?_
  intro j opening opening' us us' shorter _ _ here
  refine .bind (Nat.succ_le_succ here.le) (keeps_blockBody ih (by omega) here) ?_
  intro j body body' us₂ us₂' _ _ same here
  exact .bind here.le (here.expect _ .blockClose) fun _ here => here.done same

theorem keeps_functionRest (short : ts.length ≤ n) (here : P.At i ts ts') {start start' : Span} :
    P.Res i (Same Function.bare) (functionRest start ts) (functionRest start' ts') := by
  have named := keeps_functionName here
  have room := Nat.succ_le_succ here.le
  rw [functionRest, functionRest]
  generalize functionName ts = p at named ⊢
  generalize functionName ts' = p' at named ⊢
  apply named.apply room
  rintro j name _ us us' shorter _ rfl here
  refine .bind here.le (here.expect _ .parametersOpen) ?_
  intro j _ _ us₂ us₂' shorter₂ _ _ here
  refine .bind (Nat.succ_le_succ here.le) (keeps_paramsUpTo here) ?_
  intro j ps ps' us₃ us₃' shorter₃ _ same_params here
  refine .bind here.le (here.expect _ .parametersClose) ?_
  intro j _ _ us₄ us₄' shorter₄ _ _ here
  refine .bind (Nat.succ_le_succ here.le) (keeps_annotated here) ?_
  rintro j returns _ us₅ us₅' shorter₅ _ rfl here
  refine .bind here.le (keeps_block ih (by omega) here) ?_
  rintro j ⟨body, s⟩ ⟨body', s'⟩ _ _ _ _ same_body here
  refine here.done ?_
  simp only [Same, Function.comp_apply, bareParams] at same_params same_body
  simp only [Same, Function.bare, same_params, same_body]

/-! ## Expressions -/

/-- The first token decides what is read, and it is like on both sides. -/
theorem keeps_primary (short : ts.length ≤ n) (here : P.At i ts ts') :
    P.Res i (Same Expr.bare) (primary ts) (primary ts') := by
  have taken := here.take? Option.Rel.some
  have room := here.le
  rw [primary, primary]
  generalize take? some ts = first at taken ⊢
  generalize take? some ts' = second at taken ⊢
  cases taken with
  | none => exact P.refuse rfl here
  | @some t t' us us' shorter shorter' tok left =>
    have atom := rel_atom? tok
    dsimp only
    generalize atom? t = first at atom ⊢
    generalize atom? t' = second at atom ⊢
    cases atom with
    | some same => exact left.done same
    | none =>
      dsimp only
      rw [← tok.kind]
      split
      next => exact P.refuse rfl here
      next =>
        apply left.next room shorter shorter'
        intro j us us' _ _ here
        refine .bind here.le (ih.expression (by omega) here) ?_
        intro j inner inner' us₂ us₂' _ _ same here
        refine .bind here.le (here.expect _ .groupClose) ?_
        intro j _ _ _ _ _ _ _ here
        exact here.done (by simp only [Same, Expr.bare, same])
      next =>
        apply left.next room shorter shorter'
        intro j us us' _ _ here
        refine .bind (Nat.succ_le_succ here.le) (keeps_elements ih (by omega) here) ?_
        intro j es es' us₂ us₂' _ _ same here
        refine .bind here.le (here.expect _ .arrayClose) ?_
        intro j _ _ _ _ _ _ _ here
        exact here.done (by simp only [Same, Expr.bare, same])
      next =>
        apply left.next room shorter shorter'
        intro j us us' _ _ here
        refine .bind (Nat.succ_le_succ here.le) (keeps_properties ih (by omega) here) ?_
        intro j ps ps' us₂ us₂' _ _ same here
        refine .bind here.le (here.expect _ .objectClose) ?_
        intro j _ _ _ _ _ _ _ here
        exact here.done (by simp only [Same, Expr.bare, same])
      next =>
        apply left.next room shorter shorter'
        intro j us us' _ _ here
        refine .bind here.le (keeps_functionRest ih (by omega) here) ?_
        intro j f f' _ _ _ _ same here
        exact here.done (by simp only [Same, Expr.bare, same])
      next => exact P.refuse rfl here

/-- Behind two expressions that are the same, both runs read the same members, indexes and calls.
-/
theorem keeps_accesses {i : σ} {ts ts' : List Token} (short : ts.length ≤ n)
    (here : P.At i ts ts') {e e' : Expr} (same : Same Expr.bare e e') :
    P.Res i (Same Expr.bare) (accesses e ts) (accesses e' ts') := by
  have taken := here.take? (rel_table some)
  have room := here.le
  rw [accesses, accesses]
  generalize take? _ ts = first at taken ⊢
  generalize take? _ ts' = second at taken ⊢
  cases taken with
  | none => exact here.done same
  | @some k _ us us' shorter shorter' kinds left =>
    cases kinds
    dsimp only
    split
    next shorter first =>
      cases first
      dsimp only
      apply left.next room shorter shorter'
      intro j us us' shorter _ here
      refine .bind (Nat.succ_le_succ here.le) (keeps_arguments ih (by omega) here) ?_
      intro j args args' us₂ us₂' shorter₂ _ same_args here
      refine .bind here.le (here.expect _ .argumentsClose) ?_
      intro j close close' us₃ us₃' (shorter₃ : us₃.length < us₂.length) _ _ here
      have fewer : us₃.length < ts.length := by omega
      refine .bind (Nat.succ_le_succ here.le) (keeps_accesses (by omega) here ?_) ?_
      · simp only [Same, Expr.bare, same, same_args]
      · exact fun same here => here.done same
    next shorter first =>
      cases first
      dsimp only
      apply left.next room shorter shorter'
      intro j us us' shorter _ here
      refine .bind here.le (here.expect _ .property) ?_
      intro j name name' us₂ us₂' shorter₂ _ named here
      refine .bind (Nat.succ_le_succ here.le) (keeps_accesses (by omega) here ?_) ?_
      · simp only [Same, Expr.bare, same, named.1.name named.2]
      · exact fun same here => here.done same
    next shorter first =>
      cases first
      dsimp only
      apply left.next room shorter shorter'
      intro j us us' shorter _ here
      refine .bind here.le (ih.expression (by omega) here) ?_
      intro j key key' us₂ us₂' shorter₂ _ same_key here
      refine .bind here.le (here.expect _ .indexClose) ?_
      intro j close close' us₃ us₃' (shorter₃ : us₃.length < us₂.length) _ _ here
      have fewer : us₃.length < ts.length := by omega
      refine .bind (Nat.succ_le_succ here.le) (keeps_accesses (by omega) here ?_) ?_
      · simp only [Same, Expr.bare, same, same_key]
      · exact fun same here => here.done same
    next not_paren not_dot not_bracket =>
      -- The token is of the same kind on the other side, so nothing is accessed there either.
      split
      next second =>
        cases second
        exact absurd rfl (not_paren us shorter)
      next second =>
        cases second
        exact absurd rfl (not_dot us shorter)
      next second =>
        cases second
        exact absurd rfl (not_bracket us shorter)
      next => exact here.done same
termination_by ts.length

theorem keeps_call (short : ts.length ≤ n) (here : P.At i ts ts') :
    P.Res i (Same Expr.bare) (call ts) (call ts') := by
  rw [call, call]
  refine .bind here.le (keeps_primary ih short here) ?_
  intro j e e' us us' shorter _ same here
  refine .bind (Nat.succ_le_succ here.le) (keeps_accesses ih (by omega) here same) ?_
  exact fun same here => here.done same

theorem keeps_unary {i : σ} {ts ts' : List Token} (short : ts.length ≤ n)
    (here : P.At i ts ts') : P.Res i (Same Expr.bare) (unary ts) (unary ts') := by
  have taken := here.take? (rel_table_span unaryOp?)
  have room := here.le
  rw [unary, unary]
  generalize take? _ ts = first at taken ⊢
  generalize take? _ ts' = second at taken ⊢
  cases taken with
  | none =>
    refine .bind here.le (keeps_call ih short here) ?_
    intro j e e' us us' shorter _ same here
    have steps := keeps_stepsAfter here same
    have room := Nat.succ_le_succ here.le
    dsimp only
    generalize stepsAfter e us = p at steps ⊢
    generalize stepsAfter e' us' = p' at steps ⊢
    apply steps.apply room
    exact fun same here => here.done same
  | @some a b us us' shorter shorter' ops left =>
    obtain ⟨op, s⟩ := a
    obtain ⟨op', s'⟩ := b
    obtain rfl : op = op' := ops
    apply left.next room shorter shorter'
    intro j us us' shorter _ here
    refine .bind here.le (keeps_unary (by omega) here) ?_
    intro j operand operand' _ _ _ _ same here
    exact here.done (by simp only [Same, Expr.bare, same])
termination_by ts.length

omit ih in
/-- Both runs meet the same operators, so they build up the same left operand. -/
theorem keeps_operations {k : Nat}
    (operand : ∀ {i : σ} {ts ts' : List Token}, ts.length ≤ n → P.At i ts ts' →
      P.Res i (Same Expr.bare) (binary k ts) (binary k ts'))
    {i : σ} {ts ts' : List Token} (short : ts.length ≤ n) (here : P.At i ts ts')
    {left left' : Expr} (same : Same Expr.bare left left') :
    P.Res i (Same Expr.bare) (operations k left ts) (operations k left' ts') := by
  have taken := here.take? (rel_table fun kind => (binaryOp? kind).filter (looseness · = k + 1))
  have room := here.le
  rw [operations, operations]
  generalize take? _ ts = first at taken ⊢
  generalize take? _ ts' = first' at taken ⊢
  cases taken with
  | none => exact here.done same
  | @some op _ us us' shorter shorter' ops rest =>
    cases ops
    apply rest.next room shorter shorter'
    intro j us us' shorter _ here
    refine .bind here.le (operand (by omega) here) ?_
    intro j right right' us₂ us₂' shorter₂ _ same_right here
    refine .bind (Nat.succ_le_succ here.le) (keeps_operations operand (by omega) here ?_) ?_
    · simp only [Same, Expr.bare, same, same_right]
    · exact fun same here => here.done same
termination_by ts.length

theorem keeps_binary (k : Nat) (short : ts.length ≤ n) (here : P.At i ts ts') :
    P.Res i (Same Expr.bare) (binary k ts) (binary k ts') := by
  induction k generalizing i ts ts' with
  | zero =>
    rw [binary, binary]
    exact keeps_unary ih short here
  | succ k operand =>
    rw [binary, binary]
    refine .bind here.le (operand short here) ?_
    intro j left left' us us' shorter _ same here
    have fewer : us.length ≤ n := by omega
    refine .bind (Nat.succ_le_succ here.le) (keeps_operations operand fewer here same) ?_
    exact fun same here => here.done same

theorem keeps_conditional (short : ts.length ≤ n) (here : P.At i ts ts') :
    P.Res i (Same Expr.bare) (conditional ts) (conditional ts') := by
  rw [conditional, conditional]
  refine .bind here.le (keeps_binary ih 6 short here) ?_
  intro j c c' us us' shorter shorter' same here
  have question := here.takeKind? (.symbol .question)
  have room := here.le
  dsimp only
  generalize takeKind? _ us = first at question ⊢
  generalize takeKind? _ us' = second at question ⊢
  cases question with
  | none => exact here.done same
  | @some _ _ us₂ us₂' shorter₂ shorter₂' _ left =>
    apply left.next room shorter₂ shorter₂'
    intro j us₃ us₃' shorter₃ _ here
    refine .bind here.le (ih.expression (by omega) here) ?_
    intro j a a' us₄ us₄' shorter₄ _ same_true here
    refine .bind here.le (here.expect _ .conditionalColon) ?_
    intro j _ _ us₅ us₅' (shorter₅ : us₅.length < us₄.length) _ _ here
    dsimp only
    refine .bind here.le (ih.expression (by omega) here) ?_
    intro j b b' _ _ _ _ same_false here
    exact here.done (by simp only [Same, Expr.bare, same, same_true, same_false])

/-- Both runs assign or neither does, and the target is the same but for its span. -/
theorem keeps_expression (short : ts.length ≤ n) (here : P.At i ts ts') :
    P.Res i (Same Expr.bare) (expression ts) (expression ts') := by
  rw [expression, expression]
  refine .bind here.le (keeps_conditional ih short here) ?_
  intro j target target' us us' shorter shorter' same here
  have taken := here.take? (rel_table assignOp?)
  have room := here.le
  dsimp only
  generalize take? _ us = first at taken ⊢
  generalize take? _ us' = second at taken ⊢
  cases taken with
  | none => exact here.done same
  | @some op _ us₂ us₂' shorter₂ shorter₂' ops left =>
    cases ops
    dsimp only
    -- Both sides accept the target or both refuse the operator.
    rw [isAssignable_eq same]
    split
    next =>
      apply left.next room shorter₂ shorter₂'
      intro j us₃ us₃' shorter₃ _ here
      refine .bind here.le (ih.expression (by omega) here) ?_
      intro j value value' _ _ _ _ same_value here
      exact here.done (by simp only [Same, Expr.bare, same, same_value])
    next => exact P.refuse rfl here

theorem keeps_optionalExpression (stopper : Symbol) (short : ts.length ≤ n)
    (here : P.At i ts ts') :
    P.Res i (Same bareOptional) (optionalExpression stopper ts)
      (optionalExpression stopper ts') := by
  have room := here.le
  rw [optionalExpression, optionalExpression, here.startsWith]
  split
  next => exact here.done rfl
  next =>
    refine .bind room (keeps_expression ih short here) ?_
    intro j e e' _ _ _ _ same here
    exact here.done (by simp only [Same, bareOptional, same])

/-! ## Statements -/

theorem keeps_expressionStatement (short : ts.length ≤ n) (here : P.At i ts ts') :
    P.Res i (Same Stmt.bare) (expressionStatement ts) (expressionStatement ts') := by
  rw [expressionStatement, expressionStatement]
  refine .bind here.le (keeps_expression ih short here) ?_
  intro j e e' us us' shorter _ same here
  refine .bind here.le (here.semicolon .expressionEnd) ?_
  intro j _ _ _ _ _ _ _ here
  exact here.done (by simp only [Same, Stmt.bare, same])

theorem keeps_variableRest (word : DeclareWord) (short : ts.length ≤ n) (here : P.At i ts ts')
    {start start' : Span} :
    P.Res i (Same Stmt.bare) (variableRest word start ts) (variableRest word start' ts') := by
  rw [variableRest, variableRest]
  refine .bind here.le (here.expect _ .variableName) ?_
  intro j name name' us us' shorter _ named here
  have same_name := named.1.name named.2
  refine .bind (Nat.succ_le_succ here.le) (keeps_annotated here) ?_
  rintro j type _ us₂ us₂' shorter₂ shorter₂' rfl here
  have equal := here.takeKind? (.symbol .equal)
  have room := here.le
  dsimp only
  generalize takeKind? _ us₂ = first at equal ⊢
  generalize takeKind? _ us₂' = second at equal ⊢
  cases equal with
  | none =>
    refine .bind room (here.semicolon .variableEnd) ?_
    intro j _ _ _ _ _ _ _ here
    exact here.done (by simp only [Same, Stmt.bare, same_name])
  | @some _ _ us₃ us₃' shorter₃ shorter₃' _ left =>
    apply left.next room shorter₃ shorter₃'
    intro j us₄ us₄' shorter₄ _ here
    refine .bind here.le (ih.expression (by omega) here) ?_
    intro j init init' us₅ us₅' _ _ same here
    refine .bind here.le (here.semicolon .variableEnd) ?_
    intro j _ _ _ _ _ _ _ here
    refine here.done ?_
    -- Without an annotation the type comes from the initializer.
    simp only [Same, Stmt.bare, bareOptional, same_name, same, infer_eq same]

theorem keeps_constantRest (short : ts.length ≤ n) (here : P.At i ts ts') {start start' : Span} :
    P.Res i (Same Stmt.bare) (constantRest start ts) (constantRest start' ts') := by
  rw [constantRest, constantRest]
  refine .bind here.le (here.expect _ .constantName) ?_
  intro j name name' us us' shorter _ named here
  refine .bind (Nat.succ_le_succ here.le) (keeps_annotated here) ?_
  rintro j type _ us₂ us₂' shorter₂ _ rfl here
  refine .bind here.le (here.expect _ .constantInitializer) ?_
  intro j _ _ us₃ us₃' shorter₃ _ _ here
  refine .bind here.le (ih.expression (by omega) here) ?_
  intro j init init' us₄ us₄' _ _ same here
  refine .bind here.le (here.semicolon .constantEnd) ?_
  intro j _ _ _ _ _ _ _ here
  refine here.done ?_
  simp only [Same, Stmt.bare, named.1.name named.2, same, infer_eq same]

theorem keeps_ifRest (short : ts.length ≤ n) (here : P.At i ts ts') {start start' : Span} :
    P.Res i (Same Stmt.bare) (ifRest start ts) (ifRest start' ts') := by
  rw [ifRest, ifRest]
  refine .bind here.le (here.expect _ .ifOpen) ?_
  intro j _ _ us us' shorter _ _ here
  refine .bind here.le (ih.expression (by omega) here) ?_
  intro j c c' us₂ us₂' shorter₂ _ same here
  refine .bind here.le (here.expect _ .ifClose) ?_
  intro j _ _ us₃ us₃' shorter₃ _ _ here
  refine .bind here.le (ih.statement (by omega) here) ?_
  intro j a a' us₄ us₄' shorter₄ shorter₄' same_true here
  have word := here.takeKind? (.word .else_)
  have room := here.le
  dsimp only
  generalize takeKind? _ us₄ = first at word ⊢
  generalize takeKind? _ us₄' = second at word ⊢
  cases word with
  | none => exact here.done (by simp only [Same, Stmt.bare, bareStatement?, same, same_true])
  | @some _ _ us₅ us₅' shorter₅ shorter₅' _ left =>
    apply left.next room shorter₅ shorter₅'
    intro j us₆ us₆' shorter₆ _ here
    refine .bind here.le (ih.statement (by omega) here) ?_
    intro j b b' _ _ _ _ same_false here
    exact here.done (by simp only [Same, Stmt.bare, bareStatement?, same, same_true, same_false])

/-- A loop starts with nothing, a declaration or an expression, in both runs alike. -/
theorem keeps_forInit (short : ts.length ≤ n) (here : P.At i ts ts') :
    P.Res i (Same bareStatement?) (forInit ts) (forInit ts') := by
  have taken := here.take? Option.Rel.some
  have room := here.le
  have bare : P.Res i (Same bareStatement?)
      (expressionStatement ts >>= fun p => .ok ⟨some p.value, p.rest, p.shorter⟩)
      (expressionStatement ts' >>= fun p => .ok ⟨some p.value, p.rest, p.shorter⟩) := by
    refine .bind room (keeps_expressionStatement ih short here) ?_
    intro j s s' _ _ _ _ same here
    exact here.done (by simp only [Same, bareStatement?, same])
  rw [forInit, forInit]
  generalize take? some ts = first at taken ⊢
  generalize take? some ts' = second at taken ⊢
  cases taken with
  | none => exact bare
  | @some t t' us us' shorter shorter' tok left =>
    dsimp only
    rw [← tok.kind]
    split
    next => exact left.done rfl
    next =>
      apply left.next room shorter shorter'
      intro j us₂ us₂' _ _ here
      refine .bind here.le (keeps_constantRest ih (by omega) here) ?_
      intro j s s' _ _ _ _ same here
      exact here.done (by simp only [Same, bareStatement?, same])
    next =>
      cases declareWord? t.kind with
      | some word =>
        apply left.next room shorter shorter'
        intro j us₂ us₂' _ _ here
        refine .bind here.le (keeps_variableRest ih word (by omega) here) ?_
        intro j s s' _ _ _ _ same here
        exact here.done (by simp only [Same, bareStatement?, same])
      | none => exact bare

theorem keeps_forRest (short : ts.length ≤ n) (here : P.At i ts ts') {start start' : Span} :
    P.Res i (Same Stmt.bare) (forRest start ts) (forRest start' ts') := by
  rw [forRest, forRest]
  refine .bind here.le (here.expect _ .forOpen) ?_
  intro j _ _ us us' shorter _ _ here
  refine .bind here.le (keeps_forInit ih (by omega) here) ?_
  intro j init init' us₂ us₂' shorter₂ _ same_init here
  have room := Nat.succ_le_succ here.le
  dsimp only
  refine .bind room (keeps_optionalExpression ih .semicolon (by omega) here) ?_
  intro j c c' us₃ us₃' shorter₃ _ same_condition here
  refine .bind here.le (here.expect _ .forConditionEnd) ?_
  intro j _ _ us₄ us₄' (shorter₄ : us₄.length < us₃.length) _ _ here
  have room := Nat.succ_le_succ here.le
  dsimp only
  refine .bind room (keeps_optionalExpression ih .rightParen (by omega) here) ?_
  intro j update update' us₅ us₅' shorter₅ _ same_update here
  refine .bind here.le (here.expect _ .forClose) ?_
  intro j _ _ us₆ us₆' (shorter₆ : us₆.length < us₅.length) _ _ here
  have fewer : us₆.length < n := by omega
  refine .bind here.le (ih.statement fewer here) ?_
  intro j body body' _ _ _ _ same here
  refine here.done ?_
  simp only [Same, Stmt.bare, same_init, same_condition, same_update, same]

/-- The first token decides which statement is read. -/
theorem keeps_statement (short : ts.length ≤ n) (here : P.At i ts ts') :
    P.Res i (Same Stmt.bare) (statement ts) (statement ts') := by
  have taken := here.take? Option.Rel.some
  have room := here.le
  rw [statement, statement]
  generalize take? some ts = first at taken ⊢
  generalize take? some ts' = second at taken ⊢
  cases taken with
  | none => exact keeps_expressionStatement ih short here
  | @some t t' us us' shorter shorter' tok left =>
    dsimp only
    rw [← tok.kind]
    split
    next =>
      apply left.next room shorter shorter'
      intro j us us' _ _ here
      refine .bind here.le (ih.expression (by omega) here) ?_
      intro j e e' us₂ us₂' _ _ same here
      refine .bind here.le (here.semicolon .printEnd) ?_
      intro j _ _ _ _ _ _ _ here
      exact here.done (by simp only [Same, Stmt.bare, same])
    next =>
      apply left.next room shorter shorter'
      intro j us us' _ _ here
      refine .bind here.le (keeps_ifRest ih (by omega) here) ?_
      exact fun same here => here.done same
    next =>
      apply left.next room shorter shorter'
      intro j us us' _ _ here
      refine .bind here.le (here.expect _ .whileOpen) ?_
      intro j _ _ us₂ us₂' (shorter₂ : us₂.length < us.length) _ _ here
      have fewer : us₂.length < n := by omega
      refine .bind here.le (ih.expression fewer here) ?_
      intro j c c' us₃ us₃' (shorter₃ : us₃.length < us₂.length) _ same_condition here
      refine .bind here.le (here.expect _ .whileClose) ?_
      intro j _ _ us₄ us₄' (shorter₄ : us₄.length < us₃.length) _ _ here
      have fewer : us₄.length < n := by omega
      refine .bind here.le (ih.statement fewer here) ?_
      intro j body body' _ _ _ _ same here
      exact here.done (by simp only [Same, Stmt.bare, same_condition, same])
    next =>
      apply left.next room shorter shorter'
      intro j us us' _ _ here
      refine .bind here.le (keeps_forRest ih (by omega) here) ?_
      exact fun same here => here.done same
    next =>
      apply left.next room shorter shorter'
      intro j us us' _ _ here
      exact .bind here.le (here.semicolon .breakEnd) fun _ here => here.done rfl
    next =>
      apply left.next room shorter shorter'
      intro j us us' _ _ here
      exact .bind here.le (here.semicolon .continueEnd) fun _ here => here.done rfl
    next =>
      apply left.next room shorter shorter'
      intro j us us' _ _ here
      have room := Nat.succ_le_succ here.le
      refine .bind room (keeps_optionalExpression ih .semicolon (by omega) here) ?_
      intro j value value' us₂ us₂' _ _ same here
      refine .bind here.le (here.semicolon .returnEnd) ?_
      intro j _ _ _ _ _ _ _ here
      exact here.done (by simp only [Same, Stmt.bare, same])
    next =>
      refine .bind room (keeps_block ih short here) ?_
      rintro j ⟨body, s⟩ ⟨body', s'⟩ _ _ _ _ same here
      refine here.done ?_
      simp only [Same, Function.comp_apply] at same
      simp only [Same, Stmt.bare, same]
    next =>
      apply left.next room shorter shorter'
      intro j us us' _ _ here
      refine .bind here.le (keeps_functionRest ih (by omega) here) ?_
      intro j f f' us₂ us₂' _ _ same here
      dsimp only
      rw [name_eq same]
      split
      next => exact here.done (by simp only [Same, Stmt.bare, same])
      next =>
        refine .bind here.le (here.semicolon .expressionEnd) ?_
        intro j _ _ _ _ _ _ _ here
        exact here.done (by simp only [Same, Stmt.bare, Expr.bare, same])
    next => exact keeps_expressionStatement ih short here

theorem keeps_declaration (short : ts.length ≤ n) (here : P.At i ts ts') :
    P.Res i (Same Stmt.bare) (declaration ts) (declaration ts') := by
  have word := here.take? (rel_table_span declareWord?)
  have const := here.takeKind? (.word .const)
  have room := here.le
  rw [declaration, declaration]
  generalize take? _ ts = first at word ⊢
  generalize take? _ ts' = second at word ⊢
  cases word with
  | @some a b us us' shorter shorter' words left =>
    obtain ⟨word, s⟩ := a
    obtain ⟨word', s'⟩ := b
    obtain rfl : word = word' := words
    apply left.next room shorter shorter'
    intro j us us' _ _ here
    refine .bind here.le (keeps_variableRest ih word (by omega) here) ?_
    exact fun same here => here.done same
  | none =>
    dsimp only
    generalize takeKind? _ ts = first at const ⊢
    generalize takeKind? _ ts' = second at const ⊢
    cases const with
    | none => exact keeps_statement ih short here
    | @some t t' us us' shorter shorter' _ left =>
      apply left.next room shorter shorter'
      intro j us us' _ _ here
      refine .bind here.le (keeps_constantRest ih (by omega) here) ?_
      exact fun same here => here.done same

omit ih in
/-- The entry points of the recursion keep pace on all tokens. -/
theorem keepsBelow (P : Pace σ) : ∀ n : Nat, KeepsBelow P n
  | 0 => ⟨nofun, nofun, nofun⟩
  | n + 1 =>
    have ih := keepsBelow P n
    { expression := fun short here => keeps_expression ih (Nat.le_of_lt_succ short) here
      statement := fun short here => keeps_statement ih (Nat.le_of_lt_succ short) here
      declaration := fun short here => keeps_declaration ih (Nat.le_of_lt_succ short) here }

end Pace

end Parser

end Scriptlet
