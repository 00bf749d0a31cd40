import Scriptlet.Proofs.Tree.Heads

/-!
# What parses is spelled

A parser that yields a tree has consumed tokens that spell it, and the tree is
well shaped.  So it skips no token, uses none twice and makes none up, and each
operand is tight enough for its place.

A parser of a lower rank may be called on the same tokens, any other one is
called on fewer.  So the lemmas take for granted that the three entry points of
the recursion are sound on fewer tokens (`SoundBelow`), and follow the ranks.  A
loop that extends an expression is sound if the expression before it fits.
-/

namespace Scriptlet

/-- The tokens spell an expression that is well shaped, and no looser than a level. -/
structure Expr.Fits (k : Nat) (e : Expr) (ts : List Token) : Prop where
  spelled : e.Spelled ts
  shaped : e.isShaped = true
  level : e.level ≤ k

/-- An expression fits wherever a looser one does. -/
theorem Expr.Fits.mono {j k : Nat} {e : Expr} {ts : List Token} (h : e.Fits j ts) (le : j ≤ k) :
    e.Fits k ts :=
  ⟨h.spelled, h.shaped, Nat.le_trans h.level le⟩

/-- The tokens spell a statement that is well shaped. -/
structure Stmt.Fits (s : Stmt) (ts : List Token) : Prop where
  spelled : s.Spelled ts
  shaped : s.isShaped = true

/-- A statement that declares nothing, with the tokens after it.  If it could have taken
an `else`, there is none. -/
structure Stmt.FitsBefore (s : Stmt) (ts rest : List Token) : Prop extends s.Fits ts where
  plain : s.isVariable = false
  closed : s.endsOpen = true → Parser.startsWith (.word .else_) rest = false

/-- Most statements could not have taken an `else`. -/
theorem Stmt.FitsBefore.of_closed {s : Stmt} {ts rest : List Token} (h : s.Fits ts)
    (plain : s.isVariable = false) (closed : s.endsOpen = false) : s.FitsBefore ts rest := by
  refine ⟨h, plain, fun ends => ?_⟩
  rw [closed] at ends
  cases ends

namespace Parser

/-- Expressions, statements and declarations are sound where fewer tokens are left. -/
structure SoundBelow (n : Nat) : Prop where
  expression : ∀ {ts rest : List Token} {e : Expr}, ts.length < n →
    Yields (expression ts) e rest → ∃ pre, ts = pre ++ rest ∧ e.Fits 11 pre
  statement : ∀ {ts rest : List Token} {s : Stmt}, ts.length < n →
    Yields (statement ts) s rest → ∃ pre, ts = pre ++ rest ∧ s.FitsBefore pre rest
  declaration : ∀ {ts rest : List Token} {s : Stmt}, ts.length < n →
    Yields (declaration ts) s rest → ∃ pre, ts = pre ++ rest ∧ s.Fits pre

variable {n : Nat} (ih : SoundBelow n)

/-! ## Tokens that are expressions -/

theorem of_atom? {t : Token} {e : Expr} (h : atom? t = some e) : e.Fits 0 [t] := by
  unfold atom? at h
  split at h
  next is_kind =>
    cases h
    exact ⟨.number is_kind, rfl, Nat.le_refl 0⟩
  next is_kind =>
    split at h
    next => cases h
    next terminated =>
      cases h
      exact ⟨.string is_kind (Bool.eq_false_iff.mpr terminated), rfl, Nat.le_refl 0⟩
  next is_kind =>
    cases h
    exact ⟨.true_ is_kind, rfl, Nat.le_refl 0⟩
  next is_kind =>
    cases h
    exact ⟨.false_ is_kind, rfl, Nat.le_refl 0⟩
  next is_kind =>
    cases h
    exact ⟨.null is_kind, rfl, Nat.le_refl 0⟩
  next is_kind =>
    cases h
    exact ⟨.identifier is_kind, rfl, Nat.le_refl 0⟩
  next => cases h

/-! ## Lists of expressions -/

include ih

/-- What is read as arguments spells them. -/
theorem of_yields_someArguments {ts rest : List Token} (short : ts.length < n) {es : List Expr}
    (h : Yields (someArguments ts) es rest) :
    ∃ pre, ts = pre ++ rest ∧ ItemsSpelled false es pre ∧ areShaped es = true ∧ es ≠ [] := by
  rw [someArguments] at h
  obtain ⟨e, ts₁, shorter, first, h⟩ := of_yields_bind h
  obtain ⟨us, rfl, fits⟩ := ih.expression short first
  dsimp only at h
  split at h
  next =>
    obtain ⟨rfl, rfl⟩ := eq_of_yields_ok h
    exact ⟨us, rfl, .one fits.spelled, by simp [areShaped, fits.shaped], List.cons_ne_nil _ _⟩
  next comma ts₂ shorter₂ taken =>
    obtain ⟨rfl, is_comma⟩ := eq_cons_of_takeKind? taken
    obtain ⟨fs, ts₃, _, second, h⟩ := of_yields_bind h
    obtain ⟨vs, rfl, spelled, shaped, some_⟩ := of_yields_someArguments (by omega) second
    obtain ⟨rfl, rfl⟩ := eq_of_yields_ok h
    refine ⟨us ++ comma :: vs, by simp, ?_, ?_, List.cons_ne_nil _ _⟩
    · exact .cons fits.spelled is_comma spelled (.inr some_)
    · simp [areShaped, fits.shaped, shaped]
termination_by ts.length

theorem of_yields_arguments {ts rest : List Token} (short : ts.length < n) {es : List Expr}
    (h : Yields (arguments ts) es rest) :
    ∃ pre, ts = pre ++ rest ∧ ItemsSpelled false es pre ∧ areShaped es = true := by
  rw [arguments] at h
  split at h
  next =>
    obtain ⟨rfl, rfl⟩ := eq_of_yields_ok h
    exact ⟨[], rfl, .nil, rfl⟩
  next =>
    obtain ⟨fs, ts₁, _, first, h⟩ := of_yields_bind h
    obtain ⟨rfl, rfl⟩ := eq_of_yields_ok h
    obtain ⟨us, same, spelled, shaped, -⟩ := of_yields_someArguments ih short first
    exact ⟨us, same, spelled, shaped⟩

theorem of_yields_elements {ts rest : List Token} (short : ts.length < n) {es : List Expr}
    (h : Yields (elements ts) es rest) :
    ∃ pre, ts = pre ++ rest ∧ ItemsSpelled true es pre ∧ areShaped es = true := by
  rw [elements] at h
  split at h
  next =>
    obtain ⟨rfl, rfl⟩ := eq_of_yields_ok h
    exact ⟨[], rfl, .nil, rfl⟩
  next =>
    obtain ⟨e, ts₁, shorter, first, h⟩ := of_yields_bind h
    obtain ⟨us, rfl, fits⟩ := ih.expression short first
    dsimp only at h
    split at h
    next =>
      obtain ⟨rfl, rfl⟩ := eq_of_yields_ok h
      exact ⟨us, rfl, .one fits.spelled, by simp [areShaped, fits.shaped]⟩
    next comma ts₂ shorter₂ taken =>
      obtain ⟨rfl, is_comma⟩ := eq_cons_of_takeKind? taken
      obtain ⟨fs, ts₃, _, second, h⟩ := of_yields_bind h
      obtain ⟨vs, rfl, spelled, shaped⟩ := of_yields_elements (by omega) second
      obtain ⟨rfl, rfl⟩ := eq_of_yields_ok h
      refine ⟨us ++ comma :: vs, by simp, .cons fits.spelled is_comma spelled (.inl rfl), ?_⟩
      simp [areShaped, fits.shaped, shaped]
termination_by ts.length

theorem of_yields_properties {ts rest : List Token} (short : ts.length < n)
    {ps : List (String × Expr)} (h : Yields (properties ts) ps rest) :
    ∃ pre, ts = pre ++ rest ∧ PropertiesSpelled ps pre ∧ propertiesShaped ps = true := by
  rw [properties] at h
  split at h
  next =>
    obtain ⟨rfl, rfl⟩ := eq_of_yields_ok h
    exact ⟨[], rfl, .nil, rfl⟩
  next =>
    obtain ⟨name, ts₁, shorter₁, first, h⟩ := of_yields_bind h
    obtain ⟨key, rfl, named⟩ := yields_expectUse.mp first
    have keyed := propertyName?_eq_some.mp named
    obtain ⟨colon, ts₂, shorter₂, second, h⟩ := of_yields_bind h
    obtain ⟨rfl, is_colon⟩ := yields_expect.mp second
    obtain ⟨e, ts₃, shorter₃, third, h⟩ := of_yields_bind h
    obtain ⟨us, rfl, fits⟩ := ih.expression (by omega) third
    dsimp only at h
    split at h
    next =>
      obtain ⟨rfl, rfl⟩ := eq_of_yields_ok h
      refine ⟨key :: colon :: us, rfl, .one keyed is_colon fits.spelled, ?_⟩
      simp [propertiesShaped, fits.shaped]
    next comma ts₄ shorter₄ taken =>
      obtain ⟨rfl, is_comma⟩ := eq_cons_of_takeKind? taken
      obtain ⟨qs, ts₅, _, fourth, h⟩ := of_yields_bind h
      obtain ⟨vs, rfl, spelled, shaped⟩ := of_yields_properties (by omega) fourth
      obtain ⟨rfl, rfl⟩ := eq_of_yields_ok h
      refine ⟨key :: colon :: us ++ comma :: vs, by simp, ?_, ?_⟩
      · exact .cons keyed is_colon fits.spelled is_comma spelled
      · simp [propertiesShaped, fits.shaped, shaped]
termination_by ts.length

/-! ## Functions -/

theorem of_yields_blockBody {ts rest : List Token} (short : ts.length < n) {body : List Stmt}
    (h : Yields (blockBody ts) body rest) :
    ∃ pre, ts = pre ++ rest ∧ BodySpelled body pre ∧ allShaped body = true := by
  rw [blockBody] at h
  split at h
  next =>
    obtain ⟨rfl, rfl⟩ := eq_of_yields_ok h
    exact ⟨[], rfl, .nil, rfl⟩
  next =>
    obtain ⟨s, ts₁, shorter, first, h⟩ := of_yields_bind h
    obtain ⟨us, rfl, fits⟩ := ih.declaration short first
    obtain ⟨ss, ts₂, _, second, h⟩ := of_yields_bind h
    obtain ⟨vs, rfl, spelled, shaped⟩ := of_yields_blockBody (by omega) second
    obtain ⟨rfl, rfl⟩ := eq_of_yields_ok h
    refine ⟨us ++ vs, by simp, .cons fits.spelled spelled, ?_⟩
    simp [allShaped, fits.shaped, shaped]
termination_by ts.length

theorem of_yields_block {ts rest : List Token} (short : ts.length ≤ n) {b : List Stmt × Span}
    (h : Yields (block ts) b rest) :
    ∃ opening us close, ts = opening :: us ++ close :: rest ∧
      opening.kind = .symbol .leftBrace ∧ BodySpelled b.1 us ∧
      close.kind = .symbol .rightBrace ∧ b.2 = opening.span.merge close.span ∧
      allShaped b.1 = true := by
  rw [block] at h
  obtain ⟨opening, ts₁, shorter, first, h⟩ := of_yields_bind h
  obtain ⟨rfl, is_open⟩ := yields_expect.mp first
  obtain ⟨body, ts₂, _, second, h⟩ := of_yields_bind h
  obtain ⟨us, rfl, spelled, shaped⟩ := of_yields_blockBody ih (by omega) second
  obtain ⟨close, ts₃, _, third, h⟩ := of_yields_bind h
  obtain ⟨rfl, is_close⟩ := yields_expect.mp third
  obtain ⟨rfl, rfl⟩ := eq_of_yields_ok h
  exact ⟨opening, us, close, rfl, is_open, spelled, is_close, rfl, shaped⟩

theorem of_yields_functionRest {ts rest : List Token} (short : ts.length ≤ n) {start : Span}
    {f : Function} (h : Yields (functionRest start ts) f rest) :
    ∃ pre, ts = pre ++ rest ∧ f.Spelled start pre ∧ f.isShaped = true := by
  rw [functionRest] at h
  split at h
  next name ts₁ shorter₁ same =>
    obtain ⟨ns, rfl, named⟩ := of_functionName same
    obtain ⟨opening, ts₂, shorter₂, second, h⟩ := of_yields_bind h
    obtain ⟨rfl, is_open⟩ := yields_expect.mp second
    obtain ⟨params, ts₃, shorter₃, third, h⟩ := of_yields_bind h
    obtain ⟨ps, rfl, params_spelled⟩ := of_yields_paramsUpTo third
    obtain ⟨close, ts₄, shorter₄, fourth, h⟩ := of_yields_bind h
    obtain ⟨rfl, is_close⟩ := yields_expect.mp fourth
    obtain ⟨returns, ts₅, shorter₅, fifth, h⟩ := of_yields_bind h
    obtain ⟨rs, rfl, annotated⟩ := of_yields_annotated fifth
    obtain ⟨⟨body, s⟩, ts₆, shorter₆, sixth, h⟩ := of_yields_bind h
    have fewer : ts₅.length ≤ n := by
      simp only [List.length_append, List.length_cons] at short
      omega
    obtain ⟨left, us, right, rfl, is_left, spelled, is_right, rfl, shaped⟩ :=
      of_yields_block ih fewer sixth
    obtain ⟨rfl, rfl⟩ := eq_of_yields_ok h
    refine ⟨ns ++ opening :: ps ++ close :: rs ++ left :: us ++ [right], by simp, ?_, shaped⟩
    exact .mk named is_open params_spelled is_close annotated is_left spelled is_right

/-! ## Expressions -/

/-- What is read as a primary expression spells one. -/
theorem of_yields_primary {ts rest : List Token} (short : ts.length ≤ n) {e : Expr}
    (h : Yields (primary ts) e rest) : ∃ pre, ts = pre ++ rest ∧ e.Fits 0 pre := by
  rw [primary] at h
  split at h
  next => exact absurd h not_yields_error
  next t ts₁ shorter₁ taken =>
    obtain ⟨_, rfl, same⟩ := eq_cons_of_take? taken
    cases same
    split at h
    next e atom =>
      obtain ⟨rfl, rfl⟩ := eq_of_yields_ok h
      exact ⟨[t], rfl, of_atom? atom⟩
    next =>
      split at h
      next => exact absurd h not_yields_error
      next is_open =>
        obtain ⟨inner, ts₂, _, second, h⟩ := of_yields_bind h
        obtain ⟨us, rfl, fits⟩ := ih.expression (by omega) second
        obtain ⟨close, ts₃, _, third, h⟩ := of_yields_bind h
        obtain ⟨rfl, is_close⟩ := yields_expect.mp third
        obtain ⟨rfl, rfl⟩ := eq_of_yields_ok h
        refine ⟨t :: us ++ [close], by simp, ?_⟩
        exact ⟨.group is_open fits.spelled is_close, fits.shaped, Nat.le_refl 0⟩
      next is_open =>
        obtain ⟨es, ts₂, _, second, h⟩ := of_yields_bind h
        obtain ⟨us, rfl, spelled, shaped⟩ := of_yields_elements ih (by omega) second
        obtain ⟨close, ts₃, _, third, h⟩ := of_yields_bind h
        obtain ⟨rfl, is_close⟩ := yields_expect.mp third
        obtain ⟨rfl, rfl⟩ := eq_of_yields_ok h
        refine ⟨t :: us ++ [close], by simp, ?_⟩
        exact ⟨.array is_open spelled is_close, shaped, Nat.le_refl 0⟩
      next is_open =>
        obtain ⟨ps, ts₂, _, second, h⟩ := of_yields_bind h
        obtain ⟨us, rfl, spelled, shaped⟩ := of_yields_properties ih (by omega) second
        obtain ⟨close, ts₃, _, third, h⟩ := of_yields_bind h
        obtain ⟨rfl, is_close⟩ := yields_expect.mp third
        obtain ⟨rfl, rfl⟩ := eq_of_yields_ok h
        refine ⟨t :: us ++ [close], by simp, ?_⟩
        exact ⟨.object is_open spelled is_close, shaped, Nat.le_refl 0⟩
      next is_word =>
        obtain ⟨f, ts₂, _, second, h⟩ := of_yields_bind h
        obtain ⟨us, rfl, spelled, shaped⟩ := of_yields_functionRest ih (by omega) second
        obtain ⟨rfl, rfl⟩ := eq_of_yields_ok h
        exact ⟨t :: us, rfl, .function is_word spelled, shaped, Nat.le_refl 0⟩
      next => exact absurd h not_yields_error

/-- What is read behind an expression makes a longer one with it. -/
theorem of_yields_accesses {ts rest us : List Token} (short : ts.length ≤ n) {e e' : Expr}
    (fits : e.Fits 1 us) (h : Yields (accesses e ts) e' rest) :
    ∃ pre, ts = pre ++ rest ∧ e'.Fits 1 (us ++ pre) := by
  have tight := fits.level
  have shaped := fits.shaped
  rw [accesses] at h
  split at h
  next ts₁ shorter₁ taken =>
    obtain ⟨opening, rfl, is_open⟩ := eq_cons_of_take? taken
    obtain ⟨args, ts₂, _, second, h⟩ := of_yields_bind h
    obtain ⟨vs, rfl, spelled, args_shaped⟩ := of_yields_arguments ih (by omega) second
    obtain ⟨close, ts₃, shorter₃, third, h⟩ := of_yields_bind h
    obtain ⟨rfl, is_close⟩ := yields_expect.mp third
    obtain ⟨e'', ts₄, _, fourth, h⟩ := of_yields_bind h
    have longer : Expr.Fits 1 (.call e args (e.span.merge close.span))
        (us ++ opening :: vs ++ [close]) := by
      refine ⟨?_, by simp [Expr.isShaped, tight, shaped, args_shaped], Nat.le_refl 1⟩
      exact .call fits.spelled (Option.some.inj is_open) spelled is_close
    obtain ⟨ws, rfl, fits'⟩ := of_yields_accesses (by omega) longer fourth
    obtain ⟨rfl, rfl⟩ := eq_of_yields_ok h
    exact ⟨opening :: vs ++ close :: ws, by simp, by simpa using fits'⟩
  next ts₁ shorter₁ taken =>
    obtain ⟨dot, rfl, is_dot⟩ := eq_cons_of_take? taken
    obtain ⟨name, ts₂, shorter₂, second, h⟩ := of_yields_bind h
    obtain ⟨rfl, is_name⟩ := yields_expect.mp second
    obtain ⟨e'', ts₃, _, third, h⟩ := of_yields_bind h
    have longer : Expr.Fits 1 (.member e name.lexeme (e.span.merge name.span))
        (us ++ [dot, name]) := by
      refine ⟨?_, by simp [Expr.isShaped, tight, shaped], Nat.le_refl 1⟩
      exact .member fits.spelled (Option.some.inj is_dot) is_name
    obtain ⟨ws, rfl, fits'⟩ := of_yields_accesses (by omega) longer third
    obtain ⟨rfl, rfl⟩ := eq_of_yields_ok h
    exact ⟨dot :: name :: ws, by simp, by simpa using fits'⟩
  next ts₁ shorter₁ taken =>
    obtain ⟨opening, rfl, is_open⟩ := eq_cons_of_take? taken
    obtain ⟨key, ts₂, _, second, h⟩ := of_yields_bind h
    obtain ⟨vs, rfl, key_fits⟩ := ih.expression (by omega) second
    obtain ⟨close, ts₃, shorter₃, third, h⟩ := of_yields_bind h
    obtain ⟨rfl, is_close⟩ := yields_expect.mp third
    obtain ⟨e'', ts₄, _, fourth, h⟩ := of_yields_bind h
    have longer : Expr.Fits 1 (.index e key (e.span.merge close.span))
        (us ++ opening :: vs ++ [close]) := by
      refine ⟨?_, by simp [Expr.isShaped, tight, shaped, key_fits.shaped], Nat.le_refl 1⟩
      exact .index fits.spelled (Option.some.inj is_open) key_fits.spelled is_close
    obtain ⟨ws, rfl, fits'⟩ := of_yields_accesses (by omega) longer fourth
    obtain ⟨rfl, rfl⟩ := eq_of_yields_ok h
    exact ⟨opening :: vs ++ close :: ws, by simp, by simpa using fits'⟩
  next =>
    obtain ⟨rfl, rfl⟩ := eq_of_yields_ok h
    exact ⟨[], rfl, by simpa using fits⟩
termination_by ts.length

theorem of_yields_call {ts rest : List Token} (short : ts.length ≤ n) {e : Expr}
    (h : Yields (call ts) e rest) : ∃ pre, ts = pre ++ rest ∧ e.Fits 1 pre := by
  rw [call] at h
  obtain ⟨e', ts₁, shorter, first, h⟩ := of_yields_bind h
  obtain ⟨us, rfl, fits⟩ := of_yields_primary ih short first
  obtain ⟨e'', ts₂, _, second, h⟩ := of_yields_bind h
  obtain ⟨vs, rfl, fits'⟩ := of_yields_accesses ih (by omega) (fits.mono (Nat.zero_le 1)) second
  obtain ⟨rfl, rfl⟩ := eq_of_yields_ok h
  exact ⟨us ++ vs, by simp, fits'⟩

omit ih in
theorem of_stepsAfter {ts rest us : List Token} {e e' : Expr} (fits : e.Fits 2 us)
    {shorter : rest.length < ts.length + 1} (h : stepsAfter e ts = ⟨e', rest, shorter⟩) :
    ∃ pre, ts = pre ++ rest ∧ e'.Fits 2 (us ++ pre) := by
  rw [stepsAfter] at h
  split at h
  next =>
    cases h
    exact ⟨[], rfl, by simpa using fits⟩
  next op s ts₁ shorter₁ taken =>
    obtain ⟨t, rfl, used⟩ := eq_cons_of_take? taken
    obtain ⟨_, is_step, same⟩ := Option.map_eq_some_iff.mp used
    cases same
    have longer : Expr.Fits 2 (.stepAfter op e (e.span.merge t.span)) (us ++ [t]) := by
      refine ⟨.stepAfter fits.spelled (stepOp?_eq_some.mp is_step), ?_, Nat.le_refl 2⟩
      simp [Expr.isShaped, fits.level, fits.shaped]
    cases rest_steps : stepsAfter (.stepAfter op e (e.span.merge t.span)) ts₁ with
    | mk e'' ts₂ shorter₂ =>
      rw [rest_steps] at h
      cases h
      obtain ⟨vs, rfl, fits'⟩ := of_stepsAfter longer rest_steps
      exact ⟨t :: vs, rfl, by simpa using fits'⟩
termination_by ts.length

theorem of_yields_unary {ts rest : List Token} (short : ts.length ≤ n) {e : Expr}
    (h : Yields (unary ts) e rest) : ∃ pre, ts = pre ++ rest ∧ e.Fits 3 pre := by
  rw [unary] at h
  split at h
  next =>
    obtain ⟨e', ts₁, shorter₁, first, h⟩ := of_yields_bind h
    obtain ⟨us, rfl, fits⟩ := of_yields_call ih short first
    cases steps : stepsAfter e' ts₁ with
    | mk e'' ts₂ shorter₂ =>
      simp only [steps] at h
      obtain ⟨vs, rfl, fits'⟩ := of_stepsAfter (fits.mono (Nat.le_succ 1)) steps
      obtain ⟨rfl, rfl⟩ := eq_of_yields_ok h
      exact ⟨us ++ vs, by simp, fits'.mono (Nat.le_succ 2)⟩
  next op s ts₁ shorter₁ taken =>
    obtain ⟨t, rfl, used⟩ := eq_cons_of_take? taken
    obtain ⟨_, is_op, same⟩ := Option.map_eq_some_iff.mp used
    cases same
    obtain ⟨operand, ts₂, _, second, h⟩ := of_yields_bind h
    obtain ⟨us, rfl, fits⟩ := of_yields_unary (by omega) second
    obtain ⟨rfl, rfl⟩ := eq_of_yields_ok h
    refine ⟨t :: us, rfl, .unary (unaryOp?_eq_some.mp is_op) fits.spelled, ?_, Nat.le_refl 3⟩
    simp [Expr.isShaped, fits.level, fits.shaped]
termination_by ts.length

omit ih in
/-- What is read behind a left operand makes a longer one with it, by operators of its level. -/
theorem of_yields_operations {k : Nat}
    (operand : ∀ {ts rest : List Token} {e : Expr}, ts.length ≤ n → Yields (binary k ts) e rest →
      ∃ pre, ts = pre ++ rest ∧ e.Fits (k + 3) pre)
    {ts rest us : List Token} (short : ts.length ≤ n) {left e : Expr}
    (fits : left.Fits (k + 4) us) (h : Yields (operations k left ts) e rest) :
    ∃ pre, ts = pre ++ rest ∧ e.Fits (k + 4) (us ++ pre) := by
  rw [operations] at h
  split at h
  next =>
    obtain ⟨rfl, rfl⟩ := eq_of_yields_ok h
    exact ⟨[], rfl, by simpa using fits⟩
  next op ts₁ shorter₁ taken =>
    obtain ⟨t, rfl, used⟩ := eq_cons_of_take? taken
    obtain ⟨is_op, loose⟩ := Option.filter_eq_some_iff.mp used
    have level : op.level = k + 4 := looseness_eq.mp (of_decide_eq_true loose)
    obtain ⟨right, ts₂, shorter₂, second, h⟩ := of_yields_bind h
    obtain ⟨vs, rfl, right_fits⟩ := operand (by omega) second
    obtain ⟨e', ts₃, _, third, h⟩ := of_yields_bind h
    have longer : Expr.Fits (k + 4) (.binary op left right (left.span.merge right.span))
        (us ++ t :: vs) := by
      refine ⟨.binary fits.spelled (binaryOp?_eq_some.mp is_op) right_fits.spelled, ?_, ?_⟩
      · have tight : right.level < k + 4 := Nat.lt_succ_of_le right_fits.level
        simp [Expr.isShaped, level, fits.level, tight, fits.shaped, right_fits.shaped]
      · exact Nat.le_of_eq level
    obtain ⟨ws, rfl, fits'⟩ := of_yields_operations operand (by omega) longer third
    obtain ⟨rfl, rfl⟩ := eq_of_yields_ok h
    exact ⟨t :: vs ++ ws, by simp, by simpa using fits'⟩
termination_by ts.length

theorem of_yields_binary (k : Nat) {ts rest : List Token} (short : ts.length ≤ n) {e : Expr}
    (h : Yields (binary k ts) e rest) : ∃ pre, ts = pre ++ rest ∧ e.Fits (k + 3) pre := by
  induction k generalizing ts rest e with
  | zero =>
    rw [binary] at h
    exact of_yields_unary ih short h
  | succ k operand =>
    rw [binary] at h
    obtain ⟨left, ts₁, shorter₁, first, h⟩ := of_yields_bind h
    obtain ⟨us, rfl, fits⟩ := operand short first
    obtain ⟨e', ts₂, _, second, h⟩ := of_yields_bind h
    have fewer : ts₁.length ≤ n := by omega
    obtain ⟨vs, rfl, fits'⟩ := of_yields_operations (fun short h => operand short h) fewer
      (fits.mono (Nat.le_succ _)) second
    obtain ⟨rfl, rfl⟩ := eq_of_yields_ok h
    exact ⟨us ++ vs, by simp, fits'⟩

theorem of_yields_conditional {ts rest : List Token} (short : ts.length ≤ n) {e : Expr}
    (h : Yields (conditional ts) e rest) : ∃ pre, ts = pre ++ rest ∧ e.Fits 10 pre := by
  rw [conditional] at h
  obtain ⟨c, ts₁, shorter₁, first, h⟩ := of_yields_bind h
  obtain ⟨us, rfl, c_fits⟩ := of_yields_binary ih 6 short first
  dsimp only at h
  split at h
  next =>
    obtain ⟨rfl, rfl⟩ := eq_of_yields_ok h
    exact ⟨us, rfl, c_fits.mono (Nat.le_succ 9)⟩
  next question ts₂ shorter₂ taken =>
    obtain ⟨rfl, is_question⟩ := eq_cons_of_takeKind? taken
    obtain ⟨a, ts₃, shorter₃, second, h⟩ := of_yields_bind h
    obtain ⟨vs, rfl, a_fits⟩ := ih.expression (by omega) second
    obtain ⟨colon, ts₄, shorter₄, third, h⟩ := of_yields_bind h
    obtain ⟨rfl, is_colon⟩ := yields_expect.mp third
    obtain ⟨b, ts₅, _, fourth, h⟩ := of_yields_bind h
    have fewer : ts₄.length < n := by
      simp only [List.length_append, List.length_cons] at short
      omega
    obtain ⟨ws, rfl, b_fits⟩ := ih.expression fewer fourth
    obtain ⟨rfl, rfl⟩ := eq_of_yields_ok h
    refine ⟨us ++ question :: vs ++ colon :: ws, by simp, ?_, ?_, Nat.le_refl 10⟩
    · exact .conditional c_fits.spelled is_question a_fits.spelled is_colon b_fits.spelled
    · simp [Expr.isShaped, c_fits.level, c_fits.shaped, a_fits.shaped, b_fits.shaped]

/-- An assignment is read only to what can be assigned to. -/
theorem of_yields_expression {ts rest : List Token} (short : ts.length ≤ n) {e : Expr}
    (h : Yields (expression ts) e rest) : ∃ pre, ts = pre ++ rest ∧ e.Fits 11 pre := by
  rw [expression] at h
  obtain ⟨target, ts₁, shorter₁, first, h⟩ := of_yields_bind h
  obtain ⟨us, rfl, target_fits⟩ := of_yields_conditional ih short first
  dsimp only at h
  split at h
  next =>
    obtain ⟨rfl, rfl⟩ := eq_of_yields_ok h
    exact ⟨us, rfl, target_fits.mono (Nat.le_succ 10)⟩
  next op ts₂ shorter₂ taken =>
    obtain ⟨t, rfl, is_op⟩ := eq_cons_of_take? taken
    split at h
    next assignable =>
      obtain ⟨value, ts₃, _, second, h⟩ := of_yields_bind h
      obtain ⟨vs, rfl, value_fits⟩ := ih.expression (by omega) second
      obtain ⟨rfl, rfl⟩ := eq_of_yields_ok h
      refine ⟨us ++ t :: vs, by simp, ?_, ?_, Nat.le_refl 11⟩
      · exact .assign target_fits.spelled (assignOp?_eq_some.mp is_op) value_fits.spelled
      · simp [Expr.isShaped, assignable, target_fits.shaped, value_fits.shaped]
    next => exact absurd h not_yields_error

theorem of_yields_optionalExpression {ts rest : List Token} (short : ts.length ≤ n)
    {stopper : Symbol} {e : Option Expr} (h : Yields (optionalExpression stopper ts) e rest) :
    ∃ pre, ts = pre ++ rest ∧ OptionalSpelled e pre ∧ optionalShaped e = true := by
  rw [optionalExpression] at h
  split at h
  next =>
    obtain ⟨rfl, rfl⟩ := eq_of_yields_ok h
    exact ⟨[], rfl, .missing, rfl⟩
  next =>
    obtain ⟨e', ts₁, _, first, h⟩ := of_yields_bind h
    obtain ⟨us, rfl, fits⟩ := of_yields_expression ih short first
    obtain ⟨rfl, rfl⟩ := eq_of_yields_ok h
    exact ⟨us, rfl, .given fits.spelled, fits.shaped⟩

/-! ## Statements -/

omit ih in
/-- The type of a declaration with an initializer. -/
theorem declared_getD {type : Option TypeName} {us : List Token} (annotated : Annotated type us)
    (init : Expr) : Declared init (some (type.getD (TypeName.infer init))) us := by
  cases annotated with
  | missing => exact .inferred
  | given is_colon is_type => exact .given (.given is_colon is_type)

theorem of_yields_variableRest {ts rest : List Token} (short : ts.length ≤ n)
    {word : DeclareWord} {t : Token} (is_word : t.kind = .word word.word) {s : Stmt}
    (h : Yields (variableRest word t.span ts) s rest) :
    ∃ pre, ts = pre ++ rest ∧ s.Fits (t :: pre) ∧ s.isVariable = true := by
  rw [variableRest] at h
  obtain ⟨name, ts₁, shorter₁, first, h⟩ := of_yields_bind h
  obtain ⟨rfl, is_name⟩ := yields_expect.mp first
  obtain ⟨type, ts₂, shorter₂, second, h⟩ := of_yields_bind h
  obtain ⟨us, rfl, annotated⟩ := of_yields_annotated second
  dsimp only at h
  split at h
  next =>
    obtain ⟨_, ts₃, _, third, h⟩ := of_yields_bind h
    obtain ⟨stop, rfl, is_stop, rfl⟩ := yields_semicolon.mp third
    obtain ⟨rfl, rfl⟩ := eq_of_yields_ok h
    refine ⟨name :: us ++ [stop], by simp, ⟨?_, rfl⟩, rfl⟩
    exact .declare is_word is_name annotated is_stop
  next equal ts₃ shorter₃ taken =>
    obtain ⟨rfl, is_equal⟩ := eq_cons_of_takeKind? taken
    obtain ⟨init, ts₄, _, third, h⟩ := of_yields_bind h
    obtain ⟨vs, rfl, fits⟩ := ih.expression (by omega) third
    obtain ⟨_, ts₅, _, fourth, h⟩ := of_yields_bind h
    obtain ⟨stop, rfl, is_stop, rfl⟩ := yields_semicolon.mp fourth
    obtain ⟨rfl, rfl⟩ := eq_of_yields_ok h
    refine ⟨name :: us ++ equal :: vs ++ [stop], by simp, ⟨?_, ?_⟩, rfl⟩
    · exact .declareWith is_word is_name (declared_getD annotated init) is_equal fits.spelled
        is_stop
    · simp [Stmt.isShaped, fits.shaped]

theorem of_yields_constantRest {ts rest : List Token} (short : ts.length ≤ n)
    {t : Token} (is_word : t.kind = .word .const) {s : Stmt}
    (h : Yields (constantRest t.span ts) s rest) :
    ∃ pre, ts = pre ++ rest ∧ s.Fits (t :: pre) ∧ s.isVariable = true := by
  rw [constantRest] at h
  obtain ⟨name, ts₁, shorter₁, first, h⟩ := of_yields_bind h
  obtain ⟨rfl, is_name⟩ := yields_expect.mp first
  obtain ⟨type, ts₂, shorter₂, second, h⟩ := of_yields_bind h
  obtain ⟨us, rfl, annotated⟩ := of_yields_annotated second
  obtain ⟨equal, ts₃, shorter₃, third, h⟩ := of_yields_bind h
  obtain ⟨rfl, is_equal⟩ := yields_expect.mp third
  obtain ⟨init, ts₄, _, fourth, h⟩ := of_yields_bind h
  have fewer : ts₃.length < n := by
    simp only [List.length_append, List.length_cons] at short
    omega
  obtain ⟨vs, rfl, fits⟩ := ih.expression fewer fourth
  obtain ⟨_, ts₅, _, fifth, h⟩ := of_yields_bind h
  obtain ⟨stop, rfl, is_stop, rfl⟩ := yields_semicolon.mp fifth
  obtain ⟨rfl, rfl⟩ := eq_of_yields_ok h
  refine ⟨name :: us ++ equal :: vs ++ [stop], by simp, ⟨?_, ?_⟩, rfl⟩
  · exact .constant is_word is_name (declared_getD annotated init) is_equal fits.spelled is_stop
  · simp [Stmt.isShaped, fits.shaped]

/-- An expression is a statement only where its first token starts no other one. -/
theorem of_yields_expressionStatement {ts rest : List Token} (short : ts.length ≤ n) {s : Stmt}
    (h : Yields (expressionStatement ts) s rest) :
    ∃ e span pre, s = .expr e span ∧ ts = pre ++ rest ∧ s.Spelled pre ∧ e.isShaped = true ∧
      (e.opensLikeStatement = true → startsWith (.symbol .leftBrace) ts = true ∨
        startsWith (.word .function) ts = true) := by
  rw [expressionStatement] at h
  obtain ⟨e, ts₁, _, first, h⟩ := of_yields_bind h
  obtain ⟨us, rfl, fits⟩ := of_yields_expression ih short first
  obtain ⟨_, ts₂, _, second, h⟩ := of_yields_bind h
  obtain ⟨stop, rfl, is_stop, rfl⟩ := yields_semicolon.mp second
  obtain ⟨rfl, rfl⟩ := eq_of_yields_ok h
  refine ⟨e, _, us ++ [stop], rfl, by simp, .expr fits.spelled is_stop, fits.shaped, ?_⟩
  intro opens
  obtain ⟨t, vs, rfl, opened⟩ := fits.spelled.head
  exact (opened.statement.mp opens).imp startsWith_cons startsWith_cons

/-- An expression statement that does not open like a block or a function. -/
theorem of_yields_plainStatement {ts rest : List Token} (short : ts.length ≤ n)
    (no_brace : startsWith (.symbol .leftBrace) ts = false)
    (no_function : startsWith (.word .function) ts = false) {s : Stmt}
    (h : Yields (expressionStatement ts) s rest) :
    ∃ pre, ts = pre ++ rest ∧ s.FitsBefore pre rest := by
  obtain ⟨e, _, us, rfl, same, spelled, shaped, opens⟩ := of_yields_expressionStatement ih short h
  have plain : e.opensLikeStatement = false := by
    refine Bool.eq_false_iff.mpr fun like => ?_
    cases opens like with
    | inl brace =>
      rw [no_brace] at brace
      cases brace
    | inr word =>
      rw [no_function] at word
      cases word
  refine ⟨us, same, .of_closed ⟨spelled, ?_⟩ rfl rfl⟩
  simp [Stmt.isShaped, shaped, plain]

/-- The first branch does not end open where a second one follows. -/
theorem of_yields_ifRest {ts rest : List Token} (short : ts.length ≤ n) {t : Token}
    (is_word : t.kind = .word .if_) {s : Stmt} (h : Yields (ifRest t.span ts) s rest) :
    ∃ pre, ts = pre ++ rest ∧ s.FitsBefore (t :: pre) rest := by
  rw [ifRest] at h
  obtain ⟨opening, ts₁, shorter₁, first, h⟩ := of_yields_bind h
  obtain ⟨rfl, is_open⟩ := yields_expect.mp first
  obtain ⟨c, ts₂, shorter₂, second, h⟩ := of_yields_bind h
  obtain ⟨us, rfl, c_fits⟩ := ih.expression (by omega) second
  obtain ⟨close, ts₃, shorter₃, third, h⟩ := of_yields_bind h
  obtain ⟨rfl, is_close⟩ := yields_expect.mp third
  obtain ⟨a, ts₄, shorter₄, fourth, h⟩ := of_yields_bind h
  have fewer : ts₃.length < n := by
    simp only [List.length_append, List.length_cons] at short
    omega
  obtain ⟨vs, rfl, a_fits⟩ := ih.statement fewer fourth
  dsimp only at h
  split at h
  next none_ =>
    obtain ⟨rfl, rfl⟩ := eq_of_yields_ok h
    refine ⟨opening :: us ++ close :: vs, by simp, ⟨?_, ?_⟩, rfl, fun _ => ?_⟩
    · exact .if_ is_word is_open c_fits.spelled is_close a_fits.spelled
    · simp [Stmt.isShaped, c_fits.shaped, a_fits.plain, a_fits.shaped]
    · exact takeKind?_eq_none.mp none_
  next word ts₅ shorter₅ taken =>
    obtain ⟨rfl, is_else⟩ := eq_cons_of_takeKind? taken
    have closed : a.endsOpen = false := by
      refine Bool.eq_false_iff.mpr fun ends_open => ?_
      have other := a_fits.closed ends_open
      rw [startsWith_cons is_else] at other
      cases other
    obtain ⟨b, ts₆, _, fifth, h⟩ := of_yields_bind h
    have fewer' : ts₅.length < n := by
      simp only [List.length_append, List.length_cons] at fewer
      omega
    obtain ⟨ws, rfl, b_fits⟩ := ih.statement fewer' fifth
    obtain ⟨rfl, rfl⟩ := eq_of_yields_ok h
    refine ⟨opening :: us ++ close :: vs ++ word :: ws, by simp, ⟨?_, ?_⟩, rfl, b_fits.closed⟩
    · exact .ifElse is_word is_open c_fits.spelled is_close a_fits.spelled is_else b_fits.spelled
    · simp [Stmt.isShaped, c_fits.shaped, a_fits.plain, a_fits.shaped, closed, b_fits.plain,
        b_fits.shaped]

theorem of_yields_forInit {ts rest : List Token} (short : ts.length ≤ n) {init : Option Stmt}
    (h : Yields (forInit ts) init rest) :
    ∃ pre, ts = pre ++ rest ∧ InitSpelled init pre ∧ initShaped init = true := by
  have of_expression : ∀ {s : Stmt}, Yields (expressionStatement ts) s rest →
      ∃ pre, ts = pre ++ rest ∧ InitSpelled (some s) pre ∧ initShaped (some s) = true := by
    intro s first
    obtain ⟨e, _, us, rfl, same, spelled, shaped, -⟩ := of_yields_expressionStatement ih short first
    cases spelled with
    | expr inner is_stop => exact ⟨_, same, .expr inner is_stop, shaped⟩
  rw [forInit] at h
  split at h
  next =>
    obtain ⟨s, ts₁, _, first, h⟩ := of_yields_bind h
    obtain ⟨rfl, rfl⟩ := eq_of_yields_ok h
    exact of_expression first
  next t ts₁ shorter₁ taken =>
    obtain ⟨_, rfl, same⟩ := eq_cons_of_take? taken
    cases same
    split at h
    next is_stop =>
      obtain ⟨rfl, rfl⟩ := eq_of_yields_ok h
      exact ⟨[t], rfl, .missing is_stop, rfl⟩
    next is_word =>
      obtain ⟨s, ts₂, _, second, h⟩ := of_yields_bind h
      obtain ⟨us, rfl, fits, variable_⟩ :=
        of_yields_constantRest ih (Nat.le_trans (Nat.le_of_lt shorter₁) short) is_word second
      obtain ⟨rfl, rfl⟩ := eq_of_yields_ok h
      exact ⟨t :: us, rfl, .variable_ variable_ fits.spelled,
        (initShaped_of_isVariable variable_).trans fits.shaped⟩
    next =>
      split at h
      next word is_word =>
        obtain ⟨s, ts₂, _, second, h⟩ := of_yields_bind h
        obtain ⟨us, rfl, fits, variable_⟩ :=
          of_yields_variableRest ih (Nat.le_trans (Nat.le_of_lt shorter₁) short)
            (declareWord?_eq_some.mp is_word) second
        obtain ⟨rfl, rfl⟩ := eq_of_yields_ok h
        exact ⟨t :: us, rfl, .variable_ variable_ fits.spelled,
          (initShaped_of_isVariable variable_).trans fits.shaped⟩
      next =>
        obtain ⟨s, ts₂, _, second, h⟩ := of_yields_bind h
        obtain ⟨rfl, rfl⟩ := eq_of_yields_ok h
        exact of_expression second

theorem of_yields_forRest {ts rest : List Token} (short : ts.length ≤ n) {t : Token}
    (is_word : t.kind = .word .for_) {s : Stmt} (h : Yields (forRest t.span ts) s rest) :
    ∃ pre, ts = pre ++ rest ∧ s.FitsBefore (t :: pre) rest := by
  rw [forRest] at h
  obtain ⟨opening, ts₁, shorter₁, first, h⟩ := of_yields_bind h
  obtain ⟨rfl, is_open⟩ := yields_expect.mp first
  simp only [List.length_cons] at short
  obtain ⟨init, ts₂, shorter₂, second, h⟩ := of_yields_bind h
  obtain ⟨is, rfl, init_spelled, init_shaped⟩ := of_yields_forInit ih (by omega) second
  simp only [List.length_append] at short
  obtain ⟨c, ts₃, shorter₃, third, h⟩ := of_yields_bind h
  obtain ⟨us, rfl, c_spelled, c_shaped⟩ := of_yields_optionalExpression ih (by omega) third
  obtain ⟨stop, ts₄, shorter₄, fourth, h⟩ := of_yields_bind h
  obtain ⟨rfl, is_stop⟩ := yields_expect.mp fourth
  simp only [List.length_append, List.length_cons] at short
  obtain ⟨update, ts₅, shorter₅, fifth, h⟩ := of_yields_bind h
  obtain ⟨vs, rfl, update_spelled, update_shaped⟩ :=
    of_yields_optionalExpression ih (by omega) fifth
  obtain ⟨close, ts₆, shorter₆, sixth, h⟩ := of_yields_bind h
  obtain ⟨rfl, is_close⟩ := yields_expect.mp sixth
  simp only [List.length_append, List.length_cons] at short
  obtain ⟨body, ts₇, _, seventh, h⟩ := of_yields_bind h
  obtain ⟨ws, rfl, fits⟩ := ih.statement (by omega) seventh
  obtain ⟨rfl, rfl⟩ := eq_of_yields_ok h
  refine ⟨opening :: is ++ us ++ stop :: vs ++ close :: ws, by simp, ⟨?_, ?_⟩, rfl, fits.closed⟩
  · exact .for_ is_word is_open init_spelled c_spelled is_stop update_spelled is_close fits.spelled
  · simp [Stmt.isShaped, init_shaped, c_shaped, update_shaped, fits.plain, fits.shaped]

/-- What is read as a statement spells it, and no branch follows that it could take. -/
theorem of_yields_statement {ts rest : List Token} (short : ts.length ≤ n) {s : Stmt}
    (h : Yields (statement ts) s rest) : ∃ pre, ts = pre ++ rest ∧ s.FitsBefore pre rest := by
  rw [statement] at h
  split at h
  next nothing =>
    cases ts with
    | nil => exact of_yields_plainStatement ih short rfl rfl h
    | cons t us => cases nothing
  next t ts₁ shorter₁ taken =>
    obtain ⟨_, rfl, same⟩ := eq_cons_of_take? taken
    cases same
    split at h
    next is_word =>
      obtain ⟨e, ts₂, _, second, h⟩ := of_yields_bind h
      obtain ⟨us, rfl, fits⟩ := ih.expression (by omega) second
      obtain ⟨_, ts₃, _, third, h⟩ := of_yields_bind h
      obtain ⟨stop, rfl, is_stop, rfl⟩ := yields_semicolon.mp third
      obtain ⟨rfl, rfl⟩ := eq_of_yields_ok h
      refine ⟨t :: us ++ [stop], by simp, .of_closed ⟨?_, fits.shaped⟩ rfl rfl⟩
      exact .print is_word fits.spelled is_stop
    next is_word =>
      obtain ⟨s', ts₂, _, second, h⟩ := of_yields_bind h
      obtain ⟨us, rfl, fits⟩ :=
        of_yields_ifRest ih (Nat.le_trans (Nat.le_of_lt shorter₁) short) is_word second
      obtain ⟨rfl, rfl⟩ := eq_of_yields_ok h
      exact ⟨t :: us, rfl, fits⟩
    next is_word =>
      obtain ⟨opening, ts₂, shorter₂, second, h⟩ := of_yields_bind h
      obtain ⟨rfl, is_open⟩ := yields_expect.mp second
      obtain ⟨c, ts₃, shorter₃, third, h⟩ := of_yields_bind h
      obtain ⟨us, rfl, c_fits⟩ := ih.expression (by omega) third
      obtain ⟨close, ts₄, shorter₄, fourth, h⟩ := of_yields_bind h
      obtain ⟨rfl, is_close⟩ := yields_expect.mp fourth
      obtain ⟨body, ts₅, _, fifth, h⟩ := of_yields_bind h
      have fewer : ts₄.length < n := by
        simp only [List.length_append, List.length_cons] at short
        omega
      obtain ⟨vs, rfl, fits⟩ := ih.statement fewer fifth
      obtain ⟨rfl, rfl⟩ := eq_of_yields_ok h
      refine ⟨t :: opening :: us ++ close :: vs, by simp, ⟨?_, ?_⟩, rfl, fits.closed⟩
      · exact .while_ is_word is_open c_fits.spelled is_close fits.spelled
      · simp [Stmt.isShaped, c_fits.shaped, fits.plain, fits.shaped]
    next is_word =>
      obtain ⟨s', ts₂, _, second, h⟩ := of_yields_bind h
      obtain ⟨us, rfl, fits⟩ :=
        of_yields_forRest ih (Nat.le_trans (Nat.le_of_lt shorter₁) short) is_word second
      obtain ⟨rfl, rfl⟩ := eq_of_yields_ok h
      exact ⟨t :: us, rfl, fits⟩
    next is_word =>
      obtain ⟨_, ts₂, _, second, h⟩ := of_yields_bind h
      obtain ⟨stop, rfl, is_stop, rfl⟩ := yields_semicolon.mp second
      obtain ⟨rfl, rfl⟩ := eq_of_yields_ok h
      exact ⟨[t, stop], rfl, .of_closed ⟨.break_ is_word is_stop, rfl⟩ rfl rfl⟩
    next is_word =>
      obtain ⟨_, ts₂, _, second, h⟩ := of_yields_bind h
      obtain ⟨stop, rfl, is_stop, rfl⟩ := yields_semicolon.mp second
      obtain ⟨rfl, rfl⟩ := eq_of_yields_ok h
      exact ⟨[t, stop], rfl, .of_closed ⟨.continue_ is_word is_stop, rfl⟩ rfl rfl⟩
    next is_word =>
      obtain ⟨value, ts₂, _, second, h⟩ := of_yields_bind h
      have fewer : ts₁.length ≤ n := by omega
      obtain ⟨us, rfl, spelled, shaped⟩ := of_yields_optionalExpression ih fewer second
      obtain ⟨_, ts₃, _, third, h⟩ := of_yields_bind h
      obtain ⟨stop, rfl, is_stop, rfl⟩ := yields_semicolon.mp third
      obtain ⟨rfl, rfl⟩ := eq_of_yields_ok h
      refine ⟨t :: us ++ [stop], by simp, .of_closed ⟨?_, shaped⟩ rfl rfl⟩
      exact .return_ is_word spelled is_stop
    next is_open =>
      obtain ⟨⟨body, span⟩, ts₂, _, second, h⟩ := of_yields_bind h
      obtain ⟨left, us, right, same, is_left, spelled, is_right, rfl, shaped⟩ :=
        of_yields_block ih short second
      obtain ⟨rfl, rfl⟩ := eq_of_yields_ok h
      refine ⟨left :: us ++ [right], by simpa using same, .of_closed ⟨?_, shaped⟩ rfl rfl⟩
      exact .block is_left spelled is_right
    next is_word =>
      obtain ⟨f, ts₂, _, second, h⟩ := of_yields_bind h
      have fewer : ts₁.length ≤ n := by omega
      obtain ⟨us, rfl, spelled, shaped⟩ := of_yields_functionRest ih fewer second
      dsimp only at h
      split at h
      next named =>
        obtain ⟨rfl, rfl⟩ := eq_of_yields_ok h
        refine ⟨t :: us, rfl, .of_closed ⟨.function is_word spelled, ?_⟩ rfl rfl⟩
        simp [Stmt.isShaped, named, shaped]
      next unnamed =>
        obtain ⟨_, ts₃, _, third, h⟩ := of_yields_bind h
        obtain ⟨stop, rfl, is_stop, rfl⟩ := yields_semicolon.mp third
        obtain ⟨rfl, rfl⟩ := eq_of_yields_ok h
        have anonymous : (Expr.function f).isAnonymous = true := by
          simpa [Expr.isAnonymous] using unnamed
        refine ⟨t :: us ++ [stop], by simp, .of_closed ⟨?_, ?_⟩ rfl rfl⟩
        · exact .expr (.function is_word spelled) is_stop
        · simp [Stmt.isShaped, Expr.isShaped, shaped, anonymous]
    next _ _ _ _ _ _ _ no_brace no_function =>
      exact of_yields_plainStatement ih short (decide_eq_false no_brace)
        (decide_eq_false no_function) h

theorem of_yields_declaration {ts rest : List Token} (short : ts.length ≤ n) {s : Stmt}
    (h : Yields (declaration ts) s rest) : ∃ pre, ts = pre ++ rest ∧ s.Fits pre := by
  rw [declaration] at h
  split at h
  next word span ts₁ shorter₁ taken =>
    obtain ⟨t, rfl, used⟩ := eq_cons_of_take? taken
    obtain ⟨_, is_word, same⟩ := Option.map_eq_some_iff.mp used
    cases same
    obtain ⟨s', ts₂, _, second, h⟩ := of_yields_bind h
    have fewer : ts₁.length ≤ n := by omega
    obtain ⟨us, rfl, fits, -⟩ :=
      of_yields_variableRest ih fewer (declareWord?_eq_some.mp is_word) second
    obtain ⟨rfl, rfl⟩ := eq_of_yields_ok h
    exact ⟨t :: us, rfl, fits⟩
  next =>
    split at h
    next t ts₁ shorter₁ taken =>
      obtain ⟨rfl, is_word⟩ := eq_cons_of_takeKind? taken
      obtain ⟨s', ts₂, _, second, h⟩ := of_yields_bind h
      have fewer : ts₁.length ≤ n := by omega
      obtain ⟨us, rfl, fits, -⟩ := of_yields_constantRest ih fewer is_word second
      obtain ⟨rfl, rfl⟩ := eq_of_yields_ok h
      exact ⟨t :: us, rfl, fits⟩
    next =>
      obtain ⟨pre, same, fits⟩ := of_yields_statement ih short h
      exact ⟨pre, same, fits.toFits⟩

/-! ## Programs -/

omit ih in
/-- The entry points of the recursion are sound on all tokens. -/
theorem soundBelow : ∀ n : Nat, SoundBelow n
  | 0 => ⟨nofun, nofun, nofun⟩
  | n + 1 =>
    have ih := soundBelow n
    { expression := fun short h => of_yields_expression ih (Nat.le_of_lt_succ short) h
      statement := fun short h => of_yields_statement ih (Nat.le_of_lt_succ short) h
      declaration := fun short h => of_yields_declaration ih (Nat.le_of_lt_succ short) h }

omit ih in
/-- What is read as a program spells its statements. -/
theorem of_statements {ts : List Token} {ss : List Stmt} (h : statements ts = .ok ss) :
    BodySpelled ss ts ∧ allShaped ss = true := by
  match ts with
  | [] =>
    rw [statements] at h
    cases h
    exact ⟨.nil, rfl⟩
  | t :: us =>
    rw [statements] at h
    cases first : declaration (t :: us) with
    | error e =>
      rw [first] at h
      cases h
    | ok p =>
      obtain ⟨s, ts₁, shorter⟩ := p
      rw [first] at h
      cases second : statements ts₁ with
      | error e =>
        simp only [bind, Except.bind, second] at h
        cases h
      | ok ss' =>
        simp only [bind, Except.bind, second] at h
        cases h
        obtain ⟨pre, same, fits⟩ :=
          (soundBelow _).declaration (Nat.lt_succ_self _) ⟨shorter, first⟩
        obtain ⟨spelled, shaped⟩ := of_statements second
        rw [same]
        exact ⟨.cons fits.spelled spelled, by simp [allShaped, fits.shaped, shaped]⟩
termination_by ts.length
decreasing_by exact shorter

end Parser

theorem statements_of_parseProgram {tokens : List Token} {p : Program}
    (parsed : parseProgram tokens = .ok p) :
    Parser.statements (Parser.body tokens) = .ok p.body := by
  unfold parseProgram at parsed
  split at parsed
  next body read =>
    cases parsed
    exact read
  next => cases parsed

/-- The program in a text is spelled by the tokens of the text. -/
theorem bodySpelled_of_parseText {source : String} {p : Program}
    (parsed : parseText source = .ok p) :
    ∃ ts, tokenize source = .ok ts ∧ BodySpelled p.body (Parser.body ts) := by
  unfold parseText at parsed
  split at parsed
  next ts read =>
    exact ⟨ts, read, (Parser.of_statements (statements_of_parseProgram parsed)).1⟩
  next => cases parsed

/-- What parses is well shaped, and spelled by the tokens before the end of the input that
are not white space. -/
theorem parsed_is_shaped_and_spelled (tokens : List Token) (p : Program)
    (h : parseProgram tokens = .ok p) :
    p.isShaped = true ∧ p.Spelled (Parser.body tokens) := by
  unfold parseProgram at h
  split at h
  next body ok =>
    cases h
    obtain ⟨spelled, shaped⟩ := Parser.of_statements ok
    exact ⟨shaped, spelled⟩
  next => cases h

/-- The tokens of `print -[a,];`, and a comma after the end of the input. -/
def printing : List Token :=
  [⟨.word .print, "print", none, ⟨0, 5⟩, 1, 1⟩, ⟨.space, " ", none, ⟨5, 6⟩, 1, 6⟩,
    ⟨.symbol .minus, "-", none, ⟨6, 7⟩, 1, 7⟩, ⟨.symbol .leftBracket, "[", none, ⟨7, 8⟩, 1, 8⟩,
    ⟨.identifier, "a", none, ⟨8, 9⟩, 1, 9⟩, ⟨.symbol .comma, ",", none, ⟨9, 10⟩, 1, 10⟩,
    ⟨.symbol .rightBracket, "]", none, ⟨10, 11⟩, 1, 11⟩,
    ⟨.symbol .semicolon, ";", none, ⟨11, 12⟩, 1, 12⟩, ⟨.eof, "", none, ⟨12, 12⟩, 1, 13⟩,
    ⟨.symbol .comma, ",", none, ⟨12, 13⟩, 1, 13⟩]

/-- White space, a last comma and what follows the end of the input do not count. -/
theorem parsed_is_shaped_and_spelled_printing :
    ∃ p, parseProgram printing = .ok p ∧ p.isShaped = true ∧
      p.Spelled (Parser.body printing) := by
  let array : Expr := .array [.identifier "a" ⟨8, 9⟩] ⟨7, 11⟩
  let p : Program := ⟨[.print (.unary .negate array ⟨6, 11⟩) ⟨0, 12⟩]⟩
  have parsed : parseProgram printing = .ok p := by with_unfolding_all rfl
  exact ⟨p, parsed, parsed_is_shaped_and_spelled printing p parsed⟩

end Scriptlet
