import Scriptlet.Tree.Spelling

/-!
# What parsers yield

A parser *yields* a value and the tokens after it.  This forgets the proof that
tokens were consumed, which `Yields.shorter` gives back.

The lemmas say what the single steps yield: one parser after another, one token,
an annotation.  The tables of the parser are those of the spelling, read the
other way (`binaryOp?_eq_some` and the like).
-/

namespace Scriptlet.Parser

/-! ## Results -/

/-- A parser gives a value with the tokens after it. -/
def Yields {α : Type} {bound : Nat} (r : ParseResult α bound) (a : α) (rest : List Token) :
    Prop :=
  ∃ shorter, r = .ok ⟨a, rest, shorter⟩

section

variable {α β : Type} {bound bound' : Nat} {a : α} {b : β} {ts us rest : List Token}

/-- What is left is less than what was there. -/
theorem Yields.shorter {r : ParseResult α bound} (h : Yields r a rest) : rest.length < bound := by
  obtain ⟨shorter, -⟩ := h
  exact shorter

theorem yields_ok (shorter : rest.length < bound) :
    Yields (.ok ⟨a, rest, shorter⟩) a rest :=
  ⟨shorter, rfl⟩

/-- A parser yields one thing. -/
theorem eq_of_yields_ok {p : Parsed α bound} (h : Yields (.ok p) a rest) :
    a = p.value ∧ rest = p.rest := by
  obtain ⟨_, same⟩ := h
  cases same
  exact ⟨rfl, rfl⟩

/-- What is refused yields nothing. -/
theorem not_yields_error {e : Refusal} : ¬ Yields (.error e : ParseResult α bound) a rest := by
  rintro ⟨_, same⟩
  cases same

/-- One parser after another. -/
theorem Yields.bind {r : ParseResult α bound} {f : Parsed α bound → ParseResult β bound'}
    (first : Yields r a us) (second : ∀ shorter, Yields (f ⟨a, us, shorter⟩) b rest) :
    Yields (r >>= f) b rest := by
  obtain ⟨shorter, rfl⟩ := first
  exact second shorter

/-- If one parser after another yields a value then both yield one. -/
theorem of_yields_bind {r : ParseResult α bound} {f : Parsed α bound → ParseResult β bound'}
    (h : Yields (r >>= f) b rest) :
    ∃ a us, ∃ shorter, Yields r a us ∧ Yields (f ⟨a, us, shorter⟩) b rest := by
  cases r with
  | error => exact absurd h not_yields_error
  | ok p => exact ⟨p.value, p.rest, p.shorter, yields_ok p.shorter, h⟩

end

/-! ## Single tokens -/

section

variable {β : Type} {use : Token → Option β} {t : Token} {ts us rest : List Token} {b : β}
  {k : Kind} {e : Expectation}

theorem take?_cons (h : use t = some b) :
    take? use (t :: ts) = some ⟨b, ts, Nat.lt_succ_self _⟩ := by
  simp only [take?, h, Option.map_some]

/-- A token is not taken if there is none, or not one of the right sort. -/
theorem take?_eq_none : take? use ts = none ↔ ∀ t us, ts = t :: us → use t = none := by
  cases ts with
  | nil => exact iff_of_true rfl fun _ _ same => nomatch same
  | cons t us =>
    simp only [take?, Option.map_eq_none_iff, List.cons.injEq]
    constructor
    · rintro unused _ _ ⟨rfl, rfl⟩
      exact unused
    · intro h
      exact h t us ⟨rfl, rfl⟩

/-- A token that was taken stood in front of the rest. -/
theorem eq_cons_of_take? {shorter : rest.length < ts.length}
    (h : take? use ts = some ⟨b, rest, shorter⟩) : ∃ t, ts = t :: rest ∧ use t = some b := by
  cases ts with
  | nil => cases h
  | cons t us =>
    simp only [take?, Option.map_eq_some_iff] at h
    obtain ⟨c, used, same⟩ := h
    cases same
    exact ⟨t, rfl, used⟩

theorem ofKind_eq_some {u : Token} : ofKind k t = some u ↔ t.kind = k ∧ u = t := by
  unfold ofKind
  split
  next same => simp [same, eq_comm]
  next other => simp [other]

theorem takeKind?_cons (h : t.kind = k) :
    takeKind? k (t :: ts) = some ⟨t, ts, Nat.lt_succ_self _⟩ :=
  take?_cons (ofKind_eq_some.mpr ⟨h, rfl⟩)

/-- A token is taken unless the tokens start otherwise. -/
theorem takeKind?_eq_none : takeKind? k ts = none ↔ startsWith k ts = false := by
  constructor
  · intro none_
    cases ts with
    | nil => rfl
    | cons t us =>
      refine decide_eq_false fun is_kind => ?_
      rw [takeKind?_cons is_kind] at none_
      cases none_
  · intro other
    refine take?_eq_none.mpr ?_
    rintro t us rfl
    simp only [startsWith, List.head?_cons, Option.any_some, decide_eq_false_iff_not] at other
    exact if_neg other

theorem startsWith_cons (h : t.kind = k) : startsWith k (t :: ts) = true := decide_eq_true h

/-- Tokens whose first one is of another kind. -/
theorem not_startsWith_cons {other : Kind} (h : t.kind = other) (differs : other ≠ k) :
    startsWith k (t :: ts) = false :=
  decide_eq_false (h ▸ differs)

/-- A token of another kind is not taken. -/
theorem takeKind?_other {other : Kind} (h : t.kind = other) (differs : other ≠ k) :
    takeKind? k (t :: ts) = none :=
  takeKind?_eq_none.mpr (not_startsWith_cons h differs)

theorem eq_cons_of_takeKind? {shorter : rest.length < ts.length}
    (h : takeKind? k ts = some ⟨t, rest, shorter⟩) : ts = t :: rest ∧ t.kind = k := by
  obtain ⟨u, same, used⟩ := eq_cons_of_take? h
  obtain ⟨is_kind, rfl⟩ := ofKind_eq_some.mp used
  exact ⟨same, is_kind⟩

/-- A token that is expected is the first one. -/
theorem yields_expectUse : Yields (expectUse use e ts) b rest ↔
    ∃ t, ts = t :: rest ∧ use t = some b := by
  unfold expectUse
  constructor
  · intro h
    split at h
    next p taken =>
      obtain ⟨rfl, rfl⟩ := eq_of_yields_ok h
      exact eq_cons_of_take? taken
    next => exact absurd h not_yields_error
  · rintro ⟨t, rfl, used⟩
    rw [take?_cons used]
    exact yields_ok _

theorem yields_expect : Yields (expect k e ts) t rest ↔ ts = t :: rest ∧ t.kind = k := by
  unfold expect
  rw [yields_expectUse]
  constructor
  · rintro ⟨u, same, used⟩
    obtain ⟨is_kind, rfl⟩ := ofKind_eq_some.mp used
    exact ⟨same, is_kind⟩
  · rintro ⟨same, is_kind⟩
    exact ⟨t, same, ofKind_eq_some.mpr ⟨is_kind, rfl⟩⟩

/-- Of a semicolon only the span is kept. -/
theorem yields_semicolon {s : Span} : Yields (semicolon e ts) s rest ↔
    ∃ t, ts = t :: rest ∧ t.kind = .symbol .semicolon ∧ s = t.span := by
  unfold semicolon
  constructor
  · intro h
    obtain ⟨t, us, _, first, h⟩ := of_yields_bind h
    obtain ⟨same, is_kind⟩ := yields_expect.mp first
    obtain ⟨rfl, rfl⟩ := eq_of_yields_ok h
    exact ⟨t, same, is_kind, rfl⟩
  · rintro ⟨t, same, is_kind, rfl⟩
    exact (yields_expect.mpr ⟨same, is_kind⟩).bind fun shorter => yields_ok shorter

end

/-! ## Tables -/

/-- The operators that assign are written as their symbols. -/
theorem assignOp?_eq_some {k : Kind} {op : AssignOp} :
    assignOp? k = some op ↔ k = .symbol op.symbol := by
  constructor
  · intro h
    unfold assignOp? at h
    split at h <;> cases h <;> rfl
  · rintro rfl
    cases op <;> rfl

theorem binaryOp?_eq_some {k : Kind} {op : BinaryOp} :
    binaryOp? k = some op ↔ k = .symbol op.symbol := by
  constructor
  · intro h
    unfold binaryOp? at h
    split at h <;> cases h <;> rfl
  · rintro rfl
    cases op <;> rfl

theorem stepOp?_eq_some {k : Kind} {op : StepOp} :
    stepOp? k = some op ↔ k = .symbol op.symbol := by
  constructor
  · intro h
    unfold stepOp? at h
    split at h <;> cases h <;> rfl
  · rintro rfl
    cases op <;> rfl

theorem unaryOp?_eq_some {k : Kind} {op : UnaryOp} :
    unaryOp? k = some op ↔ k = .symbol op.symbol := by
  constructor
  · intro h
    unfold unaryOp? at h
    split at h <;> cases h <;> rfl
  · rintro rfl
    cases op with
    | negate | not => rfl
    | step op => cases op <;> rfl

theorem typeName?_eq_some {k : Kind} {type : TypeName} :
    typeName? k = some type ↔ k = .word type.word := by
  constructor
  · intro h
    unfold typeName? at h
    split at h <;> cases h <;> rfl
  · rintro rfl
    cases type <;> rfl

theorem declareWord?_eq_some {k : Kind} {word : DeclareWord} :
    declareWord? k = some word ↔ k = .word word.word := by
  constructor
  · intro h
    unfold declareWord? at h
    split at h <;> cases h <;> rfl
  · rintro rfl
    cases word <;> rfl

/-- Looseness counts the levels of the operators alone, and three others are tighter. -/
theorem looseness_eq {op : BinaryOp} {n : Nat} : looseness op = n ↔ op.level = n + 3 := by
  cases op <;> simp only [looseness, BinaryOp.level] <;> omega

/-- A key is a name or a string with its closing quote. -/
theorem propertyName?_eq_some {t : Token} {name : String} :
    propertyName? t = some name ↔ Keyed name t := by
  constructor
  · intro h
    unfold propertyName? at h
    split at h
    next is_kind =>
      cases h
      exact .identifier is_kind
    next is_kind =>
      split at h
      next => cases h
      next terminated =>
        cases h
        exact .string is_kind (Bool.eq_false_iff.mpr terminated)
    next => cases h
  · intro h
    cases h with
    | identifier is_kind => simp only [propertyName?, is_kind]
    | string is_kind terminated => simp [propertyName?, is_kind, terminated]

/-! ## Annotations, names and parameters -/

/-- What is read as an annotation spells it. -/
theorem of_yields_annotated {type : Option TypeName} {ts rest : List Token}
    (h : Yields (annotated ts) type rest) : ∃ pre, ts = pre ++ rest ∧ Annotated type pre := by
  unfold annotated at h
  split at h
  next =>
    obtain ⟨rfl, rfl⟩ := eq_of_yields_ok h
    exact ⟨[], rfl, .missing⟩
  next colon ts₁ _ taken =>
    obtain ⟨rfl, is_colon⟩ := eq_cons_of_takeKind? taken
    obtain ⟨type, ts₂, _, first, h⟩ := of_yields_bind h
    obtain ⟨t, rfl, named⟩ := yields_expectUse.mp first
    obtain ⟨rfl, rfl⟩ := eq_of_yields_ok h
    exact ⟨[colon, t], rfl, .given is_colon (typeName?_eq_some.mp named)⟩

/-- An annotation is read where no colon follows a missing one. -/
theorem yields_annotated {type : Option TypeName} {ts rest : List Token}
    (spelled : Annotated type ts) (free : startsWith (.symbol .colon) rest = false) :
    Yields (annotated (ts ++ rest)) type rest := by
  unfold annotated
  cases spelled with
  | missing =>
    rw [List.nil_append, takeKind?_eq_none.mpr free]
    exact yields_ok _
  | given is_colon is_type =>
    rw [List.cons_append, takeKind?_cons is_colon]
    refine Yields.bind (yields_expectUse.mpr ⟨_, rfl, typeName?_eq_some.mpr is_type⟩) ?_
    exact fun _ => yields_ok _

theorem of_functionName {ts rest : List Token} {name : Option String}
    {shorter : rest.length < ts.length + 1} (h : functionName ts = ⟨name, rest, shorter⟩) :
    ∃ pre, ts = pre ++ rest ∧ Named name pre := by
  unfold functionName at h
  split at h
  next =>
    cases h
    exact ⟨[], rfl, .missing⟩
  next t _ _ taken =>
    cases h
    obtain ⟨rfl, is_name⟩ := eq_cons_of_takeKind? taken
    exact ⟨[t], rfl, .given is_name⟩

/-- A name is read where no other name follows a missing one. -/
theorem functionName_append {ts rest : List Token} {name : Option String} (named : Named name ts)
    (free : startsWith .identifier rest = false) :
    ∃ shorter, functionName (ts ++ rest) = ⟨name, rest, shorter⟩ := by
  unfold functionName
  cases named with
  | missing =>
    rw [List.nil_append, takeKind?_eq_none.mpr free]
    exact ⟨_, rfl⟩
  | given is_name =>
    rw [List.cons_append, takeKind?_cons is_name]
    exact ⟨_, rfl⟩

/-- What is read as parameters spells them, and there is at least one. -/
theorem of_yields_params {ps : List Param} {ts rest : List Token} (h : Yields (params ts) ps rest) :
    ∃ pre, ts = pre ++ rest ∧ ParamsSpelled ps pre ∧ ps ≠ [] := by
  rw [params] at h
  obtain ⟨name, ts₁, _, first, h⟩ := of_yields_bind h
  obtain ⟨rfl, is_name⟩ := yields_expect.mp first
  obtain ⟨type, ts₂, _, second, h⟩ := of_yields_bind h
  obtain ⟨us, rfl, annotated⟩ := of_yields_annotated second
  have spelled : Param.Spelled ⟨name.lexeme, type, name.span⟩ (name :: us) := .mk is_name annotated
  dsimp only at h
  split at h
  next =>
    obtain ⟨rfl, rfl⟩ := eq_of_yields_ok h
    exact ⟨name :: us, rfl, .one spelled, List.cons_ne_nil _ _⟩
  next comma ts₃ _ taken =>
    obtain ⟨rfl, is_comma⟩ := eq_cons_of_takeKind? taken
    obtain ⟨others, ts₄, _, third, h⟩ := of_yields_bind h
    obtain ⟨vs, rfl, others_spelled, some_⟩ := of_yields_params third
    obtain ⟨rfl, rfl⟩ := eq_of_yields_ok h
    refine ⟨name :: us ++ comma :: vs, ?_, ?_, List.cons_ne_nil _ _⟩
    · simp only [List.cons_append, List.append_assoc]
    · exact .cons spelled is_comma others_spelled some_
termination_by ts.length

theorem ParamsSpelled.head {ps : List Param} {ts : List Token} (spelled : ParamsSpelled ps ts)
    (some_ : ps ≠ []) : ∃ t us, ts = t :: us ∧ t.kind = .identifier := by
  cases spelled with
  | nil => exact absurd rfl some_
  | one one_ | cons one_ =>
    cases one_ with
    | mk is_name => exact ⟨_, _, rfl, is_name⟩

/-- Parameters are read up to the closing parenthesis. -/
theorem yields_params {ps : List Param} {ts : List Token} (spelled : ParamsSpelled ps ts)
    (some_ : ps ≠ []) {close : Token} (is_close : close.kind = .symbol .rightParen)
    (rest : List Token) : Yields (params (ts ++ close :: rest)) ps (close :: rest) := by
  induction spelled with
  | nil => exact absurd rfl some_
  | @one p ts one_ =>
    cases one_ with
    | @mk name type us is_name annotated =>
      rw [List.cons_append, params]
      refine Yields.bind (yields_expect.mpr ⟨rfl, is_name⟩) fun _ => ?_
      have free : startsWith (.symbol .colon) (close :: rest) = false :=
        not_startsWith_cons is_close nofun
      refine Yields.bind (yields_annotated annotated free) fun _ => ?_
      have no_comma : startsWith (.symbol .comma) (close :: rest) = false :=
        not_startsWith_cons is_close nofun
      simp only [takeKind?_eq_none.mpr no_comma]
      exact yields_ok _
  | @cons p ps ts us comma one_ is_comma _ others_some ih =>
    cases one_ with
    | @mk name type vs is_name annotated =>
      rw [List.append_assoc, List.cons_append, List.cons_append, params]
      refine Yields.bind (yields_expect.mpr ⟨rfl, is_name⟩) fun _ => ?_
      have free : startsWith (.symbol .colon) (comma :: (us ++ close :: rest)) = false :=
        not_startsWith_cons is_comma nofun
      refine Yields.bind (yields_annotated annotated free) fun _ => ?_
      simp only [takeKind?_cons is_comma]
      exact (ih others_some).bind fun _ => yields_ok _

theorem of_yields_paramsUpTo {ps : List Param} {ts rest : List Token}
    (h : Yields (paramsUpTo ts) ps rest) : ∃ pre, ts = pre ++ rest ∧ ParamsSpelled ps pre := by
  unfold paramsUpTo at h
  split at h
  next =>
    obtain ⟨rfl, rfl⟩ := eq_of_yields_ok h
    exact ⟨[], rfl, .nil⟩
  next =>
    obtain ⟨qs, ts₁, _, first, h⟩ := of_yields_bind h
    obtain ⟨rfl, rfl⟩ := eq_of_yields_ok h
    obtain ⟨pre, same, spelled, -⟩ := of_yields_params first
    exact ⟨pre, same, spelled⟩

theorem yields_paramsUpTo {ps : List Param} {ts : List Token} (spelled : ParamsSpelled ps ts)
    {close : Token} (is_close : close.kind = .symbol .rightParen) (rest : List Token) :
    Yields (paramsUpTo (ts ++ close :: rest)) ps (close :: rest) := by
  unfold paramsUpTo
  by_cases none_ : ps = []
  · subst none_
    cases spelled
    rw [List.nil_append, if_pos (startsWith_cons is_close)]
    exact yields_ok _
  · obtain ⟨t, us, rfl, is_name⟩ := ParamsSpelled.head spelled none_
    have open_ : startsWith (.symbol .rightParen) (t :: us ++ close :: rest) = false :=
      not_startsWith_cons is_name nofun
    rw [if_neg (Bool.eq_false_iff.mp open_)]
    exact (yields_params spelled none_ is_close rest).bind fun _ => yields_ok _

end Scriptlet.Parser
