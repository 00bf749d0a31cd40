import Scriptlet.Proofs.Tree.Grammar

/-!
# What was read can be completed

A parser that meets a token it does not expect has read the beginning of something it could
have read to the end (`Viable`).  Each parser takes one part after another.  If it is stopped
in a part, the part can be completed, and the parts after it are made up.

The lemmas follow the ranks of the parsers, and take the entry points of the recursion for
granted on fewer tokens (`ViableBelow`).  That a part was read to the end is known from the
soundness of the parsers (`Parses`).
-/

namespace Scriptlet.Parser

open Glyph (kind_symbol kind_word kind_identifier)

/-! ## Beginnings -/

/-- If a parser stops at a token it does not expect, the tokens before it go on to some that
are as they should be. -/
inductive Viable {α : Type} {n : Nat} (P : List Token → Prop) (ts : List Token) :
    ParseResult α n → Prop
  | ok {p : Parsed α n} : Viable P ts (.ok p)
  | refused {read rest more : List Token} {e : Expectation} :
    ts = read ++ rest → P (read ++ more) → Viable P ts (.error ⟨rest, .unexpected e⟩)
  | other {r : Refusal} : (∀ e, r.cause ≠ .unexpected e) → Viable P ts (.error r)

/-- A parser reads tokens that are as they should be, or the beginning of such tokens. -/
structure Parses {α : Type} {n : Nat} (P : List Token → Prop) (ts : List Token)
    (r : ParseResult α n) : Prop where
  sound : ∀ {a rest}, Yields r a rest → ∃ read, ts = read ++ rest ∧ P read
  viable : Viable P ts r

section

variable {α β : Type} {n k : Nat} {P Q : List Token → Prop} {ts us : List Token}

/-- A part can be completed, and with it the whole. -/
theorem Viable.extend {r : ParseResult α n} (h : Viable Q ts r)
    (more : ∀ {us}, Q us → ∃ vs, P (us ++ vs)) : Viable P ts r := by
  cases h with
  | ok => exact .ok
  | refused same part =>
    obtain ⟨vs, whole⟩ := more part
    rw [List.append_assoc] at whole
    exact .refused same whole
  | other cause => exact .other cause

/-- The beginning of something is the beginning of anything it is. -/
theorem Viable.imp {r : ParseResult α n} (h : Viable Q ts r) (imp : ∀ {us}, Q us → P us) :
    Viable P ts r :=
  h.extend fun {us} part => ⟨[], (List.append_nil us).symm ▸ imp part⟩

/-- What comes after tokens that were read. -/
theorem Viable.after {r : ParseResult α n} {read : List Token}
    (h : Viable (fun us => P (read ++ us)) us r) : Viable P (read ++ us) r := by
  cases h with
  | ok => exact .ok
  | @refused read' rest more e same whole =>
    have longer : read ++ us = (read ++ read') ++ rest := by rw [same, List.append_assoc]
    rw [← List.append_assoc] at whole
    exact .refused longer whole
  | other cause => exact .other cause

/-- What comes after one token. -/
theorem Viable.tail {r : ParseResult α n} {t : Token} (h : Viable (fun us => P (t :: us)) us r) :
    Viable P (t :: us) r := by
  show Viable P ([t] ++ us) r
  exact .after h

/-- If the first parser is stopped, nothing else has been read. -/
theorem Viable.bind {r : ParseResult α n} {f : Parsed α n → ParseResult β k}
    (first : Viable P ts r)
    (second : ∀ {a us shorter}, Yields r a us → Viable P ts (f ⟨a, us, shorter⟩)) :
    Viable P ts (r >>= f) := by
  cases first with
  | @ok p => exact second (yields_ok p.shorter)
  | refused same whole => exact .refused same whole
  | other cause => exact .other cause

/-- A part, and what comes after it. -/
theorem Parses.next {r : ParseResult α n} {f : Parsed α n → ParseResult β k} (first : Parses Q ts r)
    (more : ∀ {us}, Q us → ∃ vs, P (us ++ vs))
    (second : ∀ {a read us shorter}, Q read →
      Viable (fun vs => P (read ++ vs)) us (f ⟨a, us, shorter⟩)) : Viable P ts (r >>= f) := by
  refine (first.viable.extend more).bind fun {a us shorter} yields => ?_
  obtain ⟨read, rfl, part⟩ := first.sound yields
  exact (second part).after

/-- A part that may be the last one, and what comes after it. -/
theorem Parses.bind {r : ParseResult α n} {f : Parsed α n → ParseResult β k} (first : Parses Q ts r)
    (whole : ∀ {us}, Q us → P us)
    (second : ∀ {a read us shorter}, Q read →
      Viable (fun vs => P (read ++ vs)) us (f ⟨a, us, shorter⟩)) : Viable P ts (r >>= f) :=
  first.next (fun {us} part => ⟨[], (List.append_nil us).symm ▸ whole part⟩) second

/-! ## Single tokens -/

/-- Nothing has been read, and there is something that could be. -/
theorem viable_refuse {e : Expectation} (more : ∃ us, P us) :
    Viable P ts (refuse ts (.unexpected e) : ParseResult α n) := by
  obtain ⟨us, whole⟩ := more
  exact .refused (List.nil_append ts).symm whole

theorem viable_expectUse {use : Token → Option α} {e : Expectation} (more : ∃ us, P us) :
    Viable P ts (expectUse use e ts) := by
  unfold expectUse
  split
  next => exact .ok
  next => exact viable_refuse more

/-- A token that is expected is taken, and then it stands in front of the rest. -/
theorem Viable.expect {s : Kind} {e : Expectation} {f : Parsed Token ts.length → ParseResult β k}
    (more : ∃ us, P us)
    (next : ∀ {t us shorter}, t.kind = s → Viable (fun vs => P (t :: vs)) us (f ⟨t, us, shorter⟩)) :
    Viable P ts (expect s e ts >>= f) := by
  refine .bind (viable_expectUse more) fun {t us shorter} yields => ?_
  obtain ⟨rfl, is_kind⟩ := yields_expect.mp yields
  exact (next is_kind).tail

theorem viable_semicolon {e : Expectation} (more : ∃ us, P us) :
    Viable P ts (semicolon e ts) :=
  .bind (viable_expectUse more) fun _ => .ok

end

/-! ## Parts without expressions -/

theorem viable_annotated (ts : List Token) : Viable IsAnnotation ts (annotated ts) := by
  unfold annotated
  split
  next => exact .ok
  next colon ts₁ _ taken =>
    obtain ⟨rfl, is_colon⟩ := eq_cons_of_takeKind? taken
    refine .tail (.bind (viable_expectUse ?_) fun _ => .ok)
    exact ⟨[(Glyph.word .anyType).token], some .any, .given is_colon (kind_word .anyType)⟩

theorem parses_annotated (ts : List Token) : Parses IsAnnotation ts (annotated ts) where
  sound h :=
    have ⟨read, same, spelled⟩ := of_yields_annotated h
    ⟨read, same, _, spelled⟩
  viable := viable_annotated ts

/-- A parameter that is broken off becomes one without a type. -/
theorem viable_params (ts : List Token) : Viable AreSomeParams ts (params ts) := by
  rw [params]
  refine .expect ⟨_, areSomeParams_one (kind_identifier "a") isAnnotation_missing⟩ ?_
  intro name us shorter is_name
  refine (parses_annotated us).bind (fun type => areSomeParams_one is_name type) ?_
  intro type read vs shorter₂ annotated
  dsimp only
  split
  next => exact .ok
  next comma ws _ taken =>
    obtain ⟨rfl, is_comma⟩ := eq_cons_of_takeKind? taken
    have others := (viable_params ws).imp fun ps => areSomeParams_cons is_name annotated is_comma ps
    exact .tail (.bind others fun _ => .ok)
termination_by ts.length

theorem parses_paramsUpTo (ts : List Token) : Parses AreParams ts (paramsUpTo ts) where
  sound h :=
    have ⟨read, same, spelled⟩ := of_yields_paramsUpTo h
    ⟨read, same, _, spelled⟩
  viable := by
    unfold paramsUpTo
    split
    next => exact .ok
    next => exact .bind ((viable_params ts).imp AreSomeParams.params) fun _ => .ok

/-! ## Lists of expressions -/

/-- Expressions, statements and declarations can be completed where fewer tokens are left. -/
structure ViableBelow (n : Nat) : Prop where
  expression : ∀ {ts : List Token}, ts.length < n → Viable (IsExpr 11) ts (expression ts)
  statement : ∀ {ts : List Token}, ts.length < n → Viable IsPlain ts (statement ts)
  declaration : ∀ {ts : List Token}, ts.length < n → Viable IsStatement ts (declaration ts)

variable {n : Nat} (ih : ViableBelow n) {ts : List Token}

include ih

/-- Expressions on fewer tokens are read, or begun. -/
theorem ViableBelow.parsesExpression (short : ts.length < n) :
    Parses (IsExpr 11) ts (Parser.expression ts) where
  sound h :=
    have ⟨read, same, fits⟩ := (soundBelow n).expression short h
    ⟨read, same, _, fits⟩
  viable := ih.expression short

theorem ViableBelow.parsesDeclaration (short : ts.length < n) :
    Parses IsStatement ts (Parser.declaration ts) where
  sound h :=
    have ⟨read, same, fits⟩ := (soundBelow n).declaration short h
    ⟨read, same, _, fits⟩
  viable := ih.declaration short

/-- A list of arguments that is broken off ends with `null`. -/
theorem viable_someArguments {ts : List Token} (short : ts.length < n) :
    Viable AreArguments ts (someArguments ts) := by
  rw [someArguments]
  refine (ih.parsesExpression short).bind areArguments_one ?_
  intro e read us shorter first
  dsimp only
  split
  next => exact .ok
  next comma vs _ taken =>
    obtain ⟨rfl, is_comma⟩ := eq_cons_of_takeKind? taken
    have others : Viable AreArguments vs _ := viable_someArguments (by omega)
    exact .tail (.bind (others.imp fun es => areArguments_cons first is_comma es) fun _ => .ok)
termination_by ts.length

theorem parses_arguments (short : ts.length < n) :
    Parses (AreItems false) ts (arguments ts) where
  sound h :=
    have ⟨read, same, spelled, shaped⟩ := of_yields_arguments (soundBelow n) short h
    ⟨read, same, _, spelled, shaped⟩
  viable := by
    rw [arguments]
    split
    next => exact .ok
    next => exact .bind ((viable_someArguments ih short).imp AreArguments.items) fun _ => .ok

/-- A list of elements that is broken off ends with `null`. -/
theorem viable_elements {ts : List Token} (short : ts.length < n) :
    Viable (AreItems true) ts (elements ts) := by
  rw [elements]
  split
  next => exact .ok
  next =>
    refine (ih.parsesExpression short).bind areItems_one ?_
    intro e read us shorter first
    dsimp only
    split
    next => exact .ok
    next comma vs _ taken =>
      obtain ⟨rfl, is_comma⟩ := eq_cons_of_takeKind? taken
      have others : Viable (AreItems true) vs _ := viable_elements (by omega)
      exact .tail (.bind (others.imp fun es => areItems_cons first is_comma es) fun _ => .ok)
termination_by ts.length

theorem parses_elements (short : ts.length < n) :
    Parses (AreItems true) ts (elements ts) where
  sound h :=
    have ⟨read, same, spelled, shaped⟩ := of_yields_elements (soundBelow n) short h
    ⟨read, same, _, spelled, shaped⟩
  viable := viable_elements ih short

/-- A list of properties that is broken off ends with a property whose value is `null`. -/
theorem viable_properties {ts : List Token} (short : ts.length < n) :
    Viable AreProperties ts (properties ts) := by
  rw [properties]
  split
  next => exact .ok
  next =>
    have name := Keyed.identifier (kind_identifier "a")
    refine .bind (viable_expectUse ⟨_, areProperties_one name (kind_symbol _) (isExpr_null 11)⟩) ?_
    intro name us shorter taken
    obtain ⟨key, rfl, named⟩ := yields_expectUse.mp taken
    have keyed := propertyName?_eq_some.mp named
    refine .tail (.expect ⟨_, areProperties_one keyed (kind_symbol _) (isExpr_null 11)⟩ ?_)
    intro colon us₂ shorter₂ is_colon
    refine (ih.parsesExpression (by omega)).bind (areProperties_one keyed is_colon) ?_
    intro e read us₃ shorter₃ value
    dsimp only
    split
    next => exact .ok
    next comma us₄ _ taken =>
      obtain ⟨rfl, is_comma⟩ := eq_cons_of_takeKind? taken
      have others : Viable AreProperties us₄ _ := viable_properties (by omega)
      refine .tail (.bind (others.imp fun ps => ?_) fun _ => .ok)
      exact areProperties_cons keyed is_colon value is_comma ps
termination_by ts.length

theorem parses_properties (short : ts.length < n) :
    Parses AreProperties ts (properties ts) where
  sound h :=
    have ⟨read, same, spelled, shaped⟩ := of_yields_properties (soundBelow n) short h
    ⟨read, same, _, spelled, shaped⟩
  viable := viable_properties ih short

/-! ## Functions -/

/-- Statements that were read are followed by one that is completed. -/
theorem viable_blockBody {ts : List Token} (short : ts.length < n) :
    Viable AreStatements ts (blockBody ts) := by
  rw [blockBody]
  split
  next => exact .ok
  next =>
    refine (ih.parsesDeclaration short).next (fun s => ?_) fun {s read us shorter} first => ?_
    · exact ⟨_, areStatements_cons s areStatements_nil⟩
    have others : Viable AreStatements us _ := viable_blockBody (by omega)
    exact .bind (others.imp fun ss => areStatements_cons first ss) fun _ => .ok
termination_by ts.length

theorem parses_blockBody (short : ts.length < n) : Parses AreStatements ts (blockBody ts) where
  sound h :=
    have ⟨read, same, spelled, shaped⟩ := of_yields_blockBody (soundBelow n) short h
    ⟨read, same, _, spelled, shaped⟩
  viable := viable_blockBody ih short

theorem parses_block (short : ts.length ≤ n) : Parses IsBlock ts (block ts) where
  sound h := by
    obtain ⟨left, us, right, rfl, is_left, spelled, is_right, -, shaped⟩ :=
      of_yields_block (soundBelow n) short h
    exact ⟨left :: us ++ [right], by simp, isBlock is_left ⟨_, spelled, shaped⟩ is_right⟩
  viable := by
    rw [block]
    refine .expect ⟨_, isBlock_empty⟩ fun {left us shorter} is_left => ?_
    refine (parses_blockBody ih (by omega)).next (fun ss => ?_) fun {ss read us₂ _} body => ?_
    · exact ⟨_, isBlock is_left ss (kind_symbol _)⟩
    exact .expect ⟨_, isBlock is_left body (kind_symbol _)⟩ fun _ => .ok

/-- What is missing of a function is made up: no parameters, no type, an empty body. -/
theorem viable_functionRest (short : ts.length ≤ n) (start : Span) :
    Viable (IsFunction start) ts (functionRest start ts) := by
  rw [functionRest]
  split
  next name ts₁ shorter₁ same =>
    obtain ⟨ns, rfl, named⟩ := of_functionName same
    have name : IsName ns := ⟨_, named⟩
    refine .after (.expect ?_ fun {opening us₂ shorter₂} is_open => ?_)
    · exact ⟨_, isFunction name (kind_symbol _) areParams_nil (kind_symbol _) isAnnotation_missing
        isBlock_empty⟩
    refine (parses_paramsUpTo us₂).next (fun ps => ?_) fun {_ ps us₃ shorter₃} params => ?_
    · exact ⟨_, isFunction name is_open ps (kind_symbol _) isAnnotation_missing isBlock_empty⟩
    refine .expect ?_ fun {close us₄ shorter₄} is_close => ?_
    · exact ⟨_, isFunction name is_open params (kind_symbol _) isAnnotation_missing isBlock_empty⟩
    refine (parses_annotated us₄).next (fun type => ?_) fun {_ rs us₅ shorter₅} returns => ?_
    · exact ⟨_, isFunction name is_open params is_close type isBlock_empty⟩
    have fewer : us₅.length ≤ n := by
      simp only [List.length_append] at short
      omega
    refine .bind ((parses_block ih fewer).viable.imp fun body => ?_) fun _ => .ok
    exact isFunction name is_open params is_close returns body

/-! ## Expressions -/

theorem viable_primary (short : ts.length ≤ n) : Viable (IsExpr 0) ts (primary ts) := by
  rw [primary]
  split
  next => exact viable_refuse ⟨_, isExpr_null 0⟩
  next t ts₁ shorter₁ taken =>
    obtain ⟨_, rfl, same⟩ := eq_cons_of_take? taken
    cases same
    split
    next => exact .ok
    next =>
      split
      next => exact .other fun _ same => by cases same
      next is_open =>
        refine .tail ((ih.parsesExpression (by omega)).next (fun e => ?_) ?_)
        · exact ⟨_, isExpr_group is_open e (kind_symbol _)⟩
        intro _ read us _ inner
        exact .expect ⟨_, isExpr_group is_open inner (kind_symbol _)⟩ fun _ => .ok
      next is_open =>
        refine .tail ((parses_elements ih (by omega)).next (fun es => ?_) ?_)
        · exact ⟨_, isExpr_array is_open es (kind_symbol _)⟩
        intro _ read us _ items
        exact .expect ⟨_, isExpr_array is_open items (kind_symbol _)⟩ fun _ => .ok
      next is_open =>
        refine .tail ((parses_properties ih (by omega)).next (fun ps => ?_) ?_)
        · exact ⟨_, isExpr_object is_open ps (kind_symbol _)⟩
        intro _ read us _ properties
        exact .expect ⟨_, isExpr_object is_open properties (kind_symbol _)⟩ fun _ => .ok
      next is_word =>
        have rest := viable_functionRest ih (Nat.le_trans (Nat.le_of_lt shorter₁) short) t.span
        exact .tail (.bind (rest.imp (isExpr_function is_word)) fun _ => .ok)
      next => exact viable_refuse ⟨_, isExpr_null 0⟩

theorem parses_primary (short : ts.length ≤ n) : Parses (IsExpr 0) ts (primary ts) where
  sound h :=
    have ⟨read, same, fits⟩ := of_yields_primary (soundBelow n) short h
    ⟨read, same, _, fits⟩
  viable := viable_primary ih short

/-- What was read in front is kept, and an index or a call that is broken off is closed. -/
theorem viable_accesses {ts us : List Token} (short : ts.length ≤ n) (base : IsExpr 1 us)
    (e : Expr) : Viable (fun vs => IsExpr 1 (us ++ vs)) ts (accesses e ts) := by
  rw [accesses]
  split
  next ts₁ shorter₁ taken =>
    obtain ⟨opening, rfl, is_open⟩ := eq_cons_of_take? taken
    have is_open := Option.some.inj is_open
    refine .tail ((parses_arguments ih (by omega)).next (fun es => ?_) ?_)
    · exact ⟨_, isExpr_call base is_open es (kind_symbol _)⟩
    intro args read ts₂ _ items
    refine .expect ⟨_, isExpr_call base is_open items (kind_symbol _)⟩ ?_
    intro close ts₃ shorter₃ is_close
    have longer := isExpr_call base is_open items is_close
    have others : Viable _ ts₃ _ :=
      viable_accesses (by omega) longer (.call e args (e.span.merge close.span))
    exact .bind (others.imp fun whole => by simpa using whole) fun _ => .ok
  next ts₁ shorter₁ taken =>
    obtain ⟨dot, rfl, is_dot⟩ := eq_cons_of_take? taken
    have is_dot := Option.some.inj is_dot
    refine .tail (.expect ⟨_, isExpr_member base is_dot (kind_identifier "a")⟩ ?_)
    intro name ts₂ shorter₂ is_name
    have longer := isExpr_member base is_dot is_name
    have others : Viable _ ts₂ _ :=
      viable_accesses (by omega) longer (.member e name.lexeme (e.span.merge name.span))
    exact .bind (others.imp fun whole => by simpa using whole) fun _ => .ok
  next ts₁ shorter₁ taken =>
    obtain ⟨opening, rfl, is_open⟩ := eq_cons_of_take? taken
    have is_open := Option.some.inj is_open
    refine .tail ((ih.parsesExpression (by omega)).next (fun key => ?_) ?_)
    · exact ⟨_, isExpr_index base is_open key (kind_symbol _)⟩
    intro key read ts₂ _ inner
    refine .expect ⟨_, isExpr_index base is_open inner (kind_symbol _)⟩ ?_
    intro close ts₃ shorter₃ is_close
    have longer := isExpr_index base is_open inner is_close
    have others : Viable _ ts₃ _ :=
      viable_accesses (by omega) longer (.index e key (e.span.merge close.span))
    exact .bind (others.imp fun whole => by simpa using whole) fun _ => .ok
  next => exact .ok
termination_by ts.length

theorem parses_call (short : ts.length ≤ n) : Parses (IsExpr 1) ts (call ts) where
  sound h :=
    have ⟨read, same, fits⟩ := of_yields_call (soundBelow n) short h
    ⟨read, same, _, fits⟩
  viable := by
    rw [call]
    refine (parses_primary ih short).bind (fun e => e.mono (Nat.zero_le 1)) ?_
    intro e read us _ base
    exact .bind (viable_accesses ih (by omega) (base.mono (Nat.zero_le 1)) e) fun _ => .ok

theorem viable_unary {ts : List Token} (short : ts.length ≤ n) :
    Viable (IsExpr 3) ts (unary ts) := by
  rw [unary]
  split
  next =>
    have base := (parses_call ih short).viable
    exact .bind (base.imp fun e => e.mono (by omega)) fun _ => .ok
  next op s ts₁ shorter₁ taken =>
    obtain ⟨t, rfl, used⟩ := eq_cons_of_take? taken
    obtain ⟨_, is_op, same⟩ := Option.map_eq_some_iff.mp used
    cases same
    have operand : Viable (IsExpr 3) ts₁ _ := viable_unary (by omega)
    exact .tail (.bind (operand.imp (isExpr_unary (unaryOp?_eq_some.mp is_op))) fun _ => .ok)
termination_by ts.length

omit ih in
/-- An operator without its right operand gets `null`. -/
theorem viable_operations {k : Nat}
    (operand : ∀ {ts : List Token}, ts.length ≤ n → Parses (IsExpr (k + 3)) ts (binary k ts))
    {ts us : List Token} (short : ts.length ≤ n) (base : IsExpr (k + 4) us) (left : Expr) :
    Viable (fun vs => IsExpr (k + 4) (us ++ vs)) ts (operations k left ts) := by
  rw [operations]
  split
  next => exact .ok
  next op ts₁ shorter₁ taken =>
    obtain ⟨t, rfl, used⟩ := eq_cons_of_take? taken
    obtain ⟨is_op, loose⟩ := Option.filter_eq_some_iff.mp used
    have level : op.level = k + 4 := looseness_eq.mp (of_decide_eq_true loose)
    have is_op := binaryOp?_eq_some.mp is_op
    refine .tail ((operand (by omega)).bind (isExpr_binary level base is_op) ?_)
    intro right read ts₂ _ second
    have longer := isExpr_binary level base is_op second
    have others : Viable _ ts₂ _ :=
      viable_operations operand (by omega) longer
        (.binary op left right (left.span.merge right.span))
    exact .bind (others.imp fun whole => by simpa using whole) fun _ => .ok
termination_by ts.length

/-- By the level: the operand first, then the operators behind it. -/
theorem parses_binary (k : Nat) (short : ts.length ≤ n) :
    Parses (IsExpr (k + 3)) ts (binary k ts) where
  sound h :=
    have ⟨read, same, fits⟩ := of_yields_binary (soundBelow n) k short h
    ⟨read, same, _, fits⟩
  viable := by
    induction k generalizing ts with
    | zero =>
      rw [binary]
      exact viable_unary ih short
    | succ k operand =>
      have operands {ts : List Token} (short : ts.length ≤ n) :
          Parses (IsExpr (k + 3)) ts (binary k ts) := by
        refine ⟨fun h => ?_, operand short⟩
        obtain ⟨read, same, fits⟩ := of_yields_binary (soundBelow n) k short h
        exact ⟨read, same, _, fits⟩
      rw [binary]
      refine (operands short).bind (fun e => e.mono (Nat.le_succ _)) ?_
      intro left read us _ first
      have base := first.mono (Nat.le_succ (k + 3))
      exact .bind (viable_operations operands (by omega) base left) fun _ => .ok

theorem viable_conditional (short : ts.length ≤ n) :
    Viable (IsExpr 10) ts (conditional ts) := by
  rw [conditional]
  refine (parses_binary ih 6 short).bind (fun e => e.mono (Nat.le_succ 9)) ?_
  intro c read us shorter condition
  dsimp only
  split
  next => exact .ok
  next question us₂ shorter₂ taken =>
    obtain ⟨rfl, is_question⟩ := eq_cons_of_takeKind? taken
    have null := isExpr_null 11
    refine .tail ((ih.parsesExpression (by omega)).next (fun a => ?_) ?_)
    · exact ⟨_, isExpr_conditional condition is_question a (kind_symbol _) null⟩
    intro a read₂ us₃ shorter₃ first
    refine .expect ⟨_, isExpr_conditional condition is_question first (kind_symbol _) null⟩ ?_
    intro colon us₄ shorter₄ is_colon
    refine .bind ((ih.expression (by omega)).imp fun b => ?_) fun _ => .ok
    exact isExpr_conditional condition is_question first is_colon b

/-- An assignment that is broken off has a target, since the operator was read. -/
theorem viable_expression (short : ts.length ≤ n) : Viable (IsExpr 11) ts (expression ts) := by
  rw [expression]
  refine .bind ((viable_conditional ih short).imp fun e => e.mono (Nat.le_succ 10)) ?_
  intro target us shorter yields
  obtain ⟨read, rfl, fits⟩ := of_yields_conditional (soundBelow n) short yields
  dsimp only
  split
  next => exact .ok
  next op us₂ shorter₂ taken =>
    obtain ⟨t, rfl, is_op⟩ := eq_cons_of_take? taken
    split
    next assignable =>
      refine .after (.tail (.bind ((ih.expression (by omega)).imp fun value => ?_) fun _ => .ok))
      exact isExpr_assign ⟨target, fits, assignable⟩ (assignOp?_eq_some.mp is_op) value
    next => exact .other fun _ same => by cases same

theorem parses_expression (short : ts.length ≤ n) : Parses (IsExpr 11) ts (expression ts) where
  sound h :=
    have ⟨read, same, fits⟩ := of_yields_expression (soundBelow n) short h
    ⟨read, same, _, fits⟩
  viable := viable_expression ih short

theorem parses_optionalExpression (stopper : Symbol) (short : ts.length ≤ n) :
    Parses IsOptional ts (optionalExpression stopper ts) where
  sound h :=
    have ⟨read, same, spelled, shaped⟩ := of_yields_optionalExpression (soundBelow n) short h
    ⟨read, same, _, spelled, shaped⟩
  viable := by
    rw [optionalExpression]
    split
    next => exact .ok
    next => exact .bind ((viable_expression ih short).imp isOptional_given) fun _ => .ok

/-! ## Statements -/

omit ih in
/-- An expression with a semicolon. -/
theorem viable_expressionStatement {P Q : List Token → Prop} (inner : Parses Q ts (expression ts))
    (whole : ∀ {us stop}, Q us → stop.kind = .symbol .semicolon → P (us ++ [stop])) :
    Viable P ts (expressionStatement ts) := by
  rw [expressionStatement]
  refine inner.next (fun e => ⟨_, whole e (kind_symbol _)⟩) fun {_ read us _} e => ?_
  exact .bind (viable_semicolon ⟨_, whole e (kind_symbol _)⟩) fun _ => .ok

/-- An expression that was begun starts with the same token when it is completed, or it was not
begun and can be any. -/
theorem parses_plainExpr (short : ts.length ≤ n)
    (no_brace : startsWith (.symbol .leftBrace) ts = false)
    (no_function : startsWith (.word .function) ts = false) :
    Parses IsPlainExpr ts (expression ts) where
  sound h := by
    obtain ⟨read, rfl, fits⟩ := of_yields_expression (soundBelow n) short h
    obtain ⟨t, us, rfl, -⟩ := fits.spelled.head
    exact ⟨_, rfl, ⟨_, fits⟩, no_brace, no_function⟩
  viable := by
    have begun := viable_expression ih short
    generalize expression ts = r at begun ⊢
    cases begun with
    | ok => exact .ok
    | other cause => exact .other cause
    | @refused read rest more e same whole =>
      cases read with
      | nil => exact .refused same isPlainExpr_null
      | cons t us =>
        subst same
        exact .refused rfl ⟨whole, no_brace, no_function⟩

theorem viable_variableRest {word : DeclareWord} {t : Token} (is_word : t.kind = .word word.word)
    (short : ts.length ≤ n) :
    Viable (fun us => IsVariable (t :: us)) ts (variableRest word t.span ts) := by
  rw [variableRest]
  refine .expect ?_ fun {name us shorter} is_name => ?_
  · exact ⟨_, isVariable_declare is_word (kind_identifier "a") isAnnotation_missing (kind_symbol _)⟩
  refine (parses_annotated us).next (fun type => ?_) fun {_ read us₂ shorter₂} type => ?_
  · exact ⟨_, isVariable_declare is_word is_name type (kind_symbol _)⟩
  dsimp only
  split
  next =>
    refine .bind (viable_semicolon ?_) fun _ => .ok
    exact ⟨_, isVariable_declare is_word is_name type (kind_symbol _)⟩
  next equal us₃ shorter₃ taken =>
    obtain ⟨rfl, is_equal⟩ := eq_cons_of_takeKind? taken
    refine .tail ((ih.parsesExpression (by omega)).next (fun e => ?_) ?_)
    · exact ⟨_, isVariable_declareWith is_word is_name type is_equal e (kind_symbol _)⟩
    intro _ read₂ us₄ _ init
    refine .bind (viable_semicolon ?_) fun _ => .ok
    exact ⟨_, isVariable_declareWith is_word is_name type is_equal init (kind_symbol _)⟩

theorem viable_constantRest {t : Token} (is_word : t.kind = .word .const)
    (short : ts.length ≤ n) :
    Viable (fun us => IsVariable (t :: us)) ts (constantRest t.span ts) := by
  have null := isExpr_null 11
  rw [constantRest]
  refine .expect ?_ fun {name us shorter} is_name => ?_
  · exact ⟨_, isVariable_constant is_word (kind_identifier "a") isAnnotation_missing (kind_symbol _)
      null (kind_symbol _)⟩
  refine (parses_annotated us).next (fun type => ?_) fun {_ read us₂ shorter₂} type => ?_
  · exact ⟨_, isVariable_constant is_word is_name type (kind_symbol _) null (kind_symbol _)⟩
  refine .expect ?_ fun {equal us₃ shorter₃} is_equal => ?_
  · exact ⟨_, isVariable_constant is_word is_name type (kind_symbol _) null (kind_symbol _)⟩
  refine (ih.parsesExpression (by omega)).next (fun e => ?_) fun {_ read₂ us₄ _} init => ?_
  · exact ⟨_, isVariable_constant is_word is_name type is_equal e (kind_symbol _)⟩
  refine .bind (viable_semicolon ?_) fun _ => .ok
  exact ⟨_, isVariable_constant is_word is_name type is_equal init (kind_symbol _)⟩

/-- A condition that is broken off is followed by a branch that is made up. -/
theorem viable_ifRest {t : Token} (is_word : t.kind = .word .if_) (short : ts.length ≤ n) :
    Viable (fun us => IsPlain (t :: us)) ts (ifRest t.span ts) := by
  have null := isExpr_null 11
  rw [ifRest]
  refine .expect ?_ fun {opening us shorter} is_open => ?_
  · exact ⟨_, isPlain_if is_word (kind_symbol _) null (kind_symbol _) isPlain_null⟩
  refine (ih.parsesExpression (by omega)).next (fun e => ?_) fun {_ read us₂ shorter₂} c => ?_
  · exact ⟨_, isPlain_if is_word is_open e (kind_symbol _) isPlain_null⟩
  refine .expect ?_ fun {close us₃ shorter₃} is_close => ?_
  · exact ⟨_, isPlain_if is_word is_open c (kind_symbol _) isPlain_null⟩
  have fewer : us₃.length < n := by omega
  refine .bind ((ih.statement fewer).imp fun a => isPlain_if is_word is_open c is_close a) ?_
  intro a us₄ shorter₄ yields
  obtain ⟨read₂, rfl, fits⟩ := (soundBelow n).statement fewer yields
  dsimp only
  split
  next => exact .ok
  next word us₅ shorter₅ taken =>
    obtain ⟨rfl, is_else⟩ := eq_cons_of_takeKind? taken
    -- The first branch stopped at the `else`, so it could not have taken it.
    have closed : a.endsOpen = false := by
      refine Bool.eq_false_iff.mpr fun ends_open => ?_
      have other := fits.closed ends_open
      rw [startsWith_cons is_else] at other
      cases other
    refine .after (.tail (.bind ((ih.statement (by omega)).imp fun b => ?_) fun _ => .ok))
    exact isPlain_ifElse is_word is_open c is_close fits.toFits fits.plain closed is_else b

theorem parses_forInit (short : ts.length ≤ n) : Parses IsInit ts (forInit ts) where
  sound h :=
    have ⟨read, same, spelled, shaped⟩ := of_yields_forInit (soundBelow n) short h
    ⟨read, same, _, spelled, shaped⟩
  viable := by
    have bare := viable_expressionStatement (parses_expression ih short) isInit_expr
    rw [forInit]
    split
    next => exact .bind bare fun _ => .ok
    next t ts₁ shorter₁ taken =>
      obtain ⟨_, rfl, same⟩ := eq_cons_of_take? taken
      cases same
      have fewer : ts₁.length ≤ n := Nat.le_trans (Nat.le_of_lt shorter₁) short
      split
      next => exact .ok
      next is_word =>
        have rest := (viable_constantRest ih is_word fewer).imp isInit_variable
        exact .tail (.bind rest fun _ => .ok)
      next =>
        split
        next word is_word =>
          have is_word := declareWord?_eq_some.mp is_word
          have rest := (viable_variableRest ih is_word fewer).imp isInit_variable
          exact .tail (.bind rest fun _ => .ok)
        next => exact .bind bare fun _ => .ok

/-- A loop that is broken off in its clauses goes on without the ones that are missing. -/
theorem viable_forRest {t : Token} (is_word : t.kind = .word .for_) (short : ts.length ≤ n) :
    Viable (fun us => IsPlain (t :: us)) ts (forRest t.span ts) := by
  have missing := isOptional_missing
  rw [forRest]
  refine .expect ?_ fun {opening us shorter} is_open => ?_
  · exact ⟨_, isPlain_for is_word (kind_symbol _) (isInit_missing (kind_symbol _)) missing
      (kind_symbol _) missing (kind_symbol _) isPlain_null⟩
  refine (parses_forInit ih (by omega)).next (fun s => ?_) fun {_ read us₂ shorter₂} start => ?_
  · exact ⟨_, isPlain_for is_word is_open s missing (kind_symbol _) missing (kind_symbol _)
      isPlain_null⟩
  refine (parses_optionalExpression ih .semicolon (by omega)).next (fun c => ?_) ?_
  · exact ⟨_, isPlain_for is_word is_open start c (kind_symbol _) missing (kind_symbol _)
      isPlain_null⟩
  intro _ read₂ us₃ shorter₃ condition
  refine .expect ?_ fun {stop us₄ shorter₄} is_stop => ?_
  · exact ⟨_, isPlain_for is_word is_open start condition (kind_symbol _) missing (kind_symbol _)
      isPlain_null⟩
  refine (parses_optionalExpression ih .rightParen (by omega)).next (fun u => ?_) ?_
  · exact ⟨_, isPlain_for is_word is_open start condition is_stop u (kind_symbol _) isPlain_null⟩
  intro _ read₃ us₅ shorter₅ update
  refine .expect ?_ fun {close us₆ shorter₆} is_close => ?_
  · exact ⟨_, isPlain_for is_word is_open start condition is_stop update (kind_symbol _)
      isPlain_null⟩
  refine .bind ((ih.statement (by omega)).imp fun body => ?_) fun _ => .ok
  exact isPlain_for is_word is_open start condition is_stop update is_close body

/-- Each statement can be completed from any place in it. -/
theorem viable_statement (short : ts.length ≤ n) : Viable IsPlain ts (statement ts) := by
  rw [statement]
  split
  next nothing =>
    cases ts with
    | nil => exact viable_expressionStatement (parses_plainExpr ih short rfl rfl) isPlain_expr
    | cons t us => cases nothing
  next t ts₁ shorter₁ taken =>
    obtain ⟨_, rfl, same⟩ := eq_cons_of_take? taken
    cases same
    have null := isExpr_null 11
    have fewer : ts₁.length ≤ n := Nat.le_trans (Nat.le_of_lt shorter₁) short
    split
    next is_word =>
      refine .tail ((ih.parsesExpression (by omega)).next (fun e => ?_) fun {_ read us _} e => ?_)
      · exact ⟨_, isPlain_print is_word e (kind_symbol _)⟩
      exact .bind (viable_semicolon ⟨_, isPlain_print is_word e (kind_symbol _)⟩) fun _ => .ok
    next is_word => exact .tail (.bind (viable_ifRest ih is_word fewer) fun _ => .ok)
    next is_word =>
      refine .tail (.expect ?_ fun {opening us shorter} is_open => ?_)
      · exact ⟨_, isPlain_while is_word (kind_symbol _) null (kind_symbol _) isPlain_null⟩
      refine (ih.parsesExpression (by omega)).next (fun e => ?_) fun {_ read us₂ shorter₂} c => ?_
      · exact ⟨_, isPlain_while is_word is_open e (kind_symbol _) isPlain_null⟩
      refine .expect ?_ fun {close us₃ shorter₃} is_close => ?_
      · exact ⟨_, isPlain_while is_word is_open c (kind_symbol _) isPlain_null⟩
      refine .bind ((ih.statement (by omega)).imp fun body => ?_) fun _ => .ok
      exact isPlain_while is_word is_open c is_close body
    next is_word => exact .tail (.bind (viable_forRest ih is_word fewer) fun _ => .ok)
    next is_word =>
      exact .tail (.bind (viable_semicolon ⟨_, isPlain_break is_word (kind_symbol _)⟩) fun _ => .ok)
    next is_word =>
      refine .tail (.bind (viable_semicolon ?_) fun _ => .ok)
      exact ⟨_, isPlain_continue is_word (kind_symbol _)⟩
    next is_word =>
      refine .tail ((parses_optionalExpression ih .semicolon fewer).next (fun e => ?_) ?_)
      · exact ⟨_, isPlain_return is_word e (kind_symbol _)⟩
      intro _ read us _ value
      exact .bind (viable_semicolon ⟨_, isPlain_return is_word value (kind_symbol _)⟩) fun _ => .ok
    next => exact .bind ((parses_block ih short).viable.imp isPlain_block) fun _ => .ok
    next is_word =>
      have rest := viable_functionRest ih fewer t.span
      refine .tail (.bind (rest.extend (exists_isPlain_function is_word)) ?_)
      intro f us shorter yields
      obtain ⟨read, rfl, spelled, shaped⟩ := of_yields_functionRest (soundBelow n) fewer yields
      dsimp only
      split
      next => exact .ok
      next unnamed =>
        refine .after (.bind (viable_semicolon ?_) fun _ => .ok)
        exact ⟨_, isPlain_anonymous is_word spelled shaped unnamed (kind_symbol _)⟩
    next _ _ _ _ _ _ _ no_brace no_function =>
      have no_brace := decide_eq_false no_brace
      have no_function := decide_eq_false no_function
      exact viable_expressionStatement (parses_plainExpr ih short no_brace no_function) isPlain_expr

theorem viable_declaration (short : ts.length ≤ n) :
    Viable IsStatement ts (declaration ts) := by
  rw [declaration]
  split
  next word span ts₁ shorter₁ taken =>
    obtain ⟨t, rfl, used⟩ := eq_cons_of_take? taken
    obtain ⟨_, is_word, same⟩ := Option.map_eq_some_iff.mp used
    cases same
    have fewer : ts₁.length ≤ n := by omega
    have rest := viable_variableRest ih (declareWord?_eq_some.mp is_word) fewer
    exact .tail (.bind (rest.imp isStatement_of_isVariable) fun _ => .ok)
  next =>
    split
    next t ts₁ shorter₁ taken =>
      obtain ⟨rfl, is_word⟩ := eq_cons_of_takeKind? taken
      have fewer : ts₁.length ≤ n := by omega
      have rest := viable_constantRest ih is_word fewer
      exact .tail (.bind (rest.imp isStatement_of_isVariable) fun _ => .ok)
    next => exact (viable_statement ih short).imp isStatement_of_isPlain

/-! ## Programs -/

omit ih in
/-- Whatever the entry points of the recursion have read can be completed. -/
theorem viableBelow : ∀ n : Nat, ViableBelow n
  | 0 => ⟨nofun, nofun, nofun⟩
  | n + 1 =>
    have ih := viableBelow n
    { expression := fun short => viable_expression ih (Nat.le_of_lt_succ short)
      statement := fun short => viable_statement ih (Nat.le_of_lt_succ short)
      declaration := fun short => viable_declaration ih (Nat.le_of_lt_succ short) }

omit ih in
/-- Statements that are refused at a token the parser does not expect are the beginning of
statements that are read to the end. -/
theorem completion_of_refused {ts : List Token} {r : Refusal} {e : Expectation}
    (h : statements ts = .error r) (cause : r.cause = .unexpected e) :
    ∃ read more, ts = read ++ r.rest ∧ AreStatements (read ++ more) := by
  match ts with
  | [] =>
    rw [statements] at h
    cases h
  | t :: us =>
    have begun := (viableBelow _).declaration (Nat.lt_succ_self (t :: us).length)
    cases first : declaration (t :: us) with
    | error r' =>
      rw [statements, first] at h
      cases h
      rw [first] at begun
      cases begun with
      | @refused read rest more _ same whole =>
        refine ⟨read, more, same, ?_⟩
        have one := areStatements_cons whole areStatements_nil
        rwa [List.append_nil] at one
      | other other => exact absurd cause (other e)
    | ok p =>
      obtain ⟨s, vs, shorter⟩ := p
      obtain ⟨pre, same, fits⟩ := (soundBelow _).declaration (Nat.lt_succ_self _) ⟨shorter, first⟩
      cases second : statements vs with
      | ok =>
        simp only [statements, first, bind, Except.bind, second] at h
        cases h
      | error r' =>
        simp only [statements, first, bind, Except.bind, second] at h
        cases h
        obtain ⟨read, more, rfl, whole⟩ := completion_of_refused second cause
        refine ⟨pre ++ read, more, by rw [same, List.append_assoc], ?_⟩
        rw [List.append_assoc]
        exact areStatements_cons ⟨s, fits⟩ whole
termination_by ts.length
decreasing_by exact shorter

end Scriptlet.Parser
