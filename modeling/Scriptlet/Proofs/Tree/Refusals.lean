import Scriptlet.Proofs.Tree.Soundness

/-!
# What refused tokens look like

A parser refuses what is left of its tokens, so the rest of a refusal is an end of them.
Two causes say more.  An invalid target is an expression that cannot be assigned to, spelled
by the tokens right in front of an operator that assigns.  A string without a closing quote
is there.
Only a token that the grammar does not ask for can be the end of the input.

The main statement is `blames_of_statements`.  A parser *traces* its tokens if it leaves an end
of them or refuses them in one of these ways.  The lemmas follow the ranks of the parsers,
and take the entry points of the recursion for granted on fewer tokens (`TracesBelow`).
-/

namespace Scriptlet

/-! ## Refusals -/

/-- How tokens are refused. -/
inductive Refusal.Blames (ts : List Token) : Refusal → Prop
  /-- At an end of them, which may be empty. -/
  | unexpected {rest : List Token} {e : Expectation} :
    rest <:+ ts → Blames ts ⟨rest, .unexpected e⟩
  /-- At an operator right after the expression that it assigns to. -/
  | invalidTarget {before us rest : List Token} {op : Token} {e : Expr} :
    ts = before ++ (us ++ op :: rest) → e.Spelled us →
    (Parser.assignOp? op.kind).isSome = true → e.isAssignable = false →
    Blames ts ⟨op :: rest, .invalidTarget e.span⟩
  /-- At a string without a closing quote. -/
  | unterminated {rest : List Token} {t : Token} :
    t :: rest <:+ ts → t.kind = .string → t.isUnterminated = true →
    Blames ts ⟨t :: rest, .unterminated⟩

/-- Tokens in front do not matter to a refusal. -/
theorem Refusal.Blames.within {ts us : List Token} {r : Refusal} (h : r.Blames us)
    (inside : us <:+ ts) : r.Blames ts := by
  cases h with
  | unexpected left => exact .unexpected (left.trans inside)
  | unterminated left is_string open_ =>
    exact .unterminated (left.trans inside) is_string open_
  | invalidTarget same spelled assigns fixed =>
    obtain ⟨before, rfl⟩ := inside
    exact .invalidTarget (by rw [same, List.append_assoc]) spelled assigns fixed

namespace Parser

/-- A parser leaves an end of some tokens or refuses them. -/
inductive Traces {α : Type} (ts : List Token) {n : Nat} : ParseResult α n → Prop
  | ok {a : α} {us : List Token} {shorter : us.length < n} :
    us <:+ ts → Traces ts (.ok ⟨a, us, shorter⟩)
  | refused {r : Refusal} : r.Blames ts → Traces ts (.error r)

section

variable {α β : Type} {ts us : List Token}

/-- What a parser does from a place on. -/
theorem Traces.within {n : Nat} {x : ParseResult α n} (h : Traces us x) (inside : us <:+ ts) :
    Traces ts x := by
  cases h with
  | ok left => exact .ok (left.trans inside)
  | refused blames => exact .refused (blames.within inside)

/-- One parser after another. -/
theorem Traces.bind {n k : Nat} {x : ParseResult α n} {f : Parsed α n → ParseResult β k}
    (first : Traces ts x)
    (second : ∀ {a us shorter}, us <:+ ts → Traces ts (f ⟨a, us, shorter⟩)) :
    Traces ts (x >>= f) := by
  cases first with
  | ok left => exact second left
  | refused blames => exact .refused blames

/-- One parser after another, from a place on. -/
theorem Traces.next {n k : Nat} {x : ParseResult α n} {f : Parsed α n → ParseResult β k}
    (inside : us <:+ ts) (first : Traces us x)
    (second : ∀ {a vs shorter}, vs <:+ ts → Traces ts (f ⟨a, vs, shorter⟩)) :
    Traces ts (x >>= f) :=
  .bind (first.within inside) second

/-- A parser that refuses its tokens leaves all of them. -/
theorem traces_refuse {n : Nat} {e : Expectation} :
    Traces ts (refuse ts (.unexpected e) : ParseResult α n) :=
  .refused (.unexpected (List.suffix_refl ts))

/-! ## Single tokens -/

/-- What a token is taken from is left without it. -/
theorem suffix_of_take? {use : Token → Option α} {a : α} {shorter : us.length < ts.length}
    (taken : take? use ts = some ⟨a, us, shorter⟩) : us <:+ ts := by
  obtain ⟨t, same, -⟩ := eq_cons_of_take? taken
  exact ⟨[t], same.symm⟩

/-- A token that is expected is taken or refused. -/
theorem traces_expectUse (use : Token → Option α) (e : Expectation) (ts : List Token) :
    Traces ts (expectUse use e ts) := by
  unfold expectUse
  split
  next p taken => exact .ok (suffix_of_take? taken)
  next => exact traces_refuse

theorem traces_expect (k : Kind) (e : Expectation) (ts : List Token) :
    Traces ts (expect k e ts) :=
  traces_expectUse _ e ts

theorem traces_semicolon (e : Expectation) (ts : List Token) : Traces ts (semicolon e ts) :=
  .bind (traces_expect _ e ts) fun left => .ok left

/-! ## Parts without expressions -/

theorem traces_annotated (ts : List Token) : Traces ts (annotated ts) := by
  unfold annotated
  split
  next => exact .ok (List.suffix_refl ts)
  next colon =>
    exact .next (suffix_of_take? colon) (traces_expectUse _ .typeName _) fun left => .ok left

theorem traces_params (ts : List Token) : Traces ts (params ts) := by
  rw [params]
  refine .bind (traces_expect _ .parameterName ts) fun {name us shorter} left => ?_
  refine .next left (traces_annotated us) fun {type vs shorter'} left' => ?_
  dsimp only
  split
  next => exact .ok left'
  next comma =>
    have rest := (suffix_of_take? comma).trans left'
    exact .next rest (traces_params _) fun last => .ok last
termination_by ts.length

theorem traces_paramsUpTo (ts : List Token) : Traces ts (paramsUpTo ts) := by
  unfold paramsUpTo
  split
  next => exact .ok (List.suffix_refl ts)
  next => exact .bind (traces_params ts) fun left => .ok left

/-- The name of a function may be missing. -/
theorem functionName_suffix (ts : List Token) : (functionName ts).rest <:+ ts := by
  unfold functionName
  split
  next => exact List.suffix_refl ts
  next name => exact suffix_of_take? name

/-- Steps are taken from the front as long as there are any. -/
theorem stepsAfter_suffix (e : Expr) (ts : List Token) : (stepsAfter e ts).rest <:+ ts := by
  rw [stepsAfter]
  split
  next => exact List.suffix_refl ts
  next step => exact (stepsAfter_suffix _ _).trans (suffix_of_take? step)
termination_by ts.length

end

/-! ## Lists of expressions -/

/-- Expressions, statements and declarations trace their tokens where fewer are left. -/
structure TracesBelow (n : Nat) : Prop where
  expression : ∀ {ts : List Token}, ts.length < n → Traces ts (expression ts)
  statement : ∀ {ts : List Token}, ts.length < n → Traces ts (statement ts)
  declaration : ∀ {ts : List Token}, ts.length < n → Traces ts (declaration ts)

variable {n : Nat} (ih : TracesBelow n) {ts : List Token}

include ih

theorem traces_someArguments {ts : List Token} (short : ts.length < n) :
    Traces ts (someArguments ts) := by
  rw [someArguments]
  refine .bind (ih.expression short) fun {e us shorter} left => ?_
  dsimp only
  split
  next => exact .ok left
  next us' shorter' comma =>
    have rest := (suffix_of_take? comma).trans left
    exact .next rest (traces_someArguments (by omega)) fun last => .ok last
termination_by ts.length

theorem traces_arguments (short : ts.length < n) : Traces ts (arguments ts) := by
  rw [arguments]
  split
  next => exact .ok (List.suffix_refl ts)
  next => exact .bind (traces_someArguments ih short) fun left => .ok left

theorem traces_elements {ts : List Token} (short : ts.length < n) :
    Traces ts (elements ts) := by
  rw [elements]
  split
  next => exact .ok (List.suffix_refl ts)
  next =>
    refine .bind (ih.expression short) fun {e us shorter} left => ?_
    dsimp only
    split
    next => exact .ok left
    next us' shorter' comma =>
      have rest := (suffix_of_take? comma).trans left
      exact .next rest (traces_elements (by omega)) fun last => .ok last
termination_by ts.length

theorem traces_properties {ts : List Token} (short : ts.length < n) :
    Traces ts (properties ts) := by
  rw [properties]
  split
  next => exact .ok (List.suffix_refl ts)
  next =>
    refine .bind (traces_expectUse _ .propertyName ts) fun {name us shorter} left => ?_
    refine .next left (traces_expect _ .propertyColon us) fun {_ us₂ shorter₂} left₂ => ?_
    refine .next left₂ (ih.expression (by omega)) fun {e us₃ shorter₃} left₃ => ?_
    dsimp only
    split
    next => exact .ok left₃
    next us₄ shorter₄ comma =>
      have rest := (suffix_of_take? comma).trans left₃
      exact .next rest (traces_properties (by omega)) fun last => .ok last
termination_by ts.length

/-! ## Functions -/

theorem traces_blockBody {ts : List Token} (short : ts.length < n) :
    Traces ts (blockBody ts) := by
  rw [blockBody]
  split
  next => exact .ok (List.suffix_refl ts)
  next =>
    refine .bind (ih.declaration short) fun {s us shorter} left => ?_
    exact .next left (traces_blockBody (by omega)) fun last => .ok last
termination_by ts.length

theorem traces_block (short : ts.length ≤ n) : Traces ts (block ts) := by
  rw [block]
  refine .bind (traces_expect _ .blockOpen ts) fun {opening us shorter} left => ?_
  refine .next left (traces_blockBody ih (by omega)) fun {body us₂ _} left₂ => ?_
  exact .next left₂ (traces_expect _ .blockClose us₂) fun last => .ok last

theorem traces_functionRest (short : ts.length ≤ n) (start : Span) :
    Traces ts (functionRest start ts) := by
  have named := functionName_suffix ts
  rw [functionRest]
  generalize functionName ts = name at named ⊢
  obtain ⟨name, us, shorter⟩ := name
  refine .next named (traces_expect _ .parametersOpen us) fun {_ us₂ shorter₂} left₂ => ?_
  refine .next left₂ (traces_paramsUpTo us₂) fun {ps us₃ shorter₃} left₃ => ?_
  refine .next left₃ (traces_expect _ .parametersClose us₃) fun {_ us₄ shorter₄} left₄ => ?_
  refine .next left₄ (traces_annotated us₄) fun {returns us₅ shorter₅} left₅ => ?_
  exact .next left₅ (traces_block ih (by omega)) fun last => .ok last

/-! ## Expressions -/

/-- Among expressions, a string without a closing quote is met here only. -/
theorem traces_primary (short : ts.length ≤ n) : Traces ts (primary ts) := by
  rw [primary]
  split
  next => exact traces_refuse
  next t us shorter taken =>
    have left : us <:+ ts := suffix_of_take? taken
    cases atom : atom? t with
    | some e => exact .ok left
    | none =>
      dsimp only
      split
      next is_string =>
        obtain ⟨u, rfl, same⟩ := eq_cons_of_take? taken
        cases same
        have open_ : t.isUnterminated = true := by simpa [atom?, is_string] using atom
        exact .refused (.unterminated (List.suffix_refl _) is_string open_)
      next =>
        refine .next left (ih.expression (by omega)) fun {inner us₂ _} left₂ => ?_
        exact .next left₂ (traces_expect _ .groupClose us₂) fun last => .ok last
      next =>
        refine .next left (traces_elements ih (by omega)) fun {es us₂ _} left₂ => ?_
        exact .next left₂ (traces_expect _ .arrayClose us₂) fun last => .ok last
      next =>
        refine .next left (traces_properties ih (by omega)) fun {ps us₂ _} left₂ => ?_
        exact .next left₂ (traces_expect _ .objectClose us₂) fun last => .ok last
      next => exact .next left (traces_functionRest ih (by omega) _) fun last => .ok last
      next => exact traces_refuse

/-- Members, indexes and calls are taken from the front as long as there are any. -/
theorem traces_accesses {ts : List Token} (short : ts.length ≤ n) (e : Expr) :
    Traces ts (accesses e ts) := by
  rw [accesses]
  split
  next us shorter taken =>
    refine .next (suffix_of_take? taken) (traces_arguments ih (by omega)) ?_
    intro args us₂ shorter₂ left₂
    refine .next left₂ (traces_expect _ .argumentsClose us₂) ?_
    intro close us₃ (shorter₃ : us₃.length < us₂.length) left₃
    have fewer : us₃.length < ts.length := by omega
    exact .next left₃ (traces_accesses (by omega) _) fun last => .ok last
  next us shorter taken =>
    refine .next (suffix_of_take? taken) (traces_expect _ .property us) ?_
    intro name us₂ shorter₂ left₂
    exact .next left₂ (traces_accesses (by omega) _) fun last => .ok last
  next us shorter taken =>
    refine .next (suffix_of_take? taken) (ih.expression (by omega)) ?_
    intro key us₂ shorter₂ left₂
    refine .next left₂ (traces_expect _ .indexClose us₂) ?_
    intro close us₃ (shorter₃ : us₃.length < us₂.length) left₃
    have fewer : us₃.length < ts.length := by omega
    exact .next left₃ (traces_accesses (by omega) _) fun last => .ok last
  next => exact .ok (List.suffix_refl ts)
termination_by ts.length

theorem traces_call (short : ts.length ≤ n) : Traces ts (call ts) := by
  rw [call]
  refine .bind (traces_primary ih short) fun {e us shorter} left => ?_
  exact .next left (traces_accesses ih (by omega) e) fun last => .ok last

theorem traces_unary {ts : List Token} (short : ts.length ≤ n) : Traces ts (unary ts) := by
  rw [unary]
  split
  next =>
    refine .bind (traces_call ih short) fun {e us shorter} left => ?_
    exact .ok ((stepsAfter_suffix e us).trans left)
  next op s us shorter taken =>
    exact .next (suffix_of_take? taken) (traces_unary (by omega)) fun last => .ok last
termination_by ts.length

omit ih in
/-- Operators are taken with their right operands as long as there are any. -/
theorem traces_operations {k : Nat}
    (operand : ∀ {ts : List Token}, ts.length ≤ n → Traces ts (binary k ts))
    {ts : List Token} (short : ts.length ≤ n) (left : Expr) :
    Traces ts (operations k left ts) := by
  rw [operations]
  split
  next => exact .ok (List.suffix_refl ts)
  next op us shorter taken =>
    refine .next (suffix_of_take? taken) (operand (by omega)) ?_
    intro right us₂ shorter₂ left₂
    exact .next left₂ (traces_operations operand (by omega) _) fun last => .ok last
termination_by ts.length

theorem traces_binary (k : Nat) (short : ts.length ≤ n) : Traces ts (binary k ts) := by
  induction k generalizing ts with
  | zero =>
    rw [binary]
    exact traces_unary ih short
  | succ k operand =>
    rw [binary]
    refine .bind (operand short) fun {left us shorter} behind => ?_
    exact .next behind (traces_operations operand (by omega) left) fun last => .ok last

theorem traces_conditional (short : ts.length ≤ n) : Traces ts (conditional ts) := by
  rw [conditional]
  refine .bind (traces_binary ih 6 short) fun {c us shorter} left => ?_
  dsimp only
  split
  next => exact .ok left
  next us₂ shorter₂ question =>
    have rest := (suffix_of_take? question).trans left
    refine .next rest (ih.expression (by omega)) fun {a us₃ shorter₃} left₃ => ?_
    refine .next left₃ (traces_expect _ .conditionalColon us₃) ?_
    intro _ us₄ (shorter₄ : us₄.length < us₃.length) left₄
    exact .next left₄ (ih.expression (by omega)) fun last => .ok last

/-- A target is judged here only.  The tokens in front of the operator spell it. -/
theorem traces_expression (short : ts.length ≤ n) : Traces ts (expression ts) := by
  have parts := traces_conditional ih short
  rw [expression]
  cases read : conditional ts with
  | error r =>
    rw [read] at parts
    cases parts with
    | refused blames => exact .refused blames
  | ok p =>
    obtain ⟨target, us, shorter⟩ := p
    obtain ⟨front, rfl, fits⟩ :=
      of_yields_conditional (soundBelow _) (Nat.le_refl _) ⟨shorter, read⟩
    have left : us <:+ front ++ us := List.suffix_append front us
    dsimp only [bind, Except.bind]
    split
    next => exact .ok left
    next op us₂ shorter₂ taken =>
      split
      next =>
        have rest := (suffix_of_take? taken).trans left
        refine .next rest (ih.expression ?_) fun last => .ok last
        omega
      next fixed =>
        -- The target is what was read last, and the operator comes next.
        obtain ⟨t, rfl, assigns⟩ := eq_cons_of_take? taken
        have blames := @Refusal.Blames.invalidTarget _ [] _ us₂ t target rfl fits.spelled
          (assigns ▸ rfl) (eq_false_of_ne_true fixed)
        exact .refused blames

theorem traces_optionalExpression (stopper : Symbol) (short : ts.length ≤ n) :
    Traces ts (optionalExpression stopper ts) := by
  rw [optionalExpression]
  split
  next => exact .ok (List.suffix_refl ts)
  next => exact .bind (traces_expression ih short) fun left => .ok left

/-! ## Statements -/

theorem traces_expressionStatement (short : ts.length ≤ n) :
    Traces ts (expressionStatement ts) := by
  rw [expressionStatement]
  refine .bind (traces_expression ih short) fun {e us _} left => ?_
  exact .next left (traces_semicolon .expressionEnd us) fun last => .ok last

theorem traces_variableRest (word : DeclareWord) (start : Span) (short : ts.length ≤ n) :
    Traces ts (variableRest word start ts) := by
  rw [variableRest]
  refine .bind (traces_expect _ .variableName ts) fun {name us shorter} left => ?_
  refine .next left (traces_annotated us) fun {type us₂ shorter₂} left₂ => ?_
  dsimp only
  split
  next => exact .next left₂ (traces_semicolon .variableEnd us₂) fun last => .ok last
  next us₃ shorter₃ equal =>
    have rest := (suffix_of_take? equal).trans left₂
    refine .next rest (ih.expression (by omega)) fun {init us₄ _} left₄ => ?_
    exact .next left₄ (traces_semicolon .variableEnd us₄) fun last => .ok last

theorem traces_constantRest (start : Span) (short : ts.length ≤ n) :
    Traces ts (constantRest start ts) := by
  rw [constantRest]
  refine .bind (traces_expect _ .constantName ts) fun {name us shorter} left => ?_
  refine .next left (traces_annotated us) fun {type us₂ shorter₂} left₂ => ?_
  refine .next left₂ (traces_expect _ .constantInitializer us₂) fun {_ us₃ shorter₃} left₃ => ?_
  refine .next left₃ (ih.expression (by omega)) fun {init us₄ _} left₄ => ?_
  exact .next left₄ (traces_semicolon .constantEnd us₄) fun last => .ok last

theorem traces_ifRest (start : Span) (short : ts.length ≤ n) :
    Traces ts (ifRest start ts) := by
  rw [ifRest]
  refine .bind (traces_expect _ .ifOpen ts) fun {_ us shorter} left => ?_
  refine .next left (ih.expression (by omega)) fun {c us₂ shorter₂} left₂ => ?_
  refine .next left₂ (traces_expect _ .ifClose us₂) fun {_ us₃ shorter₃} left₃ => ?_
  refine .next left₃ (ih.statement (by omega)) fun {a us₄ shorter₄} left₄ => ?_
  dsimp only
  split
  next => exact .ok left₄
  next us₅ shorter₅ word =>
    have rest := (suffix_of_take? word).trans left₄
    exact .next rest (ih.statement (by omega)) fun last => .ok last

theorem traces_forInit (short : ts.length ≤ n) : Traces ts (forInit ts) := by
  rw [forInit]
  split
  next => exact .bind (traces_expressionStatement ih short) fun left => .ok left
  next t us shorter taken =>
    have left : us <:+ ts := suffix_of_take? taken
    dsimp only
    split
    next => exact .ok left
    next => exact .next left (traces_constantRest ih _ (by omega)) fun last => .ok last
    next =>
      split
      next word _ =>
        exact .next left (traces_variableRest ih word _ (by omega)) fun last => .ok last
      next => exact .bind (traces_expressionStatement ih short) fun last => .ok last

theorem traces_forRest (start : Span) (short : ts.length ≤ n) :
    Traces ts (forRest start ts) := by
  rw [forRest]
  refine .bind (traces_expect _ .forOpen ts) fun {_ us shorter} left => ?_
  refine .next left (traces_forInit ih (by omega)) fun {init us₂ shorter₂} left₂ => ?_
  refine .next left₂ (traces_optionalExpression ih _ (by omega)) ?_
  intro c us₃ shorter₃ left₃
  refine .next left₃ (traces_expect _ .forConditionEnd us₃) fun {_ us₄ shorter₄} left₄ => ?_
  refine .next left₄ (traces_optionalExpression ih _ (by omega)) ?_
  intro update us₅ shorter₅ left₅
  refine .next left₅ (traces_expect _ .forClose us₅) fun {_ us₆ shorter₆} left₆ => ?_
  exact .next left₆ (ih.statement (by omega)) fun last => .ok last

/-- The first token decides which statement is traced. -/
theorem traces_statement (short : ts.length ≤ n) : Traces ts (statement ts) := by
  rw [statement]
  split
  next => exact traces_expressionStatement ih short
  next t us shorter taken =>
    have left : us <:+ ts := suffix_of_take? taken
    dsimp only
    split
    next =>
      refine .next left (ih.expression (by omega)) fun {e us₂ _} left₂ => ?_
      exact .next left₂ (traces_semicolon .printEnd us₂) fun last => .ok last
    next => exact .next left (traces_ifRest ih _ (by omega)) fun last => .ok last
    next =>
      refine .next left (traces_expect _ .whileOpen us) fun {_ us₂ shorter₂} left₂ => ?_
      refine .next left₂ (ih.expression (by omega)) ?_
      intro c us₃ (shorter₃ : us₃.length < us₂.length) left₃
      refine .next left₃ (traces_expect _ .whileClose us₃) ?_
      intro _ us₄ (shorter₄ : us₄.length < us₃.length) left₄
      exact .next left₄ (ih.statement (by omega)) fun last => .ok last
    next => exact .next left (traces_forRest ih _ (by omega)) fun last => .ok last
    next => exact .next left (traces_semicolon .breakEnd us) fun last => .ok last
    next => exact .next left (traces_semicolon .continueEnd us) fun last => .ok last
    next =>
      refine .next left (traces_optionalExpression ih _ (by omega)) fun {value us₂ _} left₂ => ?_
      exact .next left₂ (traces_semicolon .returnEnd us₂) fun last => .ok last
    next => exact .bind (traces_block ih short) fun last => .ok last
    next =>
      refine .next left (traces_functionRest ih (by omega) _) fun {f us₂ _} left₂ => ?_
      dsimp only
      split
      next => exact .ok left₂
      next => exact .next left₂ (traces_semicolon .expressionEnd us₂) fun last => .ok last
    next => exact traces_expressionStatement ih short

theorem traces_declaration (short : ts.length ≤ n) : Traces ts (declaration ts) := by
  rw [declaration]
  split
  next word s us shorter taken =>
    refine .next (suffix_of_take? taken) (traces_variableRest ih word s (by omega)) ?_
    exact fun last => .ok last
  next =>
    split
    next t us shorter taken =>
      refine .next (suffix_of_take? taken) (traces_constantRest ih t.span (by omega)) ?_
      exact fun last => .ok last
    next => exact traces_statement ih short

/-! ## Programs -/

omit ih in
/-- The entry points of the recursion trace all tokens. -/
theorem tracesBelow : ∀ n : Nat, TracesBelow n
  | 0 => ⟨nofun, nofun, nofun⟩
  | n + 1 =>
    have ih := tracesBelow n
    { expression := fun short => traces_expression ih (Nat.le_of_lt_succ short)
      statement := fun short => traces_statement ih (Nat.le_of_lt_succ short)
      declaration := fun short => traces_declaration ih (Nat.le_of_lt_succ short) }

omit ih in
/-- What refused statements are blamed on. -/
theorem blames_of_statements {ts : List Token} {r : Refusal} (h : statements ts = .error r) :
    r.Blames ts := by
  match ts with
  | [] =>
    rw [statements] at h
    cases h
  | t :: us =>
    have first := (tracesBelow _).declaration (Nat.lt_succ_self (t :: us).length)
    rw [statements] at h
    generalize declaration (t :: us) = read at first h
    cases first with
    | refused blames =>
      cases h
      exact blames
    | @ok s vs shorter left =>
      simp only [bind, Except.bind] at h
      cases second : statements vs with
      | ok ss =>
        rw [second] at h
        cases h
      | error e =>
        rw [second] at h
        cases h
        exact (blames_of_statements second).within left
termination_by ts.length
decreasing_by exact shorter

end Parser

end Scriptlet
