import Scriptlet.Proofs.Tree.Yields

/-!
# Tokens behind the end of the input

A parser does not read on at a token that marks the end of the input.  So it does with such a token,
and any others behind it, just what it does where no tokens are left: it gives the same value or
refuses for the same cause, and leaves the tail behind what else it leaves (`Carried`).

What a parser asks of its first token is refused by the end of the input as it is by no token at all
(`took`).  Each parser follows from those that it calls, by rank, with the entry points of the
recursion taken for granted on fewer tokens (`CarriesBelow`).
-/

namespace Scriptlet

namespace Parser

section

variable (tail : List Token) {α : Type} {n n' : Nat}

/-- The same result, with a tail behind the tokens that are left. -/
inductive Carried : ParseResult α n → ParseResult α n' → Prop
  | ok {a : α} {us : List Token} {shorter : us.length < n} {shorter' : (us ++ tail).length < n'} :
    Carried (.ok ⟨a, us, shorter⟩) (.ok ⟨a, us ++ tail, shorter'⟩)
  | refused {us : List Token} {cause : Refusal.Cause} :
    Carried (.error ⟨us, cause⟩) (.error ⟨us ++ tail, cause⟩)

/-- The same token taken, with a tail behind the tokens that are left. -/
inductive Took : Option (Parsed α n) → Option (Parsed α n') → Prop
  | none : Took none none
  | some {a : α} {us : List Token} {shorter : us.length < n}
    {shorter' : (us ++ tail).length < n'} :
    Took (some ⟨a, us, shorter⟩) (some ⟨a, us ++ tail, shorter'⟩)

end

section

variable {tail : List Token} {α β : Type} {n n' k k' : Nat}

/-- One parser after another. -/
theorem Carried.bind {x : ParseResult α n} {y : ParseResult α n'} {f : Parsed α n → ParseResult β k}
    {g : Parsed α n' → ParseResult β k'} (first : Carried tail x y)
    (second : ∀ {a us shorter shorter'},
      Carried tail (f ⟨a, us, shorter⟩) (g ⟨a, us ++ tail, shorter'⟩)) :
    Carried tail (x >>= f) (y >>= g) := by
  cases first with
  | ok => exact second
  | refused => exact .refused

/-- The tokens are refused with the tail behind them. -/
theorem Carried.refuse {ts : List Token} {cause : Refusal.Cause} :
    Carried tail (refuse ts cause : ParseResult α n)
      (refuse (ts ++ tail) cause : ParseResult α n') := .refused

end

variable {tail : List Token} (ended : atEnd tail = true) {n : Nat} {ts : List Token}

include ended

/-! ## Single tokens -/

/-- A tail is empty or starts with the end of the input. -/
theorem tail_cases : tail = [] ∨ ∃ t us, tail = t :: us ∧ t.kind = .eof := by
  cases tail with
  | nil => exact .inl rfl
  | cons t us => exact .inr ⟨t, us, rfl, by simpa [atEnd, startsWith] using ended⟩

/-- The end of the input is of no more use than no token. -/
theorem took {β : Type} {use : Token → Option β}
    (blind : ∀ t : Token, t.kind = .eof → use t = none) (ts : List Token) :
    Took tail (take? use ts) (take? use (ts ++ tail)) := by
  cases ts with
  | cons t us =>
    simp only [List.cons_append, take?]
    cases use t with
    | none => exact .none
    | some b => exact .some
  | nil =>
    obtain rfl | ⟨t, us, rfl, is_eof⟩ := tail_cases ended
    · exact .none
    · simp only [List.nil_append, take?, blind t is_eof]
      exact .none

/-- A token of any other kind than the end is taken alike, with a tail or without. -/
theorem took_kind (k : Kind) (other : k ≠ .eof) (ts : List Token) :
    Took tail (takeKind? k ts) (takeKind? k (ts ++ tail)) :=
  took ended (fun _ is_eof => if_neg fun is_k => other (is_k.symm.trans is_eof)) ts

/-- A table of kinds in which the end of the input does not stand. -/
theorem took_table {β : Type} (table : Kind → Option β) (blind : table .eof = none)
    (ts : List Token) :
    Took tail (take? (fun t => table t.kind) ts) (take? (fun t => table t.kind) (ts ++ tail)) :=
  took ended (fun t is_eof => by rw [is_eof, blind]) ts

/-- A table of kinds, with the span of the token. -/
theorem took_table_span {β : Type} (table : Kind → Option β) (blind : table .eof = none)
    (ts : List Token) :
    Took tail (take? (fun t => (table t.kind).map (·, t.span)) ts)
      (take? (fun t => (table t.kind).map (·, t.span)) (ts ++ tail)) :=
  took ended (fun t is_eof => by rw [is_eof, blind]; rfl) ts

/-- The tail does not start with a symbol. -/
theorem startsWith_append (s : Symbol) (ts : List Token) :
    startsWith (.symbol s) (ts ++ tail) = startsWith (.symbol s) ts := by
  cases ts with
  | cons => rfl
  | nil =>
    obtain rfl | ⟨t, us, rfl, is_eof⟩ := tail_cases ended
    · rfl
    · exact not_startsWith_cons is_eof (by simp)

/-- The tail starts with the end, and so does nothing at all. -/
theorem atEnd_append (ts : List Token) : atEnd (ts ++ tail) = atEnd ts := by
  cases ts with
  | cons => rfl
  | nil => exact ended

/-- A token that is expected is not in the tail. -/
theorem carried_expectUse {β : Type} {use : Token → Option β}
    (blind : ∀ t : Token, t.kind = .eof → use t = none) (e : Expectation) (ts : List Token) :
    Carried tail (expectUse use e ts) (expectUse use e (ts ++ tail)) := by
  have taken := took ended blind ts
  unfold expectUse
  generalize take? use ts = first at taken ⊢
  generalize take? use (ts ++ tail) = second at taken ⊢
  cases taken with
  | none => exact .refuse
  | some => exact .ok

theorem carried_expect (k : Kind) (other : k ≠ .eof) (e : Expectation) (ts : List Token) :
    Carried tail (expect k e ts) (expect k e (ts ++ tail)) :=
  carried_expectUse ended (fun _ is_eof => if_neg fun is_k => other (is_k.symm.trans is_eof)) e ts

theorem carried_symbol (s : Symbol) (e : Expectation) (ts : List Token) :
    Carried tail (expectSymbol s e ts) (expectSymbol s e (ts ++ tail)) :=
  carried_expect ended (.symbol s) (by simp) e ts

theorem carried_semicolon (e : Expectation) (ts : List Token) :
    Carried tail (semicolon e ts) (semicolon e (ts ++ tail)) :=
  .bind (carried_symbol ended .semicolon e ts) .ok

/-! ## Parts without expressions -/

theorem carried_annotated (ts : List Token) :
    Carried tail (annotated ts) (annotated (ts ++ tail)) := by
  have colon := took_kind ended (.symbol .colon) (by simp) ts
  unfold annotated
  generalize takeKind? _ ts = first at colon ⊢
  generalize takeKind? _ (ts ++ tail) = second at colon ⊢
  cases colon with
  | none => exact .ok
  | @some _ us _ _ =>
    have blind (t : Token) (is_eof : t.kind = .eof) : typeName? t.kind = none := by
      rw [is_eof]
      rfl
    exact .bind (carried_expectUse ended blind .typeName us) .ok

/-- Parameters go on behind a comma only. -/
theorem carried_params (ts : List Token) : Carried tail (params ts) (params (ts ++ tail)) := by
  rw [params, params]
  refine .bind (carried_expect ended .identifier (by simp) .parameterName ts)
    fun {name us shorter _} => ?_
  refine .bind (carried_annotated ended us) fun {type us₂ shorter₂ _} => ?_
  have comma := took_kind ended (.symbol .comma) (by simp) us₂
  dsimp only
  generalize takeKind? _ us₂ = first at comma ⊢
  generalize takeKind? _ (us₂ ++ tail) = second at comma ⊢
  cases comma with
  | none => exact .ok
  | @some _ us₃ shorter₃ _ =>
    have fewer : us₃.length < ts.length := by omega
    exact .bind (carried_params us₃) .ok
termination_by ts.length

theorem carried_paramsUpTo (ts : List Token) :
    Carried tail (paramsUpTo ts) (paramsUpTo (ts ++ tail)) := by
  unfold paramsUpTo
  rw [startsWith_append ended]
  split
  next => exact .ok
  next => exact .bind (carried_params ended ts) .ok

theorem carried_functionName (ts : List Token) :
    Carried tail (.ok (functionName ts)) (.ok (functionName (ts ++ tail))) := by
  have name := took_kind ended .identifier (by simp) ts
  unfold functionName
  generalize takeKind? _ ts = first at name ⊢
  generalize takeKind? _ (ts ++ tail) = second at name ⊢
  cases name with
  | none => exact .ok
  | some => exact .ok

/-- Steps behind an expression end where the tail begins. -/
theorem carried_stepsAfter (e : Expr) (ts : List Token) :
    Carried tail (.ok (stepsAfter e ts)) (.ok (stepsAfter e (ts ++ tail))) := by
  have step := took_table_span ended stepOp? rfl ts
  rw [stepsAfter, stepsAfter]
  generalize take? _ ts = first at step ⊢
  generalize take? _ (ts ++ tail) = second at step ⊢
  cases step with
  | none => exact .ok
  | @some op us shorter _ =>
    obtain ⟨op, s⟩ := op
    have steps := carried_stepsAfter (.stepAfter op e (e.span.merge s)) us
    dsimp only
    generalize stepsAfter _ us = p at steps ⊢
    generalize stepsAfter _ (us ++ tail) = p' at steps ⊢
    cases steps
    exact .ok
termination_by ts.length

/-! ## Lists of expressions -/

omit ended in
/-- Expressions, statements and declarations carry a tail where fewer tokens are left. -/
structure CarriesBelow (tail : List Token) (n : Nat) : Prop where
  expression : ∀ {ts : List Token}, ts.length < n →
    Carried tail (expression ts) (expression (ts ++ tail))
  statement : ∀ {ts : List Token}, ts.length < n →
    Carried tail (statement ts) (statement (ts ++ tail))
  declaration : ∀ {ts : List Token}, ts.length < n →
    Carried tail (declaration ts) (declaration (ts ++ tail))

variable (ih : CarriesBelow tail n)

include ih

theorem carried_someArguments {ts : List Token} (short : ts.length < n) :
    Carried tail (someArguments ts) (someArguments (ts ++ tail)) := by
  rw [someArguments, someArguments]
  refine .bind (ih.expression short) fun {e us shorter _} => ?_
  have comma := took_kind ended (.symbol .comma) (by simp) us
  dsimp only
  generalize takeKind? _ us = first at comma ⊢
  generalize takeKind? _ (us ++ tail) = second at comma ⊢
  cases comma with
  | none => exact .ok
  | @some _ us₂ shorter₂ _ =>
    have fewer : us₂.length < ts.length := by omega
    exact .bind (carried_someArguments (by omega)) .ok
termination_by ts.length

theorem carried_arguments (short : ts.length < n) :
    Carried tail (arguments ts) (arguments (ts ++ tail)) := by
  rw [arguments, arguments, startsWith_append ended]
  split
  next => exact .ok
  next => exact .bind (carried_someArguments ended ih short) .ok

/-- The end of the input is no element. -/
theorem carried_elements {ts : List Token} (short : ts.length < n) :
    Carried tail (elements ts) (elements (ts ++ tail)) := by
  rw [elements, elements, startsWith_append ended]
  split
  next => exact .ok
  next =>
    refine .bind (ih.expression short) fun {e us shorter _} => ?_
    have comma := took_kind ended (.symbol .comma) (by simp) us
    dsimp only
    generalize takeKind? _ us = first at comma ⊢
    generalize takeKind? _ (us ++ tail) = second at comma ⊢
    cases comma with
    | none => exact .ok
    | @some _ us₂ shorter₂ _ =>
      have fewer : us₂.length < ts.length := by omega
      exact .bind (carried_elements (by omega)) .ok
termination_by ts.length

theorem carried_properties {ts : List Token} (short : ts.length < n) :
    Carried tail (properties ts) (properties (ts ++ tail)) := by
  have blind (t : Token) (is_eof : t.kind = .eof) : propertyName? t = none := by
    simp [propertyName?, is_eof]
  rw [properties, properties, startsWith_append ended]
  split
  next => exact .ok
  next =>
    refine .bind (carried_expectUse ended blind .propertyName ts) fun {name us shorter _} => ?_
    refine .bind (carried_symbol ended .colon .propertyColon us) fun {_ us₂ shorter₂ _} => ?_
    refine .bind (ih.expression (by omega)) fun {e us₃ shorter₃ _} => ?_
    have comma := took_kind ended (.symbol .comma) (by simp) us₃
    dsimp only
    generalize takeKind? _ us₃ = first at comma ⊢
    generalize takeKind? _ (us₃ ++ tail) = second at comma ⊢
    cases comma with
    | none => exact .ok
    | @some _ us₄ shorter₄ _ =>
      have fewer : us₄.length < ts.length := by omega
      exact .bind (carried_properties (by omega)) .ok
termination_by ts.length

/-! ## Functions -/

/-- A block goes on up to a closing brace or the end of the input. -/
theorem carried_blockBody {ts : List Token} (short : ts.length < n) :
    Carried tail (blockBody ts) (blockBody (ts ++ tail)) := by
  rw [blockBody, blockBody, atEnd_append ended, startsWith_append ended]
  split
  next => exact .ok
  next =>
    refine .bind (ih.declaration short) fun {s us shorter _} => ?_
    exact .bind (carried_blockBody (by omega)) .ok
termination_by ts.length

theorem carried_block (short : ts.length ≤ n) :
    Carried tail (block ts) (block (ts ++ tail)) := by
  rw [block, block]
  refine .bind (carried_symbol ended .leftBrace .blockOpen ts) fun {opening us shorter _} => ?_
  refine .bind (carried_blockBody ended ih (by omega)) fun {body us₂ _ _} => ?_
  exact .bind (carried_symbol ended .rightBrace .blockClose us₂) .ok

theorem carried_functionRest (start : Span) (short : ts.length ≤ n) :
    Carried tail (functionRest start ts) (functionRest start (ts ++ tail)) := by
  have named := carried_functionName ended ts
  rw [functionRest, functionRest]
  generalize functionName ts = p at named ⊢
  generalize functionName (ts ++ tail) = p' at named ⊢
  cases named with
  | @ok name us shorter _ =>
    refine .bind (carried_symbol ended .leftParen .parametersOpen us) fun {_ us₂ shorter₂ _} => ?_
    refine .bind (carried_paramsUpTo ended us₂) fun {ps us₃ shorter₃ _} => ?_
    refine .bind (carried_symbol ended .rightParen .parametersClose us₃)
      fun {_ us₄ shorter₄ _} => ?_
    refine .bind (carried_annotated ended us₄) fun {returns us₅ shorter₅ _} => ?_
    exact .bind (carried_block ended ih (by omega)) .ok

/-! ## Expressions -/

/-- The end of the input starts no expression. -/
theorem carried_primary (short : ts.length ≤ n) :
    Carried tail (primary ts) (primary (ts ++ tail)) := by
  cases ts with
  | nil =>
    rw [List.nil_append, primary, primary]
    obtain rfl | ⟨t, us, rfl, is_eof⟩ := tail_cases ended
    · exact .refuse
    · have no_atom : atom? t = none := by simp [atom?, is_eof]
      simp only [take?, Option.map_some, no_atom, is_eof]
      exact .refused
  | cons t us =>
    rw [List.cons_append, primary, primary]
    simp only [take?, Option.map_some]
    have fewer : us.length < n := Nat.lt_of_lt_of_le (Nat.lt_succ_self _) short
    cases atom? t with
    | some e => exact .ok
    | none =>
      dsimp only
      split
      next => exact .refused
      next =>
        refine .bind (ih.expression fewer) fun {inner us₂ _ _} => ?_
        exact .bind (carried_symbol ended .rightParen .groupClose us₂) .ok
      next =>
        refine .bind (carried_elements ended ih fewer) fun {es us₂ _ _} => ?_
        exact .bind (carried_symbol ended .rightBracket .arrayClose us₂) .ok
      next =>
        refine .bind (carried_properties ended ih fewer) fun {ps us₂ _ _} => ?_
        exact .bind (carried_symbol ended .rightBrace .objectClose us₂) .ok
      next => exact .bind (carried_functionRest ended ih t.span (Nat.le_of_lt fewer)) .ok
      next => exact .refused

/-- The end of the input is no member, index or call. -/
theorem carried_accesses {ts : List Token} (e : Expr) (short : ts.length ≤ n) :
    Carried tail (accesses e ts) (accesses e (ts ++ tail)) := by
  match ts with
  | [] =>
    rw [List.nil_append, accesses, accesses]
    obtain rfl | ⟨t, us, rfl, is_eof⟩ := tail_cases ended
    · exact .ok
    · simp only [take?, Option.map_some, is_eof]
      exact .ok
  | t :: us =>
    rw [List.cons_append, accesses, accesses]
    simp only [take?, Option.map_some]
    have fewer : us.length < n := Nat.lt_of_lt_of_le (Nat.lt_succ_self _) short
    cases t.kind with
    | symbol s =>
      cases s with
      | leftParen =>
        refine .bind (carried_arguments ended ih fewer) fun {args us₂ shorter₂ _} => ?_
        refine .bind (carried_symbol ended .rightParen .argumentsClose us₂)
          fun {close us₃} {shorter₃ : us₃.length < us₂.length} {_} => ?_
        have fewer₃ : us₃.length < us.length := by omega
        exact .bind (carried_accesses _ (Nat.le_of_lt (Nat.lt_trans fewer₃ fewer))) .ok
      | dot =>
        refine .bind (carried_expect ended .identifier (by simp) .property us)
          fun {name us₂ shorter₂ _} => ?_
        exact .bind (carried_accesses _ (Nat.le_of_lt (Nat.lt_trans shorter₂ fewer))) .ok
      | leftBracket =>
        refine .bind (ih.expression fewer) fun {key us₂ shorter₂ _} => ?_
        refine .bind (carried_symbol ended .rightBracket .indexClose us₂)
          fun {close us₃} {shorter₃ : us₃.length < us₂.length} {_} => ?_
        have fewer₃ : us₃.length < us.length := Nat.lt_trans shorter₃ shorter₂
        exact .bind (carried_accesses _ (Nat.le_of_lt (Nat.lt_trans fewer₃ fewer))) .ok
      | _ => exact .ok
    | _ => exact .ok
termination_by ts.length

theorem carried_call (short : ts.length ≤ n) : Carried tail (call ts) (call (ts ++ tail)) := by
  rw [call, call]
  refine .bind (carried_primary ended ih short) fun {e us shorter _} => ?_
  exact .bind (carried_accesses ended ih e (by omega)) .ok

theorem carried_unary {ts : List Token} (short : ts.length ≤ n) :
    Carried tail (unary ts) (unary (ts ++ tail)) := by
  have taken := took_table_span ended unaryOp? rfl ts
  rw [unary, unary]
  generalize take? _ ts = first at taken ⊢
  generalize take? _ (ts ++ tail) = second at taken ⊢
  cases taken with
  | none =>
    refine .bind (carried_call ended ih short) fun {e us shorter _} => ?_
    have steps := carried_stepsAfter ended e us
    dsimp only
    generalize stepsAfter e us = p at steps ⊢
    generalize stepsAfter e (us ++ tail) = p' at steps ⊢
    cases steps
    exact .ok
  | @some op us shorter _ => exact .bind (carried_unary (by omega)) .ok
termination_by ts.length

omit ih in
/-- The end of the input is no operator. -/
theorem carried_operations {k : Nat}
    (operand : ∀ {ts : List Token}, ts.length ≤ n →
      Carried tail (binary k ts) (binary k (ts ++ tail)))
    {ts : List Token} (left : Expr) (short : ts.length ≤ n) :
    Carried tail (operations k left ts) (operations k left (ts ++ tail)) := by
  let table (kind : Kind) := (binaryOp? kind).filter (looseness · = k + 1)
  have taken := took_table ended table rfl ts
  rw [operations, operations]
  generalize take? _ ts = first at taken ⊢
  generalize take? _ (ts ++ tail) = second at taken ⊢
  cases taken with
  | none => exact .ok
  | @some op us shorter _ =>
    refine .bind (operand (by omega)) fun {right us₂ shorter₂ _} => ?_
    have fewer : us₂.length < ts.length := by omega
    exact .bind (carried_operations operand _ (by omega)) .ok
termination_by ts.length

theorem carried_binary (k : Nat) (short : ts.length ≤ n) :
    Carried tail (binary k ts) (binary k (ts ++ tail)) := by
  induction k generalizing ts with
  | zero =>
    rw [binary, binary]
    exact carried_unary ended ih short
  | succ k operand =>
    rw [binary, binary]
    refine .bind (operand short) fun {left us shorter _} => ?_
    exact .bind (carried_operations ended operand left (by omega)) .ok

theorem carried_conditional (short : ts.length ≤ n) :
    Carried tail (conditional ts) (conditional (ts ++ tail)) := by
  rw [conditional, conditional]
  refine .bind (carried_binary ended ih 6 short) fun {c us shorter _} => ?_
  have question := took_kind ended (.symbol .question) (by simp) us
  dsimp only
  generalize takeKind? _ us = first at question ⊢
  generalize takeKind? _ (us ++ tail) = second at question ⊢
  cases question with
  | none => exact .ok
  | @some _ us₂ shorter₂ _ =>
    refine .bind (ih.expression (by omega)) fun {whenTrue us₃ shorter₃ _} => ?_
    refine .bind (carried_symbol ended .colon .conditionalColon us₃)
      fun {_ us₄} {shorter₄ : us₄.length < us₃.length} {_} => ?_
    have fewer : us₄.length < n := by omega
    exact .bind (ih.expression fewer) .ok

/-- The end of the input is no operator that assigns. -/
theorem carried_expression (short : ts.length ≤ n) :
    Carried tail (expression ts) (expression (ts ++ tail)) := by
  rw [expression, expression]
  refine .bind (carried_conditional ended ih short) fun {target us shorter _} => ?_
  have taken := took_table ended assignOp? rfl us
  dsimp only
  generalize take? _ us = first at taken ⊢
  generalize take? _ (us ++ tail) = second at taken ⊢
  cases taken with
  | none => exact .ok
  | @some op us₂ shorter₂ _ =>
    dsimp only
    split
    next => exact .bind (ih.expression (by omega)) .ok
    next => exact .refused

theorem carried_optionalExpression (stopper : Symbol) (short : ts.length ≤ n) :
    Carried tail (optionalExpression stopper ts) (optionalExpression stopper (ts ++ tail)) := by
  rw [optionalExpression, optionalExpression, startsWith_append ended]
  split
  next => exact .ok
  next => exact .bind (carried_expression ended ih short) .ok

/-! ## Statements -/

theorem carried_expressionStatement (short : ts.length ≤ n) :
    Carried tail (expressionStatement ts) (expressionStatement (ts ++ tail)) := by
  rw [expressionStatement, expressionStatement]
  refine .bind (carried_expression ended ih short) fun {e us _ _} => ?_
  exact .bind (carried_semicolon ended .expressionEnd us) .ok

theorem carried_variableRest (word : DeclareWord) (start : Span) (short : ts.length ≤ n) :
    Carried tail (variableRest word start ts) (variableRest word start (ts ++ tail)) := by
  rw [variableRest, variableRest]
  refine .bind (carried_expect ended .identifier (by simp) .variableName ts)
    fun {name us shorter _} => ?_
  refine .bind (carried_annotated ended us) fun {type us₂ shorter₂ _} => ?_
  have equal := took_kind ended (.symbol .equal) (by simp) us₂
  dsimp only
  generalize takeKind? _ us₂ = first at equal ⊢
  generalize takeKind? _ (us₂ ++ tail) = second at equal ⊢
  cases equal with
  | none => exact .bind (carried_semicolon ended .variableEnd us₂) .ok
  | @some _ us₃ shorter₃ _ =>
    refine .bind (ih.expression (by omega)) fun {init us₄ _ _} => ?_
    exact .bind (carried_semicolon ended .variableEnd us₄) .ok

theorem carried_constantRest (start : Span) (short : ts.length ≤ n) :
    Carried tail (constantRest start ts) (constantRest start (ts ++ tail)) := by
  rw [constantRest, constantRest]
  refine .bind (carried_expect ended .identifier (by simp) .constantName ts)
    fun {name us shorter _} => ?_
  refine .bind (carried_annotated ended us) fun {type us₂ shorter₂ _} => ?_
  refine .bind (carried_symbol ended .equal .constantInitializer us₂) fun {_ us₃ shorter₃ _} => ?_
  refine .bind (ih.expression (by omega)) fun {init us₄ _ _} => ?_
  exact .bind (carried_semicolon ended .constantEnd us₄) .ok

theorem carried_ifRest (start : Span) (short : ts.length ≤ n) :
    Carried tail (ifRest start ts) (ifRest start (ts ++ tail)) := by
  rw [ifRest, ifRest]
  refine .bind (carried_symbol ended .leftParen .ifOpen ts) fun {_ us shorter _} => ?_
  refine .bind (ih.expression (by omega)) fun {condition us₂ shorter₂ _} => ?_
  refine .bind (carried_symbol ended .rightParen .ifClose us₂) fun {_ us₃ shorter₃ _} => ?_
  refine .bind (ih.statement (by omega)) fun {whenTrue us₄ shorter₄ _} => ?_
  have word := took_kind ended (.word .else_) (by simp) us₄
  dsimp only
  generalize takeKind? _ us₄ = first at word ⊢
  generalize takeKind? _ (us₄ ++ tail) = second at word ⊢
  cases word with
  | none => exact .ok
  | @some _ us₅ shorter₅ _ => exact .bind (ih.statement (by omega)) .ok

/-- The end of the input is no start of a loop. -/
theorem carried_forInit (short : ts.length ≤ n) :
    Carried tail (forInit ts) (forInit (ts ++ tail)) := by
  have bare := carried_expressionStatement ended ih short
  cases ts with
  | nil =>
    rw [List.nil_append, forInit, forInit]
    obtain rfl | ⟨t, us, rfl, is_eof⟩ := tail_cases ended
    · exact .bind bare .ok
    · simp only [take?, Option.map_some, is_eof]
      exact .bind bare .ok
  | cons t us =>
    rw [List.cons_append, forInit, forInit]
    simp only [take?, Option.map_some]
    have fewer : us.length ≤ n := Nat.le_of_succ_le short
    split
    next => exact .ok
    next => exact .bind (carried_constantRest ended ih t.span fewer) .ok
    next =>
      cases declareWord? t.kind with
      | some word => exact .bind (carried_variableRest ended ih word t.span fewer) .ok
      | none => exact .bind bare .ok

theorem carried_forRest (start : Span) (short : ts.length ≤ n) :
    Carried tail (forRest start ts) (forRest start (ts ++ tail)) := by
  rw [forRest, forRest]
  refine .bind (carried_symbol ended .leftParen .forOpen ts) fun {_ us shorter _} => ?_
  refine .bind (carried_forInit ended ih (by omega)) fun {init us₂ shorter₂ _} => ?_
  refine .bind (carried_optionalExpression ended ih .semicolon (by omega))
    fun {condition us₃ shorter₃ _} => ?_
  refine .bind (carried_symbol ended .semicolon .forConditionEnd us₃) fun {_ us₄ shorter₄ _} => ?_
  refine .bind (carried_optionalExpression ended ih .rightParen (by omega))
    fun {update us₅ shorter₅ _} => ?_
  refine .bind (carried_symbol ended .rightParen .forClose us₅) fun {_ us₆ shorter₆ _} => ?_
  exact .bind (ih.statement (by omega)) .ok

/-- The end of the input starts no statement. -/
theorem carried_statement (short : ts.length ≤ n) :
    Carried tail (statement ts) (statement (ts ++ tail)) := by
  have bare := carried_expressionStatement ended ih short
  cases ts with
  | nil =>
    rw [List.nil_append, statement, statement]
    obtain rfl | ⟨t, us, rfl, is_eof⟩ := tail_cases ended
    · exact bare
    · simp only [take?, Option.map_some, is_eof]
      exact bare
  | cons t us =>
    have inner := carried_block ended ih short
    rw [List.cons_append, statement, statement]
    simp only [take?, Option.map_some]
    have fewer : us.length < n := Nat.lt_of_lt_of_le (Nat.lt_succ_self _) short
    split
    next =>
      refine .bind (ih.expression fewer) fun {e us₂ _ _} => ?_
      exact .bind (carried_semicolon ended .printEnd us₂) .ok
    next => exact .bind (carried_ifRest ended ih t.span (Nat.le_of_lt fewer)) .ok
    next =>
      refine .bind (carried_symbol ended .leftParen .whileOpen us) fun {_ us₂ shorter₂ _} => ?_
      have fewer₂ : us₂.length < n := Nat.lt_trans shorter₂ fewer
      refine .bind (ih.expression fewer₂) fun {c us₃} {shorter₃ : us₃.length < us₂.length} {_} => ?_
      refine .bind (carried_symbol ended .rightParen .whileClose us₃)
        fun {_ us₄} {shorter₄ : us₄.length < us₃.length} {_} => ?_
      have fewer₄ : us₄.length < n := by omega
      exact .bind (ih.statement fewer₄) .ok
    next => exact .bind (carried_forRest ended ih t.span (Nat.le_of_lt fewer)) .ok
    next => exact .bind (carried_semicolon ended .breakEnd us) .ok
    next => exact .bind (carried_semicolon ended .continueEnd us) .ok
    next =>
      refine .bind (carried_optionalExpression ended ih .semicolon (Nat.le_of_lt fewer))
        fun {value us₂ _ _} => ?_
      exact .bind (carried_semicolon ended .returnEnd us₂) .ok
    next => exact .bind inner .ok
    next =>
      refine .bind (carried_functionRest ended ih t.span (Nat.le_of_lt fewer))
        fun {f us₂ _ _} => ?_
      dsimp only
      split
      next => exact .ok
      next => exact .bind (carried_semicolon ended .expressionEnd us₂) .ok
    next => exact bare

theorem carried_declaration (short : ts.length ≤ n) :
    Carried tail (declaration ts) (declaration (ts ++ tail)) := by
  have word := took_table_span ended declareWord? rfl ts
  have const := took_kind ended (.word .const) (by simp) ts
  rw [declaration, declaration]
  generalize take? _ ts = first at word ⊢
  generalize take? _ (ts ++ tail) = second at word ⊢
  cases word with
  | @some word us shorter _ =>
    exact .bind (carried_variableRest ended ih word.1 word.2 (by omega)) .ok
  | none =>
    dsimp only
    generalize takeKind? _ ts = first at const ⊢
    generalize takeKind? _ (ts ++ tail) = second at const ⊢
    cases const with
    | none => exact carried_statement ended ih short
    | @some t us shorter _ =>
      exact .bind (carried_constantRest ended ih t.span (by omega)) .ok

omit ih in
/-- The entry points of the recursion carry a tail on all tokens. -/
theorem carriesBelow : ∀ n : Nat, CarriesBelow tail n
  | 0 => ⟨nofun, nofun, nofun⟩
  | n + 1 =>
    have ih := carriesBelow n
    { expression := fun short => carried_expression ended ih (Nat.le_of_lt_succ short)
      statement := fun short => carried_statement ended ih (Nat.le_of_lt_succ short)
      declaration := fun short => carried_declaration ended ih (Nat.le_of_lt_succ short) }

end Parser

end Scriptlet
