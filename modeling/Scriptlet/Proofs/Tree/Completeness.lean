import Scriptlet.Proofs.Tree.Counting
import Scriptlet.Proofs.Tree.Precedence

/-!
# What is spelled parses

The tokens that spell a well-shaped tree are read as that tree.  There is a
lemma for each way to put a node together: if its parts are read then so is the
node.  The theorems at the end follow the spelling.

A part is read in front of whatever comes next, as long as this does not join on
to the part.  That the shape of the node sees to.
-/

namespace Scriptlet.Parser

/-! ## Expressions -/

/-- The tokens are read as an expression, at each level that is loose enough, and as a whole
in front of tokens that do not join. -/
structure Reads (e : Expr) (ts : List Token) : Prop where
  tight : ∀ {k : Nat}, e.level ≤ k → k ≤ 9 → ReadAt k e ts
  whole : ∀ {rest : List Token}, joins rest = 12 → Yields (expression (ts ++ rest)) e rest

/-- In front of a token that does not join. -/
theorem Reads.before {e : Expr} {ts : List Token} (h : Reads e ts) {t : Token} {k : Kind}
    (is_kind : t.kind = k) (free : joint k = 12) (rest : List Token) :
    Yields (expression (ts ++ t :: rest)) e (t :: rest) :=
  h.whole ((joins_cons is_kind rest).trans free)

/-- The parser of conditional expressions yields what is not one. -/
theorem yields_conditional {e : Expr} {ts rest : List Token} (h : ReadAt 9 e ts)
    (after : 10 < joins rest) : Yields (conditional (ts ++ rest)) e rest := by
  have first : Yields (binary 6 (ts ++ rest)) e rest := h.stops (by omega)
  have no_question : takeKind? (.symbol .question) rest = none := by
    refine takeKind?_stop fun same => ?_
    rw [same] at after
    exact absurd after (by decide)
  rw [conditional]
  refine first.bind fun _ => ?_
  simp only [no_question]
  exact yields_ok _

/-- The parser of expressions yields what is no assignment. -/
theorem yields_expression {e : Expr} {ts rest : List Token}
    (h : Yields (conditional (ts ++ rest)) e rest) (free : joins rest = 12) :
    Yields (expression (ts ++ rest)) e rest := by
  have no_assignment : take? (fun t => assignOp? t.kind) rest = none :=
    assignOp?_stop (by omega)
  rw [expression]
  refine h.bind fun _ => ?_
  simp only [no_assignment]
  exact yields_ok _

/-- An expression that is read at its own level is read wherever it may stand. -/
theorem Reads.of_readAt {e : Expr} {ts : List Token} (spelled : e.Spelled ts)
    (shaped : e.isShaped = true) (tight : e.level ≤ 9) (h : ReadAt e.level e ts) : Reads e ts := by
  obtain ⟨t, us, rfl, opened⟩ := spelled.head
  have loosen : ∀ {k : Nat}, e.level ≤ k → ReadAt k e (t :: us) := fun le =>
    h.loosen opened shaped le
  refine ⟨fun le _ => loosen le, fun free => ?_⟩
  exact yields_expression (yields_conditional (loosen tight) (by omega)) free

/-! ## Primary expressions -/

/-- A token that is an expression by itself. -/
theorem readAt_of_atom {t : Token} {e : Expr} (h : atom? t = some e) : ReadAt 0 e [t] := by
  rintro rest x rest' - ⟨rfl, rfl⟩
  change Yields (primary (t :: rest')) x rest'
  rw [primary]
  simp only [take?, Option.map_some, h]
  exact yields_ok _

/-- An expression between parentheses is read up to the closing one. -/
theorem readAt_group {e : Expr} {ts : List Token} {opening close : Token}
    (is_open : opening.kind = .symbol .leftParen) (inner : Reads e ts)
    (is_close : close.kind = .symbol .rightParen) :
    ReadAt 0 (.group e (opening.span.merge close.span)) (opening :: ts ++ [close]) := by
  rintro rest x rest' - ⟨rfl, rfl⟩
  have not_atom : atom? opening = none := by simp only [atom?, is_open]
  change Yields (primary _) _ rest'
  rw [List.append_assoc, List.cons_append, List.singleton_append, primary]
  simp only [take?, Option.map_some, not_atom, is_open]
  refine (inner.before is_close rfl _).bind fun _ => ?_
  exact (yields_expect.mpr ⟨rfl, is_close⟩).bind fun _ => yields_ok _

theorem readAt_array {es : List Expr} {ts : List Token} {opening close : Token}
    (is_open : opening.kind = .symbol .leftBracket)
    (items : ∀ rest, Yields (elements (ts ++ close :: rest)) es (close :: rest))
    (is_close : close.kind = .symbol .rightBracket) :
    ReadAt 0 (.array es (opening.span.merge close.span)) (opening :: ts ++ [close]) := by
  rintro rest x rest' - ⟨rfl, rfl⟩
  have not_atom : atom? opening = none := by simp only [atom?, is_open]
  change Yields (primary _) _ rest'
  rw [List.append_assoc, List.cons_append, List.singleton_append, primary]
  simp only [take?, Option.map_some, not_atom, is_open]
  refine (items rest').bind fun _ => ?_
  exact (yields_expect.mpr ⟨rfl, is_close⟩).bind fun _ => yields_ok _

theorem readAt_object {ps : List (String × Expr)} {ts : List Token} {opening close : Token}
    (is_open : opening.kind = .symbol .leftBrace)
    (items : ∀ rest, Yields (properties (ts ++ close :: rest)) ps (close :: rest))
    (is_close : close.kind = .symbol .rightBrace) :
    ReadAt 0 (.object ps (opening.span.merge close.span)) (opening :: ts ++ [close]) := by
  rintro rest x rest' - ⟨rfl, rfl⟩
  have not_atom : atom? opening = none := by simp only [atom?, is_open]
  change Yields (primary _) _ rest'
  rw [List.append_assoc, List.cons_append, List.singleton_append, primary]
  simp only [take?, Option.map_some, not_atom, is_open]
  refine (items rest').bind fun _ => ?_
  exact (yields_expect.mpr ⟨rfl, is_close⟩).bind fun _ => yields_ok _

theorem readAt_function {f : Function} {ts : List Token} {word : Token}
    (is_word : word.kind = .word .function)
    (read : ∀ rest, Yields (functionRest word.span (ts ++ rest)) f rest) :
    ReadAt 0 (.function f) (word :: ts) := by
  rintro rest x rest' - ⟨rfl, rfl⟩
  have not_atom : atom? word = none := by simp only [atom?, is_word]
  change Yields (primary _) _ rest'
  rw [List.cons_append, primary]
  simp only [take?, Option.map_some, not_atom, is_word]
  exact (read rest').bind fun _ => yields_ok _

/-! ## Calls, members and indexes -/

/-- What follows a call, a member or an index is read on behind it. -/
theorem readAt_member {e : Expr} {ts : List Token} {dot name : Token} (first : ReadAt 1 e ts)
    (is_dot : dot.kind = .symbol .dot) (is_name : name.kind = .identifier) :
    ReadAt 1 (.member e name.lexeme (e.span.merge name.span)) (ts ++ [dot, name]) := by
  intro rest x rest' _ after
  rw [List.append_assoc]
  refine first (Nat.le_of_eq (joins_cons is_dot _).symm) ?_
  change Yields (accesses e (dot :: name :: rest)) x rest'
  rw [accesses]
  simp only [take?, Option.map_some, is_dot]
  refine (yields_expect.mpr ⟨rfl, is_name⟩).bind fun _ => ?_
  exact Yields.bind after fun _ => yields_ok _

theorem readAt_index {e k : Expr} {ts us : List Token} {opening close : Token}
    (first : ReadAt 1 e ts) (is_open : opening.kind = .symbol .leftBracket) (key : Reads k us)
    (is_close : close.kind = .symbol .rightBracket) :
    ReadAt 1 (.index e k (e.span.merge close.span)) (ts ++ opening :: us ++ [close]) := by
  intro rest x rest' _ after
  rw [List.append_assoc, List.append_assoc]
  refine first (Nat.le_of_eq (joins_cons is_open _).symm) ?_
  change Yields (accesses e (opening :: (us ++ close :: rest))) x rest'
  rw [accesses]
  simp only [take?, Option.map_some, is_open]
  refine (key.before is_close rfl _).bind fun _ => ?_
  refine (yields_expect.mpr ⟨rfl, is_close⟩).bind fun _ => ?_
  exact Yields.bind after fun _ => yields_ok _

theorem readAt_call {e : Expr} {args : List Expr} {ts us : List Token} {opening close : Token}
    (first : ReadAt 1 e ts) (is_open : opening.kind = .symbol .leftParen)
    (items : ∀ rest, Yields (arguments (us ++ close :: rest)) args (close :: rest))
    (is_close : close.kind = .symbol .rightParen) :
    ReadAt 1 (.call e args (e.span.merge close.span)) (ts ++ opening :: us ++ [close]) := by
  intro rest x rest' _ after
  rw [List.append_assoc, List.append_assoc]
  refine first (Nat.le_of_eq (joins_cons is_open _).symm) ?_
  change Yields (accesses e (opening :: (us ++ close :: rest))) x rest'
  rw [accesses]
  simp only [take?, Option.map_some, is_open]
  refine (items rest).bind fun _ => ?_
  refine (yields_expect.mpr ⟨rfl, is_close⟩).bind fun _ => ?_
  exact Yields.bind after fun _ => yields_ok _

/-! ## Operators -/

/-- Steps behind an expression are read after all calls, members and indexes. -/
theorem readAt_stepAfter {op : StepOp} {e : Expr} {ts : List Token} {t : Token}
    (first : ReadAt 2 e ts) (is_op : t.kind = .symbol op.symbol) :
    ReadAt 2 (.stepAfter op e (e.span.merge t.span)) (ts ++ [t]) := by
  rintro rest x rest' - ⟨shorter, after⟩
  rw [List.append_assoc]
  refine first (Nat.le_of_eq ?_) ?_
  · rw [List.singleton_append, joins_cons is_op, joint_step]
  · have used : (stepOp? t.kind).map (·, t.span) = some (op, t.span) := by
      rw [stepOp?_eq_some.mpr is_op]
      rfl
    change ∃ shorter, stepsAfter e (t :: rest) = ⟨x, rest', shorter⟩
    rw [stepsAfter]
    simp only [take?, used, Option.map_some, after]
    exact ⟨Nat.lt_succ_of_lt shorter, trivial⟩

theorem readAt_unary {op : UnaryOp} {e : Expr} {ts : List Token} {t : Token}
    (is_op : t.kind = .symbol op.symbol) (operand : ReadAt 3 e ts) :
    ReadAt 3 (.unary op e (t.span.merge e.span)) (t :: ts) := by
  rintro rest x rest' tight ⟨rfl, rfl⟩
  have used : (unaryOp? t.kind).map (·, t.span) = some (op, t.span) := by
    rw [unaryOp?_eq_some.mpr is_op]
    rfl
  have read : Yields (binary 0 (ts ++ rest')) e rest' := operand tight ⟨rfl, rfl⟩
  rw [binary] at read
  change Yields (binary 0 (t :: (ts ++ rest'))) _ rest'
  rw [binary, unary]
  simp only [take?, used, Option.map_some]
  exact read.bind fun _ => yields_ok _

/-- An operator is read behind an operand of its own level, and its right operand one level
tighter. -/
theorem readAt_binary {op : BinaryOp} {l r : Expr} {ts us : List Token} {t : Token} {k : Nat}
    (level : op.level = k + 4) (left : ReadAt (k + 4) l ts)
    (is_op : t.kind = .symbol op.symbol) (right : ReadAt (k + 3) r us) :
    ReadAt (k + 4) (.binary op l r (l.span.merge r.span)) (ts ++ t :: us) := by
  intro rest x rest' tight after
  rw [List.append_assoc]
  refine left (Nat.le_of_eq ?_) ?_
  · rw [List.cons_append, joins_cons is_op, joint_binary, level]
  · have used : (binaryOp? t.kind).filter (looseness · = k + 1) = some op := by
      rw [binaryOp?_eq_some.mpr is_op]
      exact Option.filter_eq_some_iff.mpr ⟨rfl, decide_eq_true (looseness_eq.mpr level)⟩
    have operand : Yields (binary k (us ++ rest)) r rest := right.stops tight
    change Yields (operations k l (t :: (us ++ rest))) x rest'
    rw [operations]
    simp only [take?, used, Option.map_some]
    refine operand.bind fun _ => ?_
    exact Yields.bind after fun _ => yields_ok _

/-- A conditional expression is read as the loosest one that is no assignment. -/
theorem reads_conditional {c a b : Expr} {ts us vs : List Token} {question colon : Token}
    (condition : ReadAt 9 c ts) (is_question : question.kind = .symbol .question)
    (whenTrue : Reads a us) (is_colon : colon.kind = .symbol .colon) (whenFalse : Reads b vs) :
    Reads (.conditional c a b (c.span.merge b.span)) (ts ++ question :: us ++ colon :: vs) := by
  refine ⟨fun loose tight => absurd (Nat.le_trans loose tight) (by simp [Expr.level]), ?_⟩
  intro rest free
  refine yields_expression ?_ free
  have looser : 9 < joins (question :: (us ++ colon :: (vs ++ rest))) := by
    rw [joins_cons is_question]
    decide
  have first : Yields (binary 6 (ts ++ question :: (us ++ colon :: (vs ++ rest)))) c _ :=
    condition.stops looser
  rw [List.append_assoc, List.append_assoc, List.cons_append, List.cons_append, conditional]
  refine first.bind fun _ => ?_
  simp only [takeKind?_cons is_question]
  refine (whenTrue.before is_colon rfl _).bind fun _ => ?_
  refine (yields_expect.mpr ⟨rfl, is_colon⟩).bind fun _ => ?_
  exact (whenFalse.whole free).bind fun _ => yields_ok _

/-- The target is read as a conditional expression, and is one that can be assigned to. -/
theorem reads_assign {op : AssignOp} {target value : Expr} {ts us : List Token} {t : Token}
    (assignable : target.isAssignable = true) (place : ReadAt 9 target ts)
    (is_op : t.kind = .symbol op.symbol) (stored : Reads value us) :
    Reads (.assign op target value (target.span.merge value.span)) (ts ++ t :: us) := by
  refine ⟨fun loose tight => absurd (Nat.le_trans loose tight) (by simp [Expr.level]), ?_⟩
  intro rest free
  have looser : 10 < joins (t :: (us ++ rest)) := by
    rw [joins_cons is_op, joint_assign]
    decide
  rw [List.append_assoc, List.cons_append, expression]
  refine (yields_conditional place looser).bind fun _ => ?_
  simp only [take?, assignOp?_eq_some.mpr is_op, Option.map_some, if_pos assignable]
  exact (stored.whole free).bind fun _ => yields_ok _

/-! ## Lists of expressions -/

/-- The first token of an expression is not one of another kind. -/
theorem not_startsWith_of_spelled {e : Expr} {ts : List Token} (spelled : e.Spelled ts) {k : Kind}
    (other : k.opensExpression = false) (rest : List Token) :
    startsWith k (ts ++ rest) = false := by
  obtain ⟨t, us, rfl, opened⟩ := spelled.head
  refine decide_eq_false fun is_kind => ?_
  have opens := opened.expression
  rw [is_kind, other] at opens
  cases opens

theorem yields_someArguments_one {e : Expr} {ts : List Token} (h : Reads e ts) {close : Token}
    (is_close : close.kind = .symbol .rightParen) (rest : List Token) :
    Yields (someArguments (ts ++ close :: rest)) [e] (close :: rest) := by
  have no_comma : takeKind? (.symbol .comma) (close :: rest) = none :=
    takeKind?_other is_close nofun
  rw [someArguments]
  refine (h.before is_close rfl rest).bind fun _ => ?_
  simp only [no_comma]
  exact yields_ok _

/-- A comma says that another argument follows. -/
theorem yields_someArguments_cons {e : Expr} {es : List Expr} {ts us : List Token}
    (h : Reads e ts) {comma : Token} (is_comma : comma.kind = .symbol .comma) {rest : List Token}
    (others : Yields (someArguments us) es rest) :
    Yields (someArguments (ts ++ comma :: us)) (e :: es) rest := by
  rw [someArguments]
  refine (h.before is_comma rfl us).bind fun _ => ?_
  simp only [takeKind?_cons is_comma]
  exact others.bind fun _ => yields_ok _

/-- Arguments are read up to the parenthesis if, where there are any, they are read. -/
theorem yields_arguments {trailing : Bool} {es : List Expr} {ts : List Token}
    (spelled : ItemsSpelled trailing es ts) {close : Token}
    (is_close : close.kind = .symbol .rightParen) {rest : List Token}
    (read : es ≠ [] → Yields (someArguments (ts ++ close :: rest)) es (close :: rest)) :
    Yields (arguments (ts ++ close :: rest)) es (close :: rest) := by
  cases spelled with
  | nil =>
    rw [List.nil_append, arguments, if_pos (startsWith_cons is_close)]
    exact yields_ok _
  | one first =>
    have more := not_startsWith_of_spelled first (k := .symbol .rightParen) rfl (close :: rest)
    rw [arguments, if_neg (Bool.eq_false_iff.mp more)]
    exact (read (List.cons_ne_nil _ _)).bind fun _ => yields_ok _
  | cons first =>
    have more := not_startsWith_of_spelled first (k := .symbol .rightParen) rfl
    rw [List.append_assoc] at read ⊢
    rw [arguments, if_neg (Bool.eq_false_iff.mp (more _))]
    exact (read (List.cons_ne_nil _ _)).bind fun _ => yields_ok _

theorem yields_elements_nil {close : Token} (is_close : close.kind = .symbol .rightBracket)
    (rest : List Token) : Yields (elements (close :: rest)) [] (close :: rest) := by
  rw [elements, if_pos (startsWith_cons is_close)]
  exact yields_ok _

theorem yields_elements_one {e : Expr} {ts : List Token} (spelled : e.Spelled ts) (h : Reads e ts)
    {close : Token} (is_close : close.kind = .symbol .rightBracket) (rest : List Token) :
    Yields (elements (ts ++ close :: rest)) [e] (close :: rest) := by
  have more : startsWith (.symbol .rightBracket) (ts ++ close :: rest) = false :=
    not_startsWith_of_spelled spelled rfl _
  have no_comma : takeKind? (.symbol .comma) (close :: rest) = none :=
    takeKind?_other is_close nofun
  rw [elements, if_neg (Bool.eq_false_iff.mp more)]
  refine (h.before is_close rfl rest).bind fun _ => ?_
  simp only [no_comma]
  exact yields_ok _

/-- A comma says that another element follows, unless the list ends behind it. -/
theorem yields_elements_cons {e : Expr} {es : List Expr} {ts us : List Token}
    (spelled : e.Spelled ts) (h : Reads e ts) {comma : Token}
    (is_comma : comma.kind = .symbol .comma) {rest : List Token}
    (others : Yields (elements us) es rest) :
    Yields (elements (ts ++ comma :: us)) (e :: es) rest := by
  have more : startsWith (.symbol .rightBracket) (ts ++ comma :: us) = false :=
    not_startsWith_of_spelled spelled rfl _
  rw [elements, if_neg (Bool.eq_false_iff.mp more)]
  refine (h.before is_comma rfl us).bind fun _ => ?_
  simp only [takeKind?_cons is_comma]
  exact others.bind fun _ => yields_ok _

theorem yields_properties_nil {close : Token} (is_close : close.kind = .symbol .rightBrace)
    (rest : List Token) : Yields (properties (close :: rest)) [] (close :: rest) := by
  rw [properties, if_pos (startsWith_cons is_close)]
  exact yields_ok _

/-- A key is no closing brace, so the list of properties goes on. -/
theorem not_startsWith_of_keyed {name : String} {key : Token} (keyed : Keyed name key)
    (ts : List Token) : startsWith (.symbol .rightBrace) (key :: ts) = false := by
  cases keyed with
  | identifier is_kind => exact not_startsWith_cons is_kind nofun
  | string is_kind _ => exact not_startsWith_cons is_kind nofun

theorem yields_properties_one {name : String} {e : Expr} {ts : List Token} {key colon close : Token}
    (keyed : Keyed name key) (is_colon : colon.kind = .symbol .colon) (h : Reads e ts)
    (is_close : close.kind = .symbol .rightBrace) (rest : List Token) :
    Yields (properties (key :: colon :: ts ++ close :: rest)) [(name, e)] (close :: rest) := by
  have more := not_startsWith_of_keyed keyed (colon :: ts ++ close :: rest)
  have no_comma : takeKind? (.symbol .comma) (close :: rest) = none :=
    takeKind?_other is_close nofun
  rw [List.cons_append, properties, if_neg (Bool.eq_false_iff.mp more)]
  refine (yields_expectUse.mpr ⟨key, rfl, propertyName?_eq_some.mpr keyed⟩).bind fun _ => ?_
  refine (yields_expect.mpr ⟨rfl, is_colon⟩).bind fun _ => ?_
  refine (h.before is_close rfl rest).bind fun _ => ?_
  simp only [no_comma]
  exact yields_ok _

theorem yields_properties_cons {name : String} {e : Expr} {ps : List (String × Expr)}
    {ts us : List Token} {key colon comma : Token} (keyed : Keyed name key)
    (is_colon : colon.kind = .symbol .colon) (h : Reads e ts)
    (is_comma : comma.kind = .symbol .comma) {rest : List Token}
    (others : Yields (properties us) ps rest) :
    Yields (properties (key :: colon :: ts ++ comma :: us)) ((name, e) :: ps) rest := by
  have more := not_startsWith_of_keyed keyed (colon :: ts ++ comma :: us)
  rw [List.cons_append, properties, if_neg (Bool.eq_false_iff.mp more)]
  refine (yields_expectUse.mpr ⟨key, rfl, propertyName?_eq_some.mpr keyed⟩).bind fun _ => ?_
  refine (yields_expect.mpr ⟨rfl, is_colon⟩).bind fun _ => ?_
  refine (h.before is_comma rfl us).bind fun _ => ?_
  simp only [takeKind?_cons is_comma]
  exact others.bind fun _ => yields_ok _

/-! ## Functions -/

/-- A block is read up to its closing brace. -/
theorem yields_block {body : List Stmt} {ts : List Token} {left right : Token}
    (is_left : left.kind = .symbol .leftBrace)
    (statements_ : ∀ rest, Yields (blockBody (ts ++ right :: rest)) body (right :: rest))
    (is_right : right.kind = .symbol .rightBrace) (rest : List Token) :
    Yields (block (left :: ts ++ right :: rest)) (body, left.span.merge right.span) rest := by
  rw [List.cons_append, block]
  refine (yields_expect.mpr ⟨rfl, is_left⟩).bind fun _ => ?_
  refine (statements_ rest).bind fun _ => ?_
  exact (yields_expect.mpr ⟨rfl, is_right⟩).bind fun _ => yields_ok _

/-- What follows the word of a function is read part by part. -/
theorem yields_functionRest {start : Span} {name : Option String} {params : List Param}
    {returns : Option TypeName} {body : List Stmt} {ns ps rs ts : List Token}
    {opening close left right : Token} (named : Named name ns)
    (is_open : opening.kind = .symbol .leftParen) (params_spelled : ParamsSpelled params ps)
    (is_close : close.kind = .symbol .rightParen) (annotated_ : Annotated returns rs)
    (is_left : left.kind = .symbol .leftBrace)
    (statements_ : ∀ rest, Yields (blockBody (ts ++ right :: rest)) body (right :: rest))
    (is_right : right.kind = .symbol .rightBrace) (rest : List Token) :
    Yields
      (functionRest start (ns ++ opening :: ps ++ close :: rs ++ left :: ts ++ [right] ++ rest))
      (.mk name params returns body (start.merge (left.span.merge right.span))) rest := by
  have shape : ns ++ opening :: ps ++ close :: rs ++ left :: ts ++ [right] ++ rest =
      ns ++ (opening :: (ps ++ close :: (rs ++ (left :: ts ++ right :: rest)))) := by simp
  have unnamed : startsWith .identifier
      (opening :: (ps ++ close :: (rs ++ (left :: ts ++ right :: rest)))) = false :=
    not_startsWith_cons is_open nofun
  have no_colon : startsWith (.symbol .colon) (left :: ts ++ right :: rest) = false :=
    not_startsWith_cons is_left nofun
  obtain ⟨_, first⟩ := functionName_append named unnamed
  rw [shape, functionRest]
  split
  next same =>
    rw [first] at same
    cases same
    refine (yields_expect.mpr ⟨rfl, is_open⟩).bind fun _ => ?_
    refine (yields_paramsUpTo params_spelled is_close _).bind fun _ => ?_
    refine (yields_expect.mpr ⟨rfl, is_close⟩).bind fun _ => ?_
    refine (yields_annotated annotated_ no_colon).bind fun _ => ?_
    exact (yields_block is_left statements_ is_right rest).bind fun _ => yields_ok _

/-! ## Declarations -/

theorem yields_variableRest {word : DeclareWord} {type : Option TypeName} {ts : List Token}
    {t name stop : Token} (is_name : name.kind = .identifier) (annotated_ : Annotated type ts)
    (is_stop : stop.kind = .symbol .semicolon) (rest : List Token) :
    Yields (variableRest word t.span (name :: ts ++ stop :: rest))
      (.declare word name.lexeme type none (t.span.merge stop.span)) rest := by
  have no_colon : startsWith (.symbol .colon) (stop :: rest) = false :=
    not_startsWith_cons is_stop nofun
  have no_equal : takeKind? (.symbol .equal) (stop :: rest) = none :=
    takeKind?_other is_stop nofun
  rw [List.cons_append, variableRest]
  refine (yields_expect.mpr ⟨rfl, is_name⟩).bind fun _ => ?_
  refine (yields_annotated annotated_ no_colon).bind fun _ => ?_
  simp only [no_equal]
  exact (yields_semicolon.mpr ⟨stop, rfl, is_stop, rfl⟩).bind fun _ => yields_ok _

/-- What is written of the type of a declaration, and how the rest is filled in. -/
theorem Declared.annotated {init : Expr} {type : Option TypeName} {ts : List Token}
    (h : Declared init type ts) :
    ∃ written, Annotated written ts ∧ some (written.getD (TypeName.infer init)) = type := by
  cases h with
  | given annotated_ => exact ⟨_, annotated_, rfl⟩
  | inferred => exact ⟨none, .missing, rfl⟩

/-- With an initial value the type may be missing. -/
theorem yields_variableRest_init {word : DeclareWord} {type : Option TypeName} {init : Expr}
    {ts us : List Token} {t name equal stop : Token} (is_name : name.kind = .identifier)
    (declared : Declared init type ts) (is_equal : equal.kind = .symbol .equal)
    (h : Reads init us) (is_stop : stop.kind = .symbol .semicolon) (rest : List Token) :
    Yields (variableRest word t.span (name :: (ts ++ equal :: (us ++ stop :: rest))))
      (.declare word name.lexeme type (some init) (t.span.merge stop.span)) rest := by
  obtain ⟨written, annotated_, rfl⟩ := Declared.annotated declared
  have no_colon : startsWith (.symbol .colon) (equal :: (us ++ stop :: rest)) = false :=
    not_startsWith_cons is_equal nofun
  rw [variableRest]
  refine (yields_expect.mpr ⟨rfl, is_name⟩).bind fun _ => ?_
  refine (yields_annotated annotated_ no_colon).bind fun _ => ?_
  simp only [takeKind?_cons is_equal]
  refine (h.before is_stop rfl rest).bind fun _ => ?_
  exact (yields_semicolon.mpr ⟨stop, rfl, is_stop, rfl⟩).bind fun _ => yields_ok _

theorem yields_constantRest {type : Option TypeName} {init : Expr} {ts us : List Token}
    {t name equal stop : Token} (is_name : name.kind = .identifier)
    (declared : Declared init type ts) (is_equal : equal.kind = .symbol .equal)
    (h : Reads init us) (is_stop : stop.kind = .symbol .semicolon) (rest : List Token) :
    Yields (constantRest t.span (name :: (ts ++ equal :: (us ++ stop :: rest))))
      (.constant name.lexeme type init (t.span.merge stop.span)) rest := by
  obtain ⟨written, annotated_, rfl⟩ := Declared.annotated declared
  have no_colon : startsWith (.symbol .colon) (equal :: (us ++ stop :: rest)) = false :=
    not_startsWith_cons is_equal nofun
  rw [constantRest]
  refine (yields_expect.mpr ⟨rfl, is_name⟩).bind fun _ => ?_
  refine (yields_annotated annotated_ no_colon).bind fun _ => ?_
  refine (yields_expect.mpr ⟨rfl, is_equal⟩).bind fun _ => ?_
  refine (h.before is_stop rfl rest).bind fun _ => ?_
  exact (yields_semicolon.mpr ⟨stop, rfl, is_stop, rfl⟩).bind fun _ => yields_ok _

/-! ## Statements -/

/-- The tokens are read as a statement: where statements without declarations are read,
where declarations are read too, and in front of a loop. -/
structure ReadsStmt (s : Stmt) (ts : List Token) : Prop where
  statement : s.isVariable = false → ∀ {rest : List Token},
    (s.endsOpen = true → startsWith (.word .else_) rest = false) →
    Yields (statement (ts ++ rest)) s rest
  declaration : ∀ {rest : List Token},
    (s.endsOpen = true → startsWith (.word .else_) rest = false) →
    Yields (declaration (ts ++ rest)) s rest
  init : s.isVariable = true → ∀ {rest : List Token}, Yields (forInit (ts ++ rest)) (some s) rest

/-- A variable declaration is read if what follows its keyword is. -/
theorem readsStmt_of_variable {word : DeclareWord} {s : Stmt} {t : Token} {ts : List Token}
    (is_word : t.kind = .word word.word) (variable_ : s.isVariable = true)
    (h : ∀ rest, Yields (variableRest word t.span (ts ++ rest)) s rest) :
    ReadsStmt s (t :: ts) := by
  have used : (declareWord? t.kind).map (·, t.span) = some (word, t.span) := by
    rw [declareWord?_eq_some.mpr is_word]
    rfl
  refine ⟨fun plain => ?_, fun {rest} _ => ?_, fun _ {rest} => ?_⟩
  · rw [variable_] at plain
    cases plain
  · rw [List.cons_append, declaration]
    simp only [take?, used, Option.map_some]
    exact (h rest).bind fun _ => yields_ok _
  · rw [List.cons_append, forInit]
    simp only [take?, Option.map_some]
    cases word with
    | var | let_ =>
      simp only [is_word, DeclareWord.word, declareWord?]
      exact (h rest).bind fun _ => yields_ok _

/-- A constant declaration is read if what follows its keyword is. -/
theorem readsStmt_of_constant {s : Stmt} {t : Token} {ts : List Token}
    (is_word : t.kind = .word .const) (variable_ : s.isVariable = true)
    (h : ∀ rest, Yields (constantRest t.span (ts ++ rest)) s rest) :
    ReadsStmt s (t :: ts) := by
  have unused : (declareWord? t.kind).map (·, t.span) = none := by
    rw [is_word]
    rfl
  refine ⟨fun plain => ?_, fun {rest} _ => ?_, fun _ {rest} => ?_⟩
  · rw [variable_] at plain
    cases plain
  · rw [List.cons_append, declaration]
    simp only [take?, unused, Option.map_none, takeKind?_cons is_word]
    exact (h rest).bind fun _ => yields_ok _
  · rw [List.cons_append, forInit]
    simp only [take?, Option.map_some, is_word]
    exact (h rest).bind fun _ => yields_ok _

theorem readsStmt_declare {word : DeclareWord} {type : Option TypeName} {ts : List Token}
    {t name stop : Token} (is_word : t.kind = .word word.word) (is_name : name.kind = .identifier)
    (annotated_ : Annotated type ts) (is_stop : stop.kind = .symbol .semicolon) :
    ReadsStmt (.declare word name.lexeme type none (t.span.merge stop.span))
      (t :: (name :: ts ++ [stop])) := by
  refine readsStmt_of_variable is_word rfl fun rest => ?_
  rw [List.append_assoc]
  exact yields_variableRest is_name annotated_ is_stop rest

theorem readsStmt_declareWith {word : DeclareWord} {type : Option TypeName} {init : Expr}
    {ts us : List Token} {t name equal stop : Token} (is_word : t.kind = .word word.word)
    (is_name : name.kind = .identifier) (declared : Declared init type ts)
    (is_equal : equal.kind = .symbol .equal) (h : Reads init us)
    (is_stop : stop.kind = .symbol .semicolon) :
    ReadsStmt (.declare word name.lexeme type (some init) (t.span.merge stop.span))
      (t :: (name :: ts ++ equal :: us ++ [stop])) := by
  refine readsStmt_of_variable is_word rfl fun rest => ?_
  rw [List.append_assoc, List.append_assoc]
  exact yields_variableRest_init is_name declared is_equal h is_stop rest

theorem readsStmt_constant {type : Option TypeName} {init : Expr} {ts us : List Token}
    {t name equal stop : Token} (is_word : t.kind = .word .const)
    (is_name : name.kind = .identifier) (declared : Declared init type ts)
    (is_equal : equal.kind = .symbol .equal) (h : Reads init us)
    (is_stop : stop.kind = .symbol .semicolon) :
    ReadsStmt (.constant name.lexeme type init (t.span.merge stop.span))
      (t :: (name :: ts ++ equal :: us ++ [stop])) := by
  refine readsStmt_of_constant is_word rfl fun rest => ?_
  rw [List.append_assoc, List.append_assoc]
  exact yields_constantRest is_name declared is_equal h is_stop rest

/-- Any other statement is read if the parser of statements reads it. -/
theorem readsStmt_of_statement {s : Stmt} {t : Token} {ts : List Token}
    (no_word : declareWord? t.kind = none) (no_const : t.kind ≠ .word .const)
    (plain : s.isVariable = false)
    (h : ∀ rest, (s.endsOpen = true → startsWith (.word .else_) rest = false) →
      Yields (statement (t :: ts ++ rest)) s rest) :
    ReadsStmt s (t :: ts) := by
  refine ⟨fun _ _ closed => h _ closed, fun {rest} closed => ?_, fun variable_ => ?_⟩
  · have not_const : takeKind? (.word .const) (t :: ts ++ rest) = none :=
      takeKind?_eq_none.mpr (decide_eq_false no_const)
    have unused : take? (fun t => (declareWord? t.kind).map (·, t.span)) (t :: ts ++ rest) =
        none := by
      simp [take?, no_word]
    rw [declaration]
    simp only [unused, not_const]
    exact h rest closed
  · rw [plain] at variable_
    cases variable_

/-- A statement that starts with a keyword or a brace is no declaration. -/
theorem readsStmt_of_kind {s : Stmt} {t : Token} {ts : List Token} {k : Kind} (is_kind : t.kind = k)
    (no_word : declareWord? k = none) (no_const : k ≠ .word .const) (plain : s.isVariable = false)
    (h : ∀ rest, (s.endsOpen = true → startsWith (.word .else_) rest = false) →
      Yields (statement (t :: (ts ++ rest))) s rest) :
    ReadsStmt s (t :: ts) :=
  readsStmt_of_statement (is_kind ▸ no_word) (is_kind ▸ no_const) plain h

/-- An expression that is a statement ends with a semicolon. -/
theorem yields_expressionStatement {e : Expr} {ts : List Token} (h : Reads e ts) {stop : Token}
    (is_stop : stop.kind = .symbol .semicolon) (rest : List Token) :
    Yields (expressionStatement (ts ++ stop :: rest)) (.expr e (e.span.merge stop.span)) rest := by
  rw [expressionStatement]
  refine (h.before is_stop rfl rest).bind fun _ => ?_
  exact (yields_semicolon.mpr ⟨stop, rfl, is_stop, rfl⟩).bind fun _ => yields_ok _

/-- A statement that starts like an expression, and like no other statement, is one. -/
theorem yields_statement_expr {s : Stmt} {t : Token} {ts rest : List Token}
    (opens : t.kind.opensExpression = true) (no_brace : t.kind ≠ .symbol .leftBrace)
    (no_function : t.kind ≠ .word .function)
    (h : Yields (expressionStatement (t :: ts)) s rest) : Yields (statement (t :: ts)) s rest := by
  have keyword : ∀ {w : Word}, t.kind = .word w → Kind.opensExpression (.word w) = true :=
    fun is_kind => is_kind ▸ opens
  rw [statement]
  simp only [take?, Option.map_some]
  split
  next is_kind => cases keyword is_kind
  next is_kind => cases keyword is_kind
  next is_kind => cases keyword is_kind
  next is_kind => cases keyword is_kind
  next is_kind => cases keyword is_kind
  next is_kind => cases keyword is_kind
  next is_kind => cases keyword is_kind
  next is_kind => exact absurd is_kind no_brace
  next is_kind => exact absurd is_kind no_function
  next => exact h

/-- An expression is read as a statement if it does not start like another one. -/
theorem readsStmt_expr {e : Expr} {ts : List Token} {stop : Token} (spelled : e.Spelled ts)
    (plain : e.opensLikeStatement = false) (h : Reads e ts)
    (is_stop : stop.kind = .symbol .semicolon) :
    ReadsStmt (.expr e (e.span.merge stop.span)) (ts ++ [stop]) := by
  obtain ⟨t, us, rfl, opened⟩ := spelled.head
  have like : ¬ (t.kind = .symbol .leftBrace ∨ t.kind = .word .function) := fun like => by
    rw [opened.statement.mpr like] at plain
    cases plain
  obtain ⟨no_word, no_const⟩ := opened.not_declares
  refine readsStmt_of_statement no_word no_const rfl fun rest _ => ?_
  have read := yields_expressionStatement h is_stop rest
  change Yields (statement (t :: us ++ [stop] ++ rest)) _ rest
  rw [List.append_assoc]
  exact yields_statement_expr opened.expression (fun is_kind => like (.inl is_kind))
    (fun is_kind => like (.inr is_kind)) read

/-- What follows the keyword of a function expression is read as the function. -/
theorem yields_functionRest_of_reads {f : Function} {ts : List Token} {word : Token}
    (is_word : word.kind = .word .function) (h : Reads (.function f) (word :: ts))
    {rest : List Token} (free : joins rest = 12) :
    Yields (functionRest word.span (ts ++ rest)) f rest := by
  have tight : ReadAt 0 (.function f) (word :: ts) := h.tight (Nat.le_refl 0) (Nat.zero_le 9)
  have read : Yields (primary (word :: (ts ++ rest))) (.function f) rest :=
    tight.stops (by omega)
  have not_atom : atom? word = none := by simp only [atom?, is_word]
  rw [primary] at read
  simp only [take?, Option.map_some, not_atom, is_word] at read
  obtain ⟨g, us, _, first, read⟩ := of_yields_bind read
  obtain ⟨same, rfl⟩ := eq_of_yields_ok read
  cases same
  exact first

theorem readsStmt_anonymous {f : Function} {ts : List Token} {word stop : Token}
    (is_word : word.kind = .word .function) (unnamed : f.name.isSome = false)
    (h : Reads (.function f) (word :: ts)) (is_stop : stop.kind = .symbol .semicolon) :
    ReadsStmt (.expr (.function f) (f.span.merge stop.span)) (word :: (ts ++ [stop])) := by
  refine readsStmt_of_kind is_word rfl nofun rfl fun rest _ => ?_
  have read : Yields (functionRest word.span (ts ++ stop :: rest)) f (stop :: rest) :=
    yields_functionRest_of_reads is_word h (joins_cons is_stop rest)
  rw [List.append_assoc, statement]
  simp only [take?, Option.map_some, is_word]
  refine read.bind fun _ => ?_
  simp only [unnamed]
  exact (yields_semicolon.mpr ⟨stop, rfl, is_stop, rfl⟩).bind fun _ => yields_ok _

/-- An expression statement is read if its shape is right. -/
theorem readsStmt_of_expr {e : Expr} {ts : List Token} {stop : Token} (spelled : e.Spelled ts)
    (shaped : e.opensLikeStatement = false ∨ e.isAnonymous = true) (h : Reads e ts)
    (is_stop : stop.kind = .symbol .semicolon) :
    ReadsStmt (.expr e (e.span.merge stop.span)) (ts ++ [stop]) := by
  cases shaped with
  | inl plain => exact readsStmt_expr spelled plain h is_stop
  | inr anonymous =>
    cases spelled with
    | function is_word _ =>
      exact readsStmt_anonymous is_word (Option.isSome_eq_false_iff.mpr anonymous) h is_stop
    | number | string | true_ | false_ | null | identifier | group | array | object | member
    | index | call | unary | stepAfter | binary | conditional | assign => cases anonymous

/-- A function with a name is a statement and needs no semicolon. -/
theorem readsStmt_function {f : Function} {ts : List Token} {word : Token}
    (is_word : word.kind = .word .function) (named : f.name.isSome = true)
    (read : ∀ rest, Yields (functionRest word.span (ts ++ rest)) f rest) :
    ReadsStmt (.function f) (word :: ts) := by
  refine readsStmt_of_kind is_word rfl nofun rfl fun rest _ => ?_
  rw [statement]
  simp only [take?, Option.map_some, is_word]
  refine (read _).bind fun _ => ?_
  simp only [named, if_true]
  exact yields_ok _

theorem readsStmt_block {body : List Stmt} {ts : List Token} {left right : Token}
    (is_left : left.kind = .symbol .leftBrace)
    (statements_ : ∀ rest, Yields (blockBody (ts ++ right :: rest)) body (right :: rest))
    (is_right : right.kind = .symbol .rightBrace) :
    ReadsStmt (.block body (left.span.merge right.span)) (left :: (ts ++ [right])) := by
  refine readsStmt_of_kind is_left rfl nofun rfl fun rest _ => ?_
  rw [List.append_assoc, statement]
  simp only [take?, Option.map_some, is_left]
  exact (yields_block is_left statements_ is_right rest).bind fun _ => yields_ok _

theorem readsStmt_print {e : Expr} {ts : List Token} {t stop : Token}
    (is_word : t.kind = .word .print) (h : Reads e ts)
    (is_stop : stop.kind = .symbol .semicolon) :
    ReadsStmt (.print e (t.span.merge stop.span)) (t :: (ts ++ [stop])) := by
  refine readsStmt_of_kind is_word rfl nofun rfl fun rest _ => ?_
  rw [List.append_assoc, statement]
  simp only [take?, Option.map_some, is_word]
  refine (h.before is_stop rfl rest).bind fun _ => ?_
  exact (yields_semicolon.mpr ⟨stop, rfl, is_stop, rfl⟩).bind fun _ => yields_ok _

theorem readsStmt_break {t stop : Token} (is_word : t.kind = .word .break_)
    (is_stop : stop.kind = .symbol .semicolon) :
    ReadsStmt (.break_ (t.span.merge stop.span)) [t, stop] := by
  refine readsStmt_of_kind is_word rfl nofun rfl fun rest _ => ?_
  rw [statement]
  simp only [take?, Option.map_some, is_word]
  exact (yields_semicolon.mpr ⟨stop, rfl, is_stop, rfl⟩).bind fun _ => yields_ok _

theorem readsStmt_continue {t stop : Token} (is_word : t.kind = .word .continue_)
    (is_stop : stop.kind = .symbol .semicolon) :
    ReadsStmt (.continue_ (t.span.merge stop.span)) [t, stop] := by
  refine readsStmt_of_kind is_word rfl nofun rfl fun rest _ => ?_
  rw [statement]
  simp only [take?, Option.map_some, is_word]
  exact (yields_semicolon.mpr ⟨stop, rfl, is_stop, rfl⟩).bind fun _ => yields_ok _

/-- An expression that may be missing, in front of the symbol that ends it. -/
def ReadsOptional (e : Option Expr) (ts : List Token) : Prop :=
  ∀ {stopper : Symbol}, Kind.opensExpression (.symbol stopper) = false →
    joint (.symbol stopper) = 12 → ∀ {t : Token}, t.kind = .symbol stopper → ∀ rest,
    Yields (optionalExpression stopper (ts ++ t :: rest)) e (t :: rest)

theorem readsOptional_none : ReadsOptional none [] := by
  intro stopper _ _ t is_stop rest
  rw [List.nil_append, optionalExpression, if_pos (startsWith_cons is_stop)]
  exact yields_ok _

/-- An expression starts neither with a semicolon nor with a closing parenthesis. -/
theorem readsOptional_some {e : Expr} {ts : List Token} (spelled : e.Spelled ts) (h : Reads e ts) :
    ReadsOptional (some e) ts := by
  intro stopper other free t is_stop rest
  have more := not_startsWith_of_spelled spelled other (t :: rest)
  rw [optionalExpression, if_neg (Bool.eq_false_iff.mp more)]
  exact (h.before is_stop free rest).bind fun _ => yields_ok _

/-- The value that is returned may be missing. -/
theorem readsStmt_return {value : Option Expr} {ts : List Token} {t stop : Token}
    (is_word : t.kind = .word .return_) (h : ReadsOptional value ts)
    (is_stop : stop.kind = .symbol .semicolon) :
    ReadsStmt (.return_ value (t.span.merge stop.span)) (t :: (ts ++ [stop])) := by
  refine readsStmt_of_kind is_word rfl nofun rfl fun rest _ => ?_
  rw [List.append_assoc, statement]
  simp only [take?, Option.map_some, is_word]
  refine (h rfl rfl is_stop rest).bind fun _ => ?_
  exact (yields_semicolon.mpr ⟨stop, rfl, is_stop, rfl⟩).bind fun _ => yields_ok _

/-! ## Statements that hold statements -/

/-- What an `if` without `else` reads after its keyword. -/
theorem yields_ifRest {c : Expr} {a : Stmt} {ts us : List Token} {t opening close : Token}
    (is_open : opening.kind = .symbol .leftParen) (condition : Reads c ts)
    (is_close : close.kind = .symbol .rightParen) {rest : List Token}
    (branch : Yields (statement (us ++ rest)) a rest)
    (no_else : startsWith (.word .else_) rest = false) :
    Yields (ifRest t.span (opening :: (ts ++ close :: (us ++ rest))))
      (.if_ c a none (t.span.merge a.span)) rest := by
  rw [ifRest]
  refine (yields_expect.mpr ⟨rfl, is_open⟩).bind fun _ => ?_
  refine (condition.before is_close rfl _).bind fun _ => ?_
  refine (yields_expect.mpr ⟨rfl, is_close⟩).bind fun _ => ?_
  refine branch.bind fun _ => ?_
  simp only [takeKind?_eq_none.mpr no_else]
  exact yields_ok _

/-- Without a second branch, what follows must not be read as one. -/
theorem readsStmt_if {c : Expr} {a : Stmt} {ts us : List Token} {t opening close : Token}
    (is_word : t.kind = .word .if_) (is_open : opening.kind = .symbol .leftParen)
    (condition : Reads c ts) (is_close : close.kind = .symbol .rightParen)
    (plain : a.isVariable = false) (branch : ReadsStmt a us) :
    ReadsStmt (.if_ c a none (t.span.merge a.span))
      (t :: (opening :: ts ++ close :: us)) := by
  refine readsStmt_of_kind is_word rfl nofun rfl fun rest closed => ?_
  have no_else : startsWith (.word .else_) rest = false := closed rfl
  rw [List.append_assoc, statement]
  simp only [take?, Option.map_some, is_word]
  refine Yields.bind ?_ fun _ => yields_ok _
  exact yields_ifRest is_open condition is_close (branch.statement plain fun _ => no_else) no_else

/-- What an `if` with an `else` reads after its keyword. -/
theorem yields_ifRest_else {c : Expr} {a b : Stmt} {ts us vs : List Token}
    {t opening close word : Token} (is_open : opening.kind = .symbol .leftParen)
    (condition : Reads c ts) (is_close : close.kind = .symbol .rightParen) {rest : List Token}
    (first : Yields (statement (us ++ word :: (vs ++ rest))) a (word :: (vs ++ rest)))
    (is_else : word.kind = .word .else_) (second : Yields (statement (vs ++ rest)) b rest) :
    Yields (ifRest t.span (opening :: (ts ++ close :: (us ++ word :: (vs ++ rest)))))
      (.if_ c a (some b) ((t.span.merge a.span).merge b.span)) rest := by
  rw [ifRest]
  refine (yields_expect.mpr ⟨rfl, is_open⟩).bind fun _ => ?_
  refine (condition.before is_close rfl _).bind fun _ => ?_
  refine (yields_expect.mpr ⟨rfl, is_close⟩).bind fun _ => ?_
  refine first.bind fun _ => ?_
  simp only [takeKind?_cons is_else]
  exact second.bind fun _ => yields_ok _

/-- The first branch must not be open, or it would take the second one for itself. -/
theorem readsStmt_ifElse {c : Expr} {a b : Stmt} {ts us vs : List Token}
    {t opening close word : Token} (is_word : t.kind = .word .if_)
    (is_open : opening.kind = .symbol .leftParen) (condition : Reads c ts)
    (is_close : close.kind = .symbol .rightParen) (plain : a.isVariable = false)
    (not_open : a.endsOpen = false) (first : ReadsStmt a us) (is_else : word.kind = .word .else_)
    (plain' : b.isVariable = false) (second : ReadsStmt b vs) :
    ReadsStmt (.if_ c a (some b) ((t.span.merge a.span).merge b.span))
      (t :: (opening :: ts ++ close :: us ++ word :: vs)) := by
  refine readsStmt_of_kind is_word rfl nofun rfl fun rest closed => ?_
  have first_read : Yields (statement (us ++ word :: (vs ++ rest))) a _ :=
    first.statement plain fun ends_open => by
      rw [not_open] at ends_open
      cases ends_open
  have second_read : Yields (statement (vs ++ rest)) b rest := second.statement plain' closed
  rw [List.append_assoc, List.append_assoc, statement]
  simp only [take?, Option.map_some, is_word]
  refine Yields.bind ?_ fun _ => yields_ok _
  exact yields_ifRest_else is_open condition is_close first_read is_else second_read

theorem readsStmt_while {c : Expr} {body : Stmt} {ts us : List Token} {t opening close : Token}
    (is_word : t.kind = .word .while_) (is_open : opening.kind = .symbol .leftParen)
    (condition : Reads c ts) (is_close : close.kind = .symbol .rightParen)
    (plain : body.isVariable = false) (round : ReadsStmt body us) :
    ReadsStmt (.while_ c body (t.span.merge body.span))
      (t :: (opening :: ts ++ close :: us)) := by
  refine readsStmt_of_kind is_word rfl nofun rfl fun rest closed => ?_
  rw [List.append_assoc, statement]
  simp only [take?, Option.map_some, is_word]
  refine (yields_expect.mpr ⟨rfl, is_open⟩).bind fun _ => ?_
  refine (condition.before is_close rfl _).bind fun _ => ?_
  refine (yields_expect.mpr ⟨rfl, is_close⟩).bind fun _ => ?_
  exact (round.statement plain closed).bind fun _ => yields_ok _

/-- All clauses of a loop are read, each up to what ends it. -/
theorem readsStmt_for {init : Option Stmt} {c update : Option Expr} {body : Stmt}
    {is ts us vs : List Token} {t opening stop close : Token} (is_word : t.kind = .word .for_)
    (is_open : opening.kind = .symbol .leftParen)
    (start : ∀ rest, Yields (forInit (is ++ rest)) init rest) (condition : ReadsOptional c ts)
    (is_stop : stop.kind = .symbol .semicolon) (step : ReadsOptional update us)
    (is_close : close.kind = .symbol .rightParen) (plain : body.isVariable = false)
    (round : ReadsStmt body vs) :
    ReadsStmt (.for_ init c update body (t.span.merge body.span))
      (t :: (opening :: is ++ ts ++ stop :: us ++ close :: vs)) := by
  refine readsStmt_of_kind is_word rfl nofun rfl fun rest closed => ?_
  have shape : opening :: is ++ ts ++ stop :: us ++ close :: vs ++ rest =
      opening :: (is ++ (ts ++ stop :: (us ++ close :: (vs ++ rest)))) := by simp
  rw [shape, statement]
  simp only [take?, Option.map_some, is_word]
  refine Yields.bind ?_ fun _ => yields_ok _
  rw [forRest]
  refine (yields_expect.mpr ⟨rfl, is_open⟩).bind fun _ => ?_
  refine (start _).bind fun _ => ?_
  refine (condition rfl rfl is_stop _).bind fun _ => ?_
  refine (yields_expect.mpr ⟨rfl, is_stop⟩).bind fun _ => ?_
  refine (step rfl rfl is_close _).bind fun _ => ?_
  refine (yields_expect.mpr ⟨rfl, is_close⟩).bind fun _ => ?_
  exact (round.statement plain closed).bind fun _ => yields_ok _

theorem yields_forInit_none {stop : Token} (is_stop : stop.kind = .symbol .semicolon)
    (rest : List Token) : Yields (forInit (stop :: rest)) none rest := by
  rw [forInit]
  simp only [take?, Option.map_some, is_stop]
  exact yields_ok _

theorem yields_forInit_expr {e : Expr} {ts : List Token} (spelled : e.Spelled ts) (h : Reads e ts)
    {stop : Token} (is_stop : stop.kind = .symbol .semicolon) (rest : List Token) :
    Yields (forInit (ts ++ [stop] ++ rest)) (some (.expr e (e.span.merge stop.span))) rest := by
  have read := yields_expressionStatement h is_stop rest
  obtain ⟨t, us, rfl, opened⟩ := spelled.head
  have opens := opened.expression
  rw [List.append_assoc, List.cons_append, forInit]
  simp only [take?, Option.map_some]
  split
  next is_kind =>
    rw [is_kind] at opens
    cases opens
  next is_kind =>
    rw [is_kind] at opens
    cases opens
  next =>
    simp only [opened.not_declares.1]
    exact read.bind fun _ => yields_ok _

/-! ## Bodies -/

/-- Statements in a row are read, in a block and at the top level. -/
structure ReadsBody (ss : List Stmt) (ts : List Token) : Prop where
  block : ∀ {right : Token}, right.kind = .symbol .rightBrace → ∀ rest,
    Yields (blockBody (ts ++ right :: rest)) ss (right :: rest)
  program : statements ts = .ok ss
  no_else : startsWith (.word .else_) ts = false

theorem readsBody_nil : ReadsBody [] [] := by
  refine ⟨fun {right} is_right rest => ?_, ?_, rfl⟩
  · rw [List.nil_append, blockBody, if_pos]
    · exact yields_ok _
    · rw [startsWith_cons is_right, Bool.or_true]
  · rw [statements]

/-- A statement is read, and the others after it. -/
theorem readsBody_cons {s : Stmt} {ss : List Stmt} {ts us : List Token} (spelled : s.Spelled ts)
    (first : ReadsStmt s ts) (others : ReadsBody ss us) : ReadsBody (s :: ss) (ts ++ us) := by
  obtain ⟨t, vs, rfl, not_right, not_else⟩ := spelled.head
  refine ⟨fun {right} is_right rest => ?_, ?_, decide_eq_false not_else⟩
  · have not_eof : t.kind ≠ .eof := (spelled.counts t (.head vs)).2
    have not_end : ¬ (atEnd (t :: vs ++ us ++ right :: rest) ||
        startsWith (.symbol .rightBrace) (t :: vs ++ us ++ right :: rest)) = true := by
      simp [atEnd, startsWith, not_right, not_eof]
    have no_else : startsWith (.word .else_) (us ++ right :: rest) = false := by
      cases us with
      | nil => exact not_startsWith_cons is_right (by decide)
      | cons => exact others.no_else
    rw [blockBody, if_neg not_end, List.append_assoc]
    refine (first.declaration fun _ => no_else).bind fun _ => ?_
    exact (others.block is_right rest).bind fun _ => yields_ok _
  · have read : Yields (declaration (t :: (vs ++ us))) s us :=
      first.declaration fun _ => others.no_else
    obtain ⟨shorter, read⟩ := read
    rw [List.cons_append, statements]
    simp only [read, bind, Except.bind, others.program]
    rfl

/-! ## Following the spelling -/

/-- What can be assigned to is tighter than every operator. -/
theorem level_of_isAssignable {e : Expr} (h : e.isAssignable = true) : e.level ≤ 1 := by
  cases e with
  | identifier => exact Nat.zero_le 1
  | member | index => exact Nat.le_refl 1
  | number | string | boolean | null | group | array | object | function | call | unary
  | stepAfter | binary | conditional | assign => cases h

mutual

/-- The tokens of a well-shaped expression are read as it. -/
theorem reads_of_spelled : ∀ {e : Expr} {ts : List Token}, e.Spelled ts → e.isShaped = true →
    Reads e ts
  | _, _, .number is_kind, shaped =>
    .of_readAt (.number is_kind) shaped (Nat.zero_le 9)
      (readAt_of_atom (by simp only [atom?, is_kind]))
  | _, _, .string is_kind terminated, shaped =>
    .of_readAt (.string is_kind terminated) shaped (Nat.zero_le 9)
      (readAt_of_atom (by simp [atom?, is_kind, terminated]))
  | _, _, .true_ is_kind, shaped =>
    .of_readAt (.true_ is_kind) shaped (Nat.zero_le 9)
      (readAt_of_atom (by simp only [atom?, is_kind]))
  | _, _, .false_ is_kind, shaped =>
    .of_readAt (.false_ is_kind) shaped (Nat.zero_le 9)
      (readAt_of_atom (by simp only [atom?, is_kind]))
  | _, _, .null is_kind, shaped =>
    .of_readAt (.null is_kind) shaped (Nat.zero_le 9)
      (readAt_of_atom (by simp only [atom?, is_kind]))
  | _, _, .identifier is_kind, shaped =>
    .of_readAt (.identifier is_kind) shaped (Nat.zero_le 9)
      (readAt_of_atom (by simp only [atom?, is_kind]))
  | _, _, .group is_open inner is_close, shaped =>
    .of_readAt (.group is_open inner is_close) shaped (Nat.zero_le 9)
      (readAt_group is_open (reads_of_spelled inner shaped) is_close)
  | _, _, .array is_open items is_close, shaped =>
    .of_readAt (.array is_open items is_close) shaped (Nat.zero_le 9)
      (readAt_array is_open (elements_of_spelled items shaped is_close) is_close)
  | _, _, .object is_open items is_close, shaped =>
    .of_readAt (.object is_open items is_close) shaped (Nat.zero_le 9)
      (readAt_object is_open (properties_of_spelled items shaped is_close) is_close)
  | _, _, .function is_word inner, shaped =>
    .of_readAt (.function is_word inner) shaped (Nat.zero_le 9)
      (readAt_function is_word (functionRest_of_spelled inner shaped))
  | _, _, .member first is_dot is_name, shaped => by
    have parts := shaped
    simp only [Expr.isShaped, Bool.and_eq_true, decide_eq_true_eq] at parts
    have first_reads := reads_of_spelled first parts.2
    refine .of_readAt (.member first is_dot is_name) shaped (show 1 ≤ 9 by decide) ?_
    exact readAt_member (first_reads.tight parts.1 (by decide)) is_dot is_name
  | _, _, .index first is_open key is_close, shaped => by
    have parts := shaped
    simp only [Expr.isShaped, Bool.and_eq_true, decide_eq_true_eq] at parts
    have first_reads := reads_of_spelled first parts.1.2
    have key_reads := reads_of_spelled key parts.2
    refine .of_readAt (.index first is_open key is_close) shaped (show 1 ≤ 9 by decide) ?_
    exact readAt_index (first_reads.tight parts.1.1 (by decide)) is_open key_reads is_close
  | _, _, .call first is_open items is_close, shaped => by
    have parts := shaped
    simp only [Expr.isShaped, Bool.and_eq_true, decide_eq_true_eq] at parts
    have first_reads := reads_of_spelled first parts.1.2
    have items_read := fun rest => yields_arguments items is_close fun some_ =>
      someArguments_of_spelled items rfl some_ parts.2 is_close rest
    refine .of_readAt (.call first is_open items is_close) shaped (show 1 ≤ 9 by decide) ?_
    exact readAt_call (first_reads.tight parts.1.1 (by decide)) is_open items_read is_close
  | _, _, .unary is_op operand, shaped => by
    have parts := shaped
    simp only [Expr.isShaped, Bool.and_eq_true, decide_eq_true_eq] at parts
    have operand_reads := reads_of_spelled operand parts.2
    refine .of_readAt (.unary is_op operand) shaped (show 3 ≤ 9 by decide) ?_
    exact readAt_unary is_op (operand_reads.tight parts.1 (by decide))
  | _, _, .stepAfter first is_op, shaped => by
    have parts := shaped
    simp only [Expr.isShaped, Bool.and_eq_true, decide_eq_true_eq] at parts
    have first_reads := reads_of_spelled first parts.2
    refine .of_readAt (.stepAfter first is_op) shaped (show 2 ≤ 9 by decide) ?_
    exact readAt_stepAfter (first_reads.tight parts.1 (by decide)) is_op
  | .binary op _ _ _, _, .binary left is_op right, shaped => by
    have parts := shaped
    simp only [Expr.isShaped, Bool.and_eq_true, decide_eq_true_eq] at parts
    obtain ⟨⟨⟨left_tight, right_tight⟩, left_shaped⟩, right_shaped⟩ := parts
    obtain ⟨least, most⟩ := op.level_bounds
    obtain ⟨k, level⟩ : ∃ k, op.level = k + 4 := ⟨op.level - 4, by omega⟩
    have left_reads := reads_of_spelled left left_shaped
    have right_reads := reads_of_spelled right right_shaped
    refine .of_readAt (.binary left is_op right) shaped most ?_
    change ReadAt op.level _ _
    rw [level]
    exact readAt_binary level (left_reads.tight (by omega) (by omega)) is_op
      (right_reads.tight (by omega) (by omega))
  | _, _, .conditional condition is_question whenTrue is_colon whenFalse, shaped => by
    simp only [Expr.isShaped, Bool.and_eq_true, decide_eq_true_eq] at shaped
    obtain ⟨⟨⟨tight, c_shaped⟩, a_shaped⟩, b_shaped⟩ := shaped
    have condition_reads := reads_of_spelled condition c_shaped
    exact reads_conditional (condition_reads.tight tight (Nat.le_refl 9)) is_question
      (reads_of_spelled whenTrue a_shaped) is_colon (reads_of_spelled whenFalse b_shaped)
  | _, _, .assign target is_op value, shaped => by
    simp only [Expr.isShaped, Bool.and_eq_true] at shaped
    obtain ⟨⟨assignable, target_shaped⟩, value_shaped⟩ := shaped
    have target_reads := reads_of_spelled target target_shaped
    have tight := Nat.le_trans (level_of_isAssignable assignable) (by decide : 1 ≤ 9)
    exact reads_assign assignable (target_reads.tight tight (Nat.le_refl 9)) is_op
      (reads_of_spelled value value_shaped)

/-- Arguments, at least one, are read up to the parenthesis. -/
theorem someArguments_of_spelled : ∀ {trailing : Bool} {es : List Expr} {ts : List Token},
    ItemsSpelled trailing es ts → trailing = false → es ≠ [] → areShaped es = true →
    ∀ {close : Token}, close.kind = .symbol .rightParen → ∀ rest,
    Yields (someArguments (ts ++ close :: rest)) es (close :: rest)
  | _, _, _, .nil, _, some_, _, _, _, _ => absurd rfl some_
  | _, _, _, .one spelled, _, _, shaped, _, is_close, rest => by
    simp only [areShaped, Bool.and_eq_true] at shaped
    exact yields_someArguments_one (reads_of_spelled spelled shaped.1) is_close rest
  | _, _, _, .cons spelled is_comma others more, strict, _, shaped, _, is_close, rest => by
    simp only [areShaped, Bool.and_eq_true] at shaped
    have some_ := more.resolve_left (by rw [strict]; decide)
    have others_read := someArguments_of_spelled others strict some_ shaped.2 is_close rest
    rw [List.append_assoc]
    exact yields_someArguments_cons (reads_of_spelled spelled shaped.1) is_comma others_read

/-- Elements are read up to the bracket. -/
theorem elements_of_spelled : ∀ {trailing : Bool} {es : List Expr} {ts : List Token},
    ItemsSpelled trailing es ts → areShaped es = true →
    ∀ {close : Token}, close.kind = .symbol .rightBracket → ∀ rest,
    Yields (elements (ts ++ close :: rest)) es (close :: rest)
  | _, _, _, .nil, _, _, is_close, rest => yields_elements_nil is_close rest
  | _, _, _, .one spelled, shaped, _, is_close, rest => by
    simp only [areShaped, Bool.and_eq_true] at shaped
    exact yields_elements_one spelled (reads_of_spelled spelled shaped.1) is_close rest
  | _, _, _, .cons spelled is_comma others _, shaped, _, is_close, rest => by
    simp only [areShaped, Bool.and_eq_true] at shaped
    have others_read := elements_of_spelled others shaped.2 is_close rest
    rw [List.append_assoc]
    exact yields_elements_cons spelled (reads_of_spelled spelled shaped.1) is_comma others_read

/-- Properties are read up to the brace. -/
theorem properties_of_spelled : ∀ {ps : List (String × Expr)} {ts : List Token},
    PropertiesSpelled ps ts → propertiesShaped ps = true →
    ∀ {close : Token}, close.kind = .symbol .rightBrace → ∀ rest,
    Yields (properties (ts ++ close :: rest)) ps (close :: rest)
  | _, _, .nil, _, _, is_close, rest => yields_properties_nil is_close rest
  | _, _, .one keyed is_colon spelled, shaped, _, is_close, rest => by
    simp only [propertiesShaped, Bool.and_eq_true] at shaped
    exact yields_properties_one keyed is_colon (reads_of_spelled spelled shaped.1) is_close rest
  | _, _, .cons keyed is_colon spelled is_comma others, shaped, _, is_close, rest => by
    simp only [propertiesShaped, Bool.and_eq_true] at shaped
    have others_read := properties_of_spelled others shaped.2 is_close rest
    rw [List.append_assoc]
    exact yields_properties_cons keyed is_colon (reads_of_spelled spelled shaped.1) is_comma
      others_read

/-- What follows the keyword of a function is read as the function. -/
theorem functionRest_of_spelled : ∀ {start : Span} {f : Function} {ts : List Token},
    f.Spelled start ts → f.isShaped = true → ∀ rest,
    Yields (functionRest start (ts ++ rest)) f rest
  | _, _, _, .mk named is_open params is_close returns is_left body is_right, shaped, rest => by
    have body_read := (body_of_spelled body shaped).block is_right
    exact yields_functionRest named is_open params is_close returns is_left body_read is_right rest

/-- The tokens of a well-shaped statement are read as it. -/
theorem stmt_of_spelled : ∀ {s : Stmt} {ts : List Token}, s.Spelled ts → s.isShaped = true →
    ReadsStmt s ts
  | _, _, .block is_left body is_right, shaped =>
    readsStmt_block is_left ((body_of_spelled body shaped).block is_right) is_right
  | _, _, .declare is_word is_name annotated_ is_stop, _ =>
    readsStmt_declare is_word is_name annotated_ is_stop
  | _, _, .declareWith is_word is_name declared is_equal init is_stop, shaped => by
    simp only [Stmt.isShaped, Bool.and_eq_true] at shaped
    exact readsStmt_declareWith is_word is_name declared is_equal (reads_of_spelled init shaped.2)
      is_stop
  | _, _, .constant is_word is_name declared is_equal init is_stop, shaped => by
    simp only [Stmt.isShaped, Bool.and_eq_true] at shaped
    exact readsStmt_constant is_word is_name declared is_equal (reads_of_spelled init shaped.2)
      is_stop
  | _, _, .expr spelled is_stop, shaped => by
    simp only [Stmt.isShaped, Bool.and_eq_true, Bool.or_eq_true, Bool.not_eq_true'] at shaped
    exact readsStmt_of_expr spelled shaped.2 (reads_of_spelled spelled shaped.1) is_stop
  | _, _, .print is_word spelled is_stop, shaped =>
    readsStmt_print is_word (reads_of_spelled spelled shaped) is_stop
  | _, _, .if_ is_word is_open condition is_close branch, shaped => by
    simp only [Stmt.isShaped, Bool.and_eq_true, Bool.not_eq_true'] at shaped
    obtain ⟨⟨c_shaped, plain⟩, a_shaped⟩ := shaped
    exact readsStmt_if is_word is_open (reads_of_spelled condition c_shaped) is_close plain
      (stmt_of_spelled branch a_shaped)
  | _, _, .ifElse is_word is_open condition is_close first is_else second, shaped => by
    simp only [Stmt.isShaped, Bool.and_eq_true, Bool.not_eq_true'] at shaped
    obtain ⟨⟨⟨⟨⟨c_shaped, plain⟩, a_shaped⟩, not_open⟩, plain'⟩, b_shaped⟩ := shaped
    exact readsStmt_ifElse is_word is_open (reads_of_spelled condition c_shaped) is_close plain
      not_open (stmt_of_spelled first a_shaped) is_else plain' (stmt_of_spelled second b_shaped)
  | _, _, .while_ is_word is_open condition is_close round, shaped => by
    simp only [Stmt.isShaped, Bool.and_eq_true, Bool.not_eq_true'] at shaped
    obtain ⟨⟨c_shaped, plain⟩, body_shaped⟩ := shaped
    exact readsStmt_while is_word is_open (reads_of_spelled condition c_shaped) is_close plain
      (stmt_of_spelled round body_shaped)
  | _, _, .for_ is_word is_open start condition is_stop update is_close round, shaped => by
    simp only [Stmt.isShaped, Bool.and_eq_true, Bool.not_eq_true'] at shaped
    obtain ⟨⟨⟨⟨init_shaped, c_shaped⟩, update_shaped⟩, plain⟩, body_shaped⟩ := shaped
    exact readsStmt_for is_word is_open (init_of_spelled start init_shaped)
      (optional_of_spelled condition c_shaped) is_stop (optional_of_spelled update update_shaped)
      is_close plain (stmt_of_spelled round body_shaped)
  | _, _, .break_ is_word is_stop, _ => readsStmt_break is_word is_stop
  | _, _, .continue_ is_word is_stop, _ => readsStmt_continue is_word is_stop
  | _, _, .return_ is_word value is_stop, shaped =>
    readsStmt_return is_word (optional_of_spelled value shaped) is_stop
  | _, _, .function is_word inner, shaped => by
    simp only [Stmt.isShaped, Bool.and_eq_true] at shaped
    exact readsStmt_function is_word shaped.1 (functionRest_of_spelled inner shaped.2)

/-- The first clause of a loop is read. -/
theorem init_of_spelled : ∀ {init : Option Stmt} {ts : List Token}, InitSpelled init ts →
    initShaped init = true → ∀ rest, Yields (forInit (ts ++ rest)) init rest
  | _, _, .missing is_stop, _, rest => yields_forInit_none is_stop rest
  | _, _, .expr spelled is_stop, shaped, rest =>
    yields_forInit_expr spelled (reads_of_spelled spelled shaped) is_stop rest
  | _, _, .variable_ variable_ spelled, shaped, _ =>
    (stmt_of_spelled spelled (initShaped_of_isVariable variable_ ▸ shaped)).init variable_

/-- An expression that may be missing is read. -/
theorem optional_of_spelled : ∀ {e : Option Expr} {ts : List Token}, OptionalSpelled e ts →
    optionalShaped e = true → ReadsOptional e ts
  | _, _, .missing, _ => readsOptional_none
  | _, _, .given spelled, shaped => readsOptional_some spelled (reads_of_spelled spelled shaped)

/-- Statements in a row are read. -/
theorem body_of_spelled : ∀ {ss : List Stmt} {ts : List Token}, BodySpelled ss ts →
    allShaped ss = true → ReadsBody ss ts
  | _, _, .nil, _ => readsBody_nil
  | _, _, .cons spelled others, shaped => by
    simp only [allShaped, Bool.and_eq_true] at shaped
    exact readsBody_cons spelled (stmt_of_spelled spelled shaped.1)
      (body_of_spelled others shaped.2)

end

end Scriptlet.Parser

namespace Scriptlet

/-- The tokens that spell a well-shaped program are parsed as it. -/
theorem parseProgram_of_spelled {p : Program} {tokens : List Token} (shaped : p.isShaped = true)
    (spelled : p.Spelled (Parser.body tokens)) : parseProgram tokens = .ok p := by
  unfold parseProgram
  rw [(Parser.body_of_spelled spelled shaped).program]

end Scriptlet
