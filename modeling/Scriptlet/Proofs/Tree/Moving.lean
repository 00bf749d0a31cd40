import Scriptlet.Tree.Phrase
import Scriptlet.Proofs.Tree.Lockstep
import Scriptlet.Proofs.Tree.Completeness

/-!
# Moved tokens

A *move* changes where tokens lie but not what they say, and it keeps merges of spans.  If some
tokens spell a tree, the moved ones spell it with its spans moved (`Stmt.Spelled.map`).  The shape
of a tree does not depend on its spans, so a moved tree is as well shaped.
-/

namespace Scriptlet

/-! ## Moves -/

/-- A change of spans, with the change of tokens that goes with it. -/
structure Move where
  /-- Where a span goes. -/
  span : Span → Span
  /-- The token that a token becomes. -/
  token : Token → Token
  kind (t : Token) : (token t).kind = t.kind
  lexeme (t : Token) : (token t).lexeme = t.lexeme
  literal (t : Token) : (token t).literal = t.literal
  span_token (t : Token) : (token t).span = span t.span
  merge (a b : Span) : span (a.merge b) = (span a).merge (span b)

namespace Move

variable (m : Move) {t : Token}

attribute [simp] kind lexeme span_token merge

/-- A moved token is of the same kind. -/
theorem of_kind {m : Move} {k : Kind} (is_k : t.kind = k) : (m.token t).kind = k :=
  (m.kind t).trans is_k

@[simp] theorem isUnterminated (t : Token) : (m.token t).isUnterminated = t.isUnterminated := by
  rw [Token.isUnterminated, Token.isUnterminated, m.literal]

@[simp] theorem numberOf (t : Token) : Parser.numberOf (m.token t) = Parser.numberOf t := by
  rw [Parser.numberOf, Parser.numberOf, m.literal, m.lexeme]

@[simp] theorem stringOf (t : Token) : Parser.stringOf (m.token t) = Parser.stringOf t := by
  rw [Parser.stringOf, Parser.stringOf, m.literal, m.lexeme]

/-- The parser cannot tell a moved token from the one it was. -/
theorem like (t : Token) : (m.token t).Like t :=
  ⟨m.kind t, fun _ => m.lexeme t, fun _ => m.numberOf t, fun _ => m.stringOf t,
    fun _ => m.isUnterminated t⟩

end Move

/-! ## Trees with other spans -/

section

variable (f : Span → Span)

@[simp] theorem Function.span_mapSpans (g : Function) : (g.mapSpans f).span = f g.span := by
  cases g with
  | mk => rfl

@[simp] theorem Expr.span_mapSpans (e : Expr) : (e.mapSpans f).span = f e.span := by
  cases e with
  | function g => exact g.span_mapSpans f
  | number | string | boolean | null | identifier | group | array | object | member | index
  | call | unary | stepAfter | binary | conditional | assign => rfl

@[simp] theorem Stmt.span_mapSpans (s : Stmt) : (s.mapSpans f).span = f s.span := by
  cases s with
  | function g => exact g.span_mapSpans f
  | block | declare | constant | expr | print | if_ | while_ | for_ | break_ | continue_
  | return_ => rfl

@[simp] theorem Stmt.isVariable_mapSpans (s : Stmt) : (s.mapSpans f).isVariable = s.isVariable := by
  cases s <;> rfl

theorem mapItems_eq_nil {es : List Expr} : mapItems f es = [] ↔ es = [] := by
  cases es <;> simp [mapItems]

mutual

/-- Without spans, a tree with other spans is the same. -/
theorem Expr.bare_mapSpans : ∀ e : Expr, (e.mapSpans f).bare = e.bare
  | .number _ _ | .string _ _ | .boolean _ _ | .null _ | .identifier _ _ => rfl
  | .group e _ | .member e _ _ | .unary _ e _ | .stepAfter _ e _ => by
    simp only [Expr.mapSpans, Expr.bare, Expr.bare_mapSpans e]
  | .array es _ => by simp only [Expr.mapSpans, Expr.bare, bare_mapItems es]
  | .object ps _ => by simp only [Expr.mapSpans, Expr.bare, bare_mapProperties ps]
  | .function g => by simp only [Expr.mapSpans, Expr.bare, Function.bare_mapSpans g]
  | .index e k _ => by
    simp only [Expr.mapSpans, Expr.bare, Expr.bare_mapSpans e, Expr.bare_mapSpans k]
  | .call c args _ => by
    simp only [Expr.mapSpans, Expr.bare, Expr.bare_mapSpans c, bare_mapItems args]
  | .binary _ l r _ => by
    simp only [Expr.mapSpans, Expr.bare, Expr.bare_mapSpans l, Expr.bare_mapSpans r]
  | .conditional c a b _ => by
    simp only [Expr.mapSpans, Expr.bare, Expr.bare_mapSpans c, Expr.bare_mapSpans a,
      Expr.bare_mapSpans b]
  | .assign _ t v _ => by
    simp only [Expr.mapSpans, Expr.bare, Expr.bare_mapSpans t, Expr.bare_mapSpans v]

theorem bare_mapItems : ∀ es : List Expr, bareAll (mapItems f es) = bareAll es
  | [] => rfl
  | e :: es => by simp only [mapItems, bareAll, Expr.bare_mapSpans e, bare_mapItems es]

theorem bare_mapProperties : ∀ ps : List (String × Expr),
    bareProperties (mapProperties f ps) = bareProperties ps
  | [] => rfl
  | (_, e) :: ps => by
    simp only [mapProperties, bareProperties, Expr.bare_mapSpans e, bare_mapProperties ps]

theorem Function.bare_mapSpans : ∀ g : Function, (g.mapSpans f).bare = g.bare
  | .mk _ _ _ body _ => by
    simp only [Function.mapSpans, Function.bare, bare_mapBody body, List.map_map]
    rfl

theorem Stmt.bare_mapSpans : ∀ s : Stmt, (s.mapSpans f).bare = s.bare
  | .block body _ => by simp only [Stmt.mapSpans, Stmt.bare, bare_mapBody body]
  | .declare _ _ _ init _ => by simp only [Stmt.mapSpans, Stmt.bare, bare_mapOptional init]
  | .constant _ _ init _ => by simp only [Stmt.mapSpans, Stmt.bare, Expr.bare_mapSpans init]
  | .expr e _ | .print e _ => by simp only [Stmt.mapSpans, Stmt.bare, Expr.bare_mapSpans e]
  | .if_ c a b _ => by
    simp only [Stmt.mapSpans, Stmt.bare, Expr.bare_mapSpans c, Stmt.bare_mapSpans a,
      bare_mapStatement b]
  | .while_ c body _ => by
    simp only [Stmt.mapSpans, Stmt.bare, Expr.bare_mapSpans c, Stmt.bare_mapSpans body]
  | .for_ init c update body _ => by
    simp only [Stmt.mapSpans, Stmt.bare, bare_mapStatement init, bare_mapOptional c,
      bare_mapOptional update, Stmt.bare_mapSpans body]
  | .break_ _ | .continue_ _ => rfl
  | .return_ value _ => by simp only [Stmt.mapSpans, Stmt.bare, bare_mapOptional value]
  | .function g => by simp only [Stmt.mapSpans, Stmt.bare, Function.bare_mapSpans g]

theorem bare_mapStatement : ∀ s : Option Stmt, bareStatement? (mapStatement f s) = bareStatement? s
  | none => rfl
  | some s => by simp only [mapStatement, bareStatement?, Stmt.bare_mapSpans s]

theorem bare_mapOptional : ∀ e : Option Expr, bareOptional (mapOptional f e) = bareOptional e
  | none => rfl
  | some e => by simp only [mapOptional, bareOptional, Expr.bare_mapSpans e]

theorem bare_mapBody : ∀ ss : List Stmt, bareStatements (mapBody f ss) = bareStatements ss
  | [] => rfl
  | s :: ss => by simp only [mapBody, bareStatements, Stmt.bare_mapSpans s, bare_mapBody ss]

end

/-- The type of an initializer does not depend on spans. -/
@[simp] theorem Expr.infer_mapSpans (e : Expr) :
    TypeName.infer (e.mapSpans f) = TypeName.infer e :=
  Parser.infer_eq (e.bare_mapSpans f)

/-- A statement with other spans is as well shaped. -/
theorem Stmt.isShaped_mapSpans (s : Stmt) : (s.mapSpans f).isShaped = s.isShaped := by
  rw [← Stmt.isShaped_bare, s.bare_mapSpans, Stmt.isShaped_bare]

end

/-! ## Moved tokens spell moved trees -/

section

variable {m : Move}

theorem Annotated.map {type : Option TypeName} {ts : List Token} (spelled : Annotated type ts) :
    Annotated type (ts.map m.token) := by
  cases spelled with
  | missing => exact .missing
  | given is_colon is_type => exact .given (m.of_kind is_colon) (m.of_kind is_type)

theorem Declared.map {init : Expr} {type : Option TypeName} {ts : List Token}
    (spelled : Declared init type ts) :
    Declared (init.mapSpans m.span) type (ts.map m.token) := by
  cases spelled with
  | given annotated => exact .given annotated.map
  | inferred =>
    rw [← Expr.infer_mapSpans m.span]
    exact .inferred

/-- The span of a parameter is that of its name, which moves along. -/
theorem Param.Spelled.map {p : Param} {ts : List Token} (spelled : p.Spelled ts) :
    Param.Spelled { p with span := m.span p.span } (ts.map m.token) := by
  cases spelled with
  | mk is_name annotated =>
    simpa using Param.Spelled.mk (m.of_kind is_name) annotated.map

theorem ParamsSpelled.map {ps : List Param} {ts : List Token} (spelled : ParamsSpelled ps ts) :
    ParamsSpelled (ps.map fun p => { p with span := m.span p.span }) (ts.map m.token) := by
  induction spelled with
  | nil => exact .nil
  | one first => exact .one first.map
  | cons first is_comma _ more ih =>
    rw [List.map_append]
    exact .cons first.map (m.of_kind is_comma) ih (List.map_eq_nil_iff.not.mpr more)

theorem Named.map {name : Option String} {ts : List Token} (spelled : Named name ts) :
    Named name (ts.map m.token) := by
  cases spelled with
  | missing => exact .missing
  | given is_name => simpa using Named.given (m.of_kind is_name)

theorem Keyed.map {name : String} {t : Token} (keyed : Keyed name t) :
    Keyed name (m.token t) := by
  cases keyed with
  | identifier is_name => simpa using Keyed.identifier (m.of_kind is_name)
  | string is_string closed =>
    simpa using Keyed.string (m.of_kind is_string) ((m.isUnterminated t).trans closed)

mutual

/-- Moved tokens spell the expression with its spans moved.  Merged spans move as their parts do.
-/
theorem Expr.Spelled.map : ∀ {e : Expr} {ts : List Token}, e.Spelled ts →
    (e.mapSpans m.span).Spelled (ts.map m.token)
  | _, _, .number is_number => by
    simpa [Expr.mapSpans] using Expr.Spelled.number (m.of_kind is_number)
  | _, _, .string is_string closed => by
    simpa [Expr.mapSpans] using
      Expr.Spelled.string (m.of_kind is_string) ((m.isUnterminated _).trans closed)
  | _, _, .true_ is_word => by
    simpa [Expr.mapSpans] using Expr.Spelled.true_ (m.of_kind is_word)
  | _, _, .false_ is_word => by
    simpa [Expr.mapSpans] using Expr.Spelled.false_ (m.of_kind is_word)
  | _, _, .null is_word => by
    simpa [Expr.mapSpans] using Expr.Spelled.null (m.of_kind is_word)
  | _, _, .identifier is_name => by
    simpa [Expr.mapSpans] using Expr.Spelled.identifier (m.of_kind is_name)
  | _, _, .group is_open inner is_close => by
    simpa [Expr.mapSpans] using
      Expr.Spelled.group (m.of_kind is_open) inner.map (m.of_kind is_close)
  | _, _, .array is_open items is_close => by
    simpa [Expr.mapSpans] using
      Expr.Spelled.array (m.of_kind is_open) items.map (m.of_kind is_close)
  | _, _, .object is_open items is_close => by
    simpa [Expr.mapSpans] using
      Expr.Spelled.object (m.of_kind is_open) items.map (m.of_kind is_close)
  | _, _, .function is_word inner => by
    simpa [Expr.mapSpans] using
      Expr.Spelled.function (m.of_kind is_word) (by simpa using inner.map)
  | _, _, .member first is_dot is_name => by
    simpa [Expr.mapSpans] using
      Expr.Spelled.member first.map (m.of_kind is_dot) (m.of_kind is_name)
  | _, _, .index first is_open key is_close => by
    simpa [Expr.mapSpans] using
      Expr.Spelled.index first.map (m.of_kind is_open) key.map (m.of_kind is_close)
  | _, _, .call first is_open items is_close => by
    simpa [Expr.mapSpans] using
      Expr.Spelled.call first.map (m.of_kind is_open) items.map (m.of_kind is_close)
  | _, _, .unary is_op operand => by
    simpa [Expr.mapSpans] using Expr.Spelled.unary (m.of_kind is_op) operand.map
  | _, _, .stepAfter operand is_op => by
    simpa [Expr.mapSpans] using Expr.Spelled.stepAfter operand.map (m.of_kind is_op)
  | _, _, .binary left is_op right => by
    simpa [Expr.mapSpans] using Expr.Spelled.binary left.map (m.of_kind is_op) right.map
  | _, _, .conditional c is_question a is_colon b => by
    simpa [Expr.mapSpans] using
      Expr.Spelled.conditional c.map (m.of_kind is_question) a.map (m.of_kind is_colon) b.map
  | _, _, .assign target is_op value => by
    simpa [Expr.mapSpans] using Expr.Spelled.assign target.map (m.of_kind is_op) value.map

theorem ItemsSpelled.map : ∀ {trailing : Bool} {es : List Expr} {ts : List Token},
    ItemsSpelled trailing es ts → ItemsSpelled trailing (mapItems m.span es) (ts.map m.token)
  | _, _, _, .nil => .nil
  | _, _, _, .one spelled => .one spelled.map
  | _, _, _, .cons spelled is_comma others more => by
    rw [List.map_append]
    exact .cons spelled.map (m.of_kind is_comma) others.map
      (more.imp_right (mapItems_eq_nil m.span).not.mpr)

theorem PropertiesSpelled.map : ∀ {ps : List (String × Expr)} {ts : List Token},
    PropertiesSpelled ps ts → PropertiesSpelled (mapProperties m.span ps) (ts.map m.token)
  | _, _, .nil => .nil
  | _, _, .one keyed is_colon spelled => .one keyed.map (m.of_kind is_colon) spelled.map
  | _, _, .cons keyed is_colon spelled is_comma others => by
    rw [List.map_append]
    exact .cons keyed.map (m.of_kind is_colon) spelled.map (m.of_kind is_comma) others.map

/-- The span of a function starts at its first word, which moves along. -/
theorem Function.Spelled.map : ∀ {start : Span} {f : Function} {ts : List Token},
    f.Spelled start ts → (f.mapSpans m.span).Spelled (m.span start) (ts.map m.token)
  | _, _, _, .mk named is_open params is_close returns is_left body is_right => by
    simpa [Function.mapSpans] using
      Function.Spelled.mk named.map (m.of_kind is_open) params.map (m.of_kind is_close)
        returns.map (m.of_kind is_left) body.map (m.of_kind is_right)

/-- Moved tokens spell the statement with its spans moved. -/
theorem Stmt.Spelled.map : ∀ {s : Stmt} {ts : List Token}, s.Spelled ts →
    (s.mapSpans m.span).Spelled (ts.map m.token)
  | _, _, .block is_left body is_right => by
    simpa [Stmt.mapSpans] using
      Stmt.Spelled.block (m.of_kind is_left) body.map (m.of_kind is_right)
  | _, _, .declare is_word is_name annotated is_stop => by
    simpa [Stmt.mapSpans, mapOptional] using
      Stmt.Spelled.declare (m.of_kind is_word) (m.of_kind is_name) annotated.map
        (m.of_kind is_stop)
  | _, _, .declareWith is_word is_name declared is_equal init is_stop => by
    simpa [Stmt.mapSpans, mapOptional] using
      Stmt.Spelled.declareWith (m.of_kind is_word) (m.of_kind is_name) declared.map
        (m.of_kind is_equal) init.map (m.of_kind is_stop)
  | _, _, .constant is_word is_name declared is_equal init is_stop => by
    simpa [Stmt.mapSpans] using
      Stmt.Spelled.constant (m.of_kind is_word) (m.of_kind is_name) declared.map
        (m.of_kind is_equal) init.map (m.of_kind is_stop)
  | _, _, .expr e is_stop => by
    simpa [Stmt.mapSpans] using Stmt.Spelled.expr e.map (m.of_kind is_stop)
  | _, _, .print is_word e is_stop => by
    simpa [Stmt.mapSpans] using
      Stmt.Spelled.print (m.of_kind is_word) e.map (m.of_kind is_stop)
  | _, _, .if_ is_word is_open c is_close a => by
    simpa [Stmt.mapSpans, mapStatement] using
      Stmt.Spelled.if_ (m.of_kind is_word) (m.of_kind is_open) c.map (m.of_kind is_close) a.map
  | _, _, .ifElse is_word is_open c is_close a is_else b => by
    simpa [Stmt.mapSpans, mapStatement] using
      Stmt.Spelled.ifElse (m.of_kind is_word) (m.of_kind is_open) c.map (m.of_kind is_close)
        a.map (m.of_kind is_else) b.map
  | _, _, .while_ is_word is_open c is_close body => by
    simpa [Stmt.mapSpans] using
      Stmt.Spelled.while_ (m.of_kind is_word) (m.of_kind is_open) c.map (m.of_kind is_close)
        body.map
  | _, _, .for_ is_word is_open init c is_stop update is_close body => by
    simpa [Stmt.mapSpans] using
      Stmt.Spelled.for_ (m.of_kind is_word) (m.of_kind is_open) init.map c.map
        (m.of_kind is_stop) update.map (m.of_kind is_close) body.map
  | _, _, .break_ is_word is_stop => by
    simpa [Stmt.mapSpans] using Stmt.Spelled.break_ (m.of_kind is_word) (m.of_kind is_stop)
  | _, _, .continue_ is_word is_stop => by
    simpa [Stmt.mapSpans] using Stmt.Spelled.continue_ (m.of_kind is_word) (m.of_kind is_stop)
  | _, _, .return_ is_word value is_stop => by
    simpa [Stmt.mapSpans] using
      Stmt.Spelled.return_ (m.of_kind is_word) value.map (m.of_kind is_stop)
  | _, _, .function is_word inner => by
    simpa [Stmt.mapSpans] using
      Stmt.Spelled.function (m.of_kind is_word) (by simpa using inner.map)

theorem InitSpelled.map : ∀ {init : Option Stmt} {ts : List Token}, InitSpelled init ts →
    InitSpelled (mapStatement m.span init) (ts.map m.token)
  | _, _, .missing is_stop => .missing (m.of_kind is_stop)
  | _, _, .expr e is_stop => by
    simpa [mapStatement, Stmt.mapSpans] using InitSpelled.expr e.map (m.of_kind is_stop)
  | _, _, .variable_ is_variable spelled =>
    .variable_ ((Stmt.isVariable_mapSpans m.span _).trans is_variable) spelled.map

theorem OptionalSpelled.map : ∀ {e : Option Expr} {ts : List Token}, OptionalSpelled e ts →
    OptionalSpelled (mapOptional m.span e) (ts.map m.token)
  | _, _, .missing => .missing
  | _, _, .given spelled => .given spelled.map

/-- Moved tokens spell all statements in a row. -/
theorem BodySpelled.map : ∀ {ss : List Stmt} {ts : List Token}, BodySpelled ss ts →
    BodySpelled (mapBody m.span ss) (ts.map m.token)
  | _, _, .nil => .nil
  | _, _, .cons spelled others => by
    rw [List.map_append]
    exact .cons spelled.map others.map

end

end

end Scriptlet
