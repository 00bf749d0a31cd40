import Scriptlet.Proofs.Tree.Completeness
import Scriptlet.Proofs.Tree.Counting
import Scriptlet.Tree.Render

/-!
# Parsing undoes rendering

What is rendered has no places, so parsing it gives a tree without spans.  A
tree without its spans has the same shape as before (`Expr.isShaped_bare`), and
its glyphs spell it (`Expr.spelled_render`).
-/

namespace Scriptlet

/-! ## Trees without spans -/

namespace Expr

theorem level_bare (e : Expr) : e.bare.level = e.level := by
  cases e <;> rfl

theorem span_bare (e : Expr) : e.bare.span = default := by
  cases e with
  | function f => cases f; rfl
  | number | string | boolean | null | identifier | group | array | object | member | index
  | call | unary | stepAfter | binary | conditional | assign => rfl

theorem isAssignable_bare (e : Expr) : e.bare.isAssignable = e.isAssignable := by
  cases e <;> rfl

theorem isAnonymous_bare (e : Expr) : e.bare.isAnonymous = e.isAnonymous := by
  cases e with
  | function f => cases f; rfl
  | number | string | boolean | null | identifier | group | array | object | member | index
  | call | unary | stepAfter | binary | conditional | assign => rfl

/-- How an expression starts does not depend on spans. -/
theorem opensLikeStatement_bare : ∀ e : Expr, e.bare.opensLikeStatement = e.opensLikeStatement
  | .number _ _ | .string _ _ | .boolean _ _ | .null _ | .identifier _ _ | .group _ _
  | .array _ _ | .object _ _ | .function _ | .unary _ _ _ => rfl
  | .member e _ _ | .index e _ _ | .call e _ _ | .stepAfter _ e _ | .binary _ e _ _
  | .conditional e _ _ _ | .assign _ e _ _ => opensLikeStatement_bare e

end Expr

namespace Stmt

theorem span_bare (s : Stmt) : s.bare.span = default := by
  cases s with
  | function f => cases f; rfl
  | block | declare | constant | expr | print | if_ | while_ | for_ | break_ | continue_
  | return_ => rfl

theorem isVariable_bare (s : Stmt) : s.bare.isVariable = s.isVariable := by
  cases s <;> rfl

/-- Whether a statement could take a second branch does not depend on spans. -/
theorem endsOpen_bare : ∀ s : Stmt, s.bare.endsOpen = s.endsOpen
  | .if_ _ _ none _ => rfl
  | .if_ _ _ (some s) _ | .while_ _ s _ | .for_ _ _ _ s _ => endsOpen_bare s
  | .block _ _ | .declare _ _ _ _ _ | .constant _ _ _ _ | .expr _ _ | .print _ _ | .break_ _
  | .continue_ _ | .return_ _ _ | .function _ => rfl

end Stmt

mutual

/-- The shape of an expression does not depend on spans. -/
theorem Expr.isShaped_bare : ∀ e : Expr, e.bare.isShaped = e.isShaped
  | .number _ _ | .string _ _ | .boolean _ _ | .null _ | .identifier _ _ => rfl
  | .group e _ => Expr.isShaped_bare e
  | .array es _ => areShaped_bare es
  | .object ps _ => propertiesShaped_bare ps
  | .function f => Function.isShaped_bare f
  | .member e _ _ => by simp only [Expr.bare, Expr.isShaped, Expr.level_bare, Expr.isShaped_bare e]
  | .index e k _ => by
    simp only [Expr.bare, Expr.isShaped, Expr.level_bare, Expr.isShaped_bare e,
      Expr.isShaped_bare k]
  | .call e args _ => by
    simp only [Expr.bare, Expr.isShaped, Expr.level_bare, Expr.isShaped_bare e, areShaped_bare args]
  | .unary _ e _ => by simp only [Expr.bare, Expr.isShaped, Expr.level_bare, Expr.isShaped_bare e]
  | .stepAfter _ e _ => by
    simp only [Expr.bare, Expr.isShaped, Expr.level_bare, Expr.isShaped_bare e]
  | .binary _ l r _ => by
    simp only [Expr.bare, Expr.isShaped, Expr.level_bare, Expr.isShaped_bare l,
      Expr.isShaped_bare r]
  | .conditional c a b _ => by
    simp only [Expr.bare, Expr.isShaped, Expr.level_bare, Expr.isShaped_bare c,
      Expr.isShaped_bare a, Expr.isShaped_bare b]
  | .assign _ t v _ => by
    simp only [Expr.bare, Expr.isShaped, Expr.isAssignable_bare, Expr.isShaped_bare t,
      Expr.isShaped_bare v]

theorem areShaped_bare : ∀ es : List Expr, areShaped (bareAll es) = areShaped es
  | [] => rfl
  | e :: es => by simp only [bareAll, areShaped, Expr.isShaped_bare e, areShaped_bare es]

theorem propertiesShaped_bare : ∀ ps : List (String × Expr),
    propertiesShaped (bareProperties ps) = propertiesShaped ps
  | [] => rfl
  | (_, e) :: ps => by
    simp only [bareProperties, propertiesShaped, Expr.isShaped_bare e, propertiesShaped_bare ps]

theorem Function.isShaped_bare : ∀ f : Function, f.bare.isShaped = f.isShaped
  | .mk _ _ _ body _ => allShaped_bare body

theorem Stmt.isShaped_bare : ∀ s : Stmt, s.bare.isShaped = s.isShaped
  | .block body _ => allShaped_bare body
  | .declare _ _ _ none _ | .break_ _ | .continue_ _ => rfl
  | .declare _ _ _ (some init) _ => by
    simp only [Stmt.bare, bareOptional, Stmt.isShaped, Expr.isShaped_bare init]
  | .constant _ _ init _ => by simp only [Stmt.bare, Stmt.isShaped, Expr.isShaped_bare init]
  | .expr e _ => by
    simp only [Stmt.bare, Stmt.isShaped, Expr.isShaped_bare e, Expr.opensLikeStatement_bare,
      Expr.isAnonymous_bare]
  | .print e _ => Expr.isShaped_bare e
  | .if_ c a none _ => by
    simp only [Stmt.bare, bareStatement?, Stmt.isShaped, Stmt.isVariable_bare, Expr.isShaped_bare c,
      Stmt.isShaped_bare a]
  | .if_ c a (some b) _ => by
    simp only [Stmt.bare, bareStatement?, Stmt.isShaped, Stmt.isVariable_bare, Stmt.endsOpen_bare,
      Expr.isShaped_bare c, Stmt.isShaped_bare a, Stmt.isShaped_bare b]
  | .while_ c body _ => by
    simp only [Stmt.bare, Stmt.isShaped, Stmt.isVariable_bare, Expr.isShaped_bare c,
      Stmt.isShaped_bare body]
  | .for_ init c update body _ => by
    simp only [Stmt.bare, Stmt.isShaped, Stmt.isVariable_bare, initShaped_bare init,
      optionalShaped_bare c, optionalShaped_bare update, Stmt.isShaped_bare body]
  | .return_ value _ => optionalShaped_bare value
  | .function (.mk _ _ _ body _) => by
    simp only [Stmt.bare, Function.bare, Stmt.isShaped, Function.isShaped, Function.name,
      allShaped_bare body]

theorem initShaped_bare : ∀ s : Option Stmt, initShaped (bareStatement? s) = initShaped s
  | none => rfl
  | some (.expr e _) => Expr.isShaped_bare e
  | some (.declare word name type init span) =>
    Stmt.isShaped_bare (.declare word name type init span)
  | some (.constant name type init span) => Stmt.isShaped_bare (.constant name type init span)
  | some (.block _ _) | some (.print _ _) | some (.if_ _ _ _ _) | some (.while_ _ _ _)
  | some (.for_ _ _ _ _ _) | some (.break_ _) | some (.continue_ _) | some (.return_ _ _)
  | some (.function _) => rfl

theorem optionalShaped_bare : ∀ e : Option Expr,
    optionalShaped (bareOptional e) = optionalShaped e
  | none => rfl
  | some e => Expr.isShaped_bare e

theorem allShaped_bare : ∀ ss : List Stmt, allShaped (bareStatements ss) = allShaped ss
  | [] => rfl
  | s :: ss => by simp only [bareStatements, allShaped, Stmt.isShaped_bare s, allShaped_bare ss]

end

/-- A program is as well shaped without its spans. -/
theorem Program.isShaped_bare (p : Program) : p.bare.isShaped = p.isShaped :=
  allShaped_bare p.body

/-! ## Glyphs spell trees -/

namespace Glyph

theorem kind_symbol (s : Symbol) : (Glyph.symbol s).token.kind = .symbol s := rfl

theorem kind_word (w : Word) : (Glyph.word w).token.kind = .word w := rfl

theorem kind_identifier (name : String) : (Glyph.identifier name).token.kind = .identifier := rfl

theorem kind_string (value : String) : (Glyph.string value).token.kind = .string := rfl

theorem kind_number (n : Number) : (Glyph.number n).token.kind = .number := rfl

end Glyph

open Glyph (kind_symbol kind_word kind_identifier kind_string kind_number)

/-- The tokens of glyphs. -/
def tokensOf (gs : List Glyph) : List Token := gs.map Glyph.token

/-- Rendered parts stand one behind the other. -/
theorem tokensOf_append (gs hs : List Glyph) : tokensOf (gs ++ hs) = tokensOf gs ++ tokensOf hs :=
  List.map_append

/-- A rendered type spells the annotation. -/
theorem annotated_render : ∀ type : Option TypeName, Annotated type (tokensOf (renderType type))
  | none => .missing
  | some type => .given (kind_symbol .colon) (kind_word type.word)

theorem declared_render (init : Expr) :
    ∀ {type : Option TypeName}, type.isSome = true →
      Declared init type (tokensOf (renderType type))
  | some type, _ => .given (annotated_render (some type))

theorem named_render : ∀ name : Option String, Named name (tokensOf (renderName name))
  | none => .missing
  | some name => .given (kind_identifier name)

/-- A parameter without its span. -/
def Param.bare (p : Param) : Param := { p with span := default }

theorem Param.spelled_render (p : Param) :
    p.bare.Spelled (tokensOf (.identifier p.name :: renderType p.type)) :=
  .mk (kind_identifier p.name) (annotated_render p.type)

/-- Rendered parameters have commas between them. -/
theorem params_render : ∀ ps : List Param,
    ParamsSpelled (ps.map Param.bare) (tokensOf (renderParams ps))
  | [] => .nil
  | [p] => .one p.spelled_render
  | p :: q :: ps => by
    have rest := params_render (q :: ps)
    rw [renderParams, tokensOf_append]
    · exact .cons p.spelled_render (kind_symbol .comma) rest (List.cons_ne_nil _ _)
    · exact nofun

mutual

/-- The rendering of a well-shaped expression spells it, up to spans. -/
theorem Expr.spelled_render : ∀ e : Expr, e.isShaped = true → e.bare.Spelled (tokensOf e.render)
  | .number n _, _ => Expr.Spelled.number (kind_number n)
  | .string s _, _ => Expr.Spelled.string (kind_string s) rfl
  | .boolean true _, _ => Expr.Spelled.true_ (kind_word .true_)
  | .boolean false _, _ => Expr.Spelled.false_ (kind_word .false_)
  | .null _, _ => Expr.Spelled.null (kind_word .null)
  | .identifier name _, _ => Expr.Spelled.identifier (kind_identifier name)
  | .group e _, shaped => by
    have spelled := Expr.Spelled.group (kind_symbol .leftParen) (Expr.spelled_render e shaped)
      (kind_symbol .rightParen)
    rw [Expr.render, tokensOf_append]
    exact spelled
  | .array es _, shaped => by
    have spelled := Expr.Spelled.array (kind_symbol .leftBracket) (items_render true es shaped)
      (kind_symbol .rightBracket)
    rw [Expr.render, tokensOf_append]
    exact spelled
  | .object ps _, shaped => by
    have spelled := Expr.Spelled.object (kind_symbol .leftBrace) (properties_render ps shaped)
      (kind_symbol .rightBrace)
    rw [Expr.render, tokensOf_append]
    exact spelled
  | .function f, shaped => Expr.Spelled.function (kind_word .function) (f.spelled_render shaped)
  | .member e property _, shaped => by
    rw [Expr.isShaped, Bool.and_eq_true] at shaped
    have spelled := Expr.Spelled.member (Expr.spelled_render e shaped.2) (kind_symbol .dot)
      (kind_identifier property)
    rw [Expr.span_bare] at spelled
    rw [Expr.render, tokensOf_append]
    exact spelled
  | .index e k _, shaped => by
    rw [Expr.isShaped, Bool.and_eq_true, Bool.and_eq_true] at shaped
    obtain ⟨⟨_, left⟩, right⟩ := shaped
    have spelled := Expr.Spelled.index (Expr.spelled_render e left) (kind_symbol .leftBracket)
      (Expr.spelled_render k right) (kind_symbol .rightBracket)
    rw [Expr.span_bare] at spelled
    rw [Expr.render, tokensOf_append, tokensOf_append]
    exact spelled
  | .call e args _, shaped => by
    rw [Expr.isShaped, Bool.and_eq_true, Bool.and_eq_true] at shaped
    obtain ⟨⟨_, left⟩, right⟩ := shaped
    have spelled := Expr.Spelled.call (Expr.spelled_render e left) (kind_symbol .leftParen)
      (items_render false args right) (kind_symbol .rightParen)
    rw [Expr.span_bare] at spelled
    rw [Expr.render, tokensOf_append, tokensOf_append]
    exact spelled
  | .unary op e _, shaped => by
    rw [Expr.isShaped, Bool.and_eq_true] at shaped
    have spelled := Expr.Spelled.unary (kind_symbol op.symbol) (Expr.spelled_render e shaped.2)
    rw [Expr.span_bare] at spelled
    exact spelled
  | .stepAfter op e _, shaped => by
    rw [Expr.isShaped, Bool.and_eq_true] at shaped
    have spelled := Expr.Spelled.stepAfter (Expr.spelled_render e shaped.2) (kind_symbol op.symbol)
    rw [Expr.span_bare] at spelled
    rw [Expr.render, tokensOf_append]
    exact spelled
  | .binary op l r _, shaped => by
    rw [Expr.isShaped, Bool.and_eq_true, Bool.and_eq_true] at shaped
    obtain ⟨⟨_, left⟩, right⟩ := shaped
    have spelled := Expr.Spelled.binary (Expr.spelled_render l left) (kind_symbol op.symbol)
      (Expr.spelled_render r right)
    rw [Expr.span_bare, Expr.span_bare] at spelled
    rw [Expr.render, tokensOf_append]
    exact spelled
  | .conditional c a b _, shaped => by
    simp only [Expr.isShaped, Bool.and_eq_true] at shaped
    obtain ⟨⟨⟨_, condition⟩, left⟩, right⟩ := shaped
    have spelled := Expr.Spelled.conditional (Expr.spelled_render c condition)
      (kind_symbol .question) (Expr.spelled_render a left) (kind_symbol .colon)
      (Expr.spelled_render b right)
    rw [Expr.span_bare, Expr.span_bare] at spelled
    rw [Expr.render, tokensOf_append, tokensOf_append]
    exact spelled
  | .assign op target value _, shaped => by
    rw [Expr.isShaped, Bool.and_eq_true, Bool.and_eq_true] at shaped
    obtain ⟨⟨_, left⟩, right⟩ := shaped
    have spelled := Expr.Spelled.assign (Expr.spelled_render target left) (kind_symbol op.symbol)
      (Expr.spelled_render value right)
    rw [Expr.span_bare, Expr.span_bare] at spelled
    rw [Expr.render, tokensOf_append]
    exact spelled

theorem items_render (trailing : Bool) : ∀ es : List Expr, areShaped es = true →
    ItemsSpelled trailing (bareAll es) (tokensOf (renderItems es))
  | [], _ => .nil
  | [e], shaped => by
    rw [areShaped, Bool.and_eq_true] at shaped
    exact .one (Expr.spelled_render e shaped.1)
  | e :: e' :: es, shaped => by
    rw [areShaped, Bool.and_eq_true] at shaped
    have rest := items_render trailing (e' :: es) shaped.2
    rw [renderItems, tokensOf_append]
    · exact .cons (Expr.spelled_render e shaped.1) (kind_symbol .comma) rest
        (.inr (List.cons_ne_nil _ _))
    · exact nofun

theorem properties_render : ∀ ps : List (String × Expr), propertiesShaped ps = true →
    PropertiesSpelled (bareProperties ps) (tokensOf (renderProperties ps))
  | [], _ => .nil
  | [(name, e)], shaped => by
    rw [propertiesShaped, Bool.and_eq_true] at shaped
    exact .one (.string (kind_string name) rfl) (kind_symbol .colon)
      (Expr.spelled_render e shaped.1)
  | (name, e) :: p :: ps, shaped => by
    rw [propertiesShaped, Bool.and_eq_true] at shaped
    have rest := properties_render (p :: ps) shaped.2
    rw [renderProperties, tokensOf_append]
    · exact .cons (.string (kind_string name) rfl) (kind_symbol .colon)
        (Expr.spelled_render e shaped.1) (kind_symbol .comma) rest
    · exact nofun

/-- The rendering of a function spells it, behind its first word and up to spans. -/
theorem Function.spelled_render : ∀ f : Function, f.isShaped = true →
    f.bare.Spelled default (tokensOf f.render)
  | .mk name params returns body _, shaped => by
    simp only [Function.render, tokensOf_append]
    exact .mk (named_render name) (kind_symbol .leftParen) (params_render params)
      (kind_symbol .rightParen) (annotated_render returns) (kind_symbol .leftBrace)
      (body_render body shaped) (kind_symbol .rightBrace)

/-- The rendering of a well-shaped statement spells it, up to spans. -/
theorem Stmt.spelled_render : ∀ s : Stmt, s.isShaped = true → s.bare.Spelled (tokensOf s.render)
  | .block body _, shaped => by
    have spelled := Stmt.Spelled.block (kind_symbol .leftBrace) (body_render body shaped)
      (kind_symbol .rightBrace)
    rw [Stmt.render, tokensOf_append]
    exact spelled
  | .declare word name type none _, _ => by
    have spelled := Stmt.Spelled.declare (kind_word word.word) (kind_identifier name)
      (annotated_render type) (kind_symbol .semicolon)
    rw [Stmt.render, tokensOf_append]
    exact spelled
  | .declare word name type (some init) _, shaped => by
    rw [Stmt.isShaped, Bool.and_eq_true] at shaped
    have spelled := Stmt.Spelled.declareWith (kind_word word.word) (kind_identifier name)
      (declared_render init.bare shaped.1) (kind_symbol .equal)
      (Expr.spelled_render init shaped.2) (kind_symbol .semicolon)
    rw [Stmt.render, tokensOf_append, tokensOf_append]
    exact spelled
  | .constant name type init _, shaped => by
    rw [Stmt.isShaped, Bool.and_eq_true] at shaped
    have spelled := Stmt.Spelled.constant (kind_word .const) (kind_identifier name)
      (declared_render init.bare shaped.1) (kind_symbol .equal)
      (Expr.spelled_render init shaped.2) (kind_symbol .semicolon)
    rw [Stmt.render, tokensOf_append, tokensOf_append]
    exact spelled
  | .expr e _, shaped => by
    rw [Stmt.isShaped, Bool.and_eq_true] at shaped
    have spelled := Stmt.Spelled.expr (Expr.spelled_render e shaped.1) (kind_symbol .semicolon)
    rw [Expr.span_bare] at spelled
    rw [Stmt.render, tokensOf_append]
    exact spelled
  | .print e _, shaped => by
    have spelled := Stmt.Spelled.print (kind_word .print) (Expr.spelled_render e shaped)
      (kind_symbol .semicolon)
    rw [Stmt.render, tokensOf_append]
    exact spelled
  | .if_ c a none _, shaped => by
    rw [Stmt.isShaped, Bool.and_eq_true, Bool.and_eq_true] at shaped
    obtain ⟨⟨condition, _⟩, first⟩ := shaped
    have spelled := Stmt.Spelled.if_ (kind_word .if_) (kind_symbol .leftParen)
      (Expr.spelled_render c condition) (kind_symbol .rightParen) (Stmt.spelled_render a first)
    rw [Stmt.span_bare] at spelled
    rw [Stmt.render, tokensOf_append]
    exact spelled
  | .if_ c a (some b) _, shaped => by
    simp only [Stmt.isShaped, Bool.and_eq_true] at shaped
    obtain ⟨⟨⟨⟨⟨condition, _⟩, first⟩, _⟩, _⟩, second⟩ := shaped
    have spelled := Stmt.Spelled.ifElse (kind_word .if_) (kind_symbol .leftParen)
      (Expr.spelled_render c condition) (kind_symbol .rightParen) (Stmt.spelled_render a first)
      (kind_word .else_) (Stmt.spelled_render b second)
    rw [Stmt.span_bare, Stmt.span_bare] at spelled
    rw [Stmt.render, tokensOf_append, tokensOf_append]
    exact spelled
  | .while_ c body _, shaped => by
    rw [Stmt.isShaped, Bool.and_eq_true, Bool.and_eq_true] at shaped
    obtain ⟨⟨condition, _⟩, inner⟩ := shaped
    have spelled := Stmt.Spelled.while_ (kind_word .while_) (kind_symbol .leftParen)
      (Expr.spelled_render c condition) (kind_symbol .rightParen) (Stmt.spelled_render body inner)
    rw [Stmt.span_bare] at spelled
    rw [Stmt.render, tokensOf_append]
    exact spelled
  | .for_ init c update body _, shaped => by
    simp only [Stmt.isShaped, Bool.and_eq_true] at shaped
    obtain ⟨⟨⟨⟨first, condition⟩, last⟩, _⟩, inner⟩ := shaped
    have spelled := Stmt.Spelled.for_ (kind_word .for_) (kind_symbol .leftParen)
      (init_render init first) (optional_render c condition) (kind_symbol .semicolon)
      (optional_render update last) (kind_symbol .rightParen) (Stmt.spelled_render body inner)
    rw [Stmt.span_bare] at spelled
    simp only [Stmt.render, tokensOf_append]
    exact spelled
  | .break_ _, _ => Stmt.Spelled.break_ (kind_word .break_) (kind_symbol .semicolon)
  | .continue_ _, _ => Stmt.Spelled.continue_ (kind_word .continue_) (kind_symbol .semicolon)
  | .return_ value _, shaped => by
    have spelled := Stmt.Spelled.return_ (kind_word .return_) (optional_render value shaped)
      (kind_symbol .semicolon)
    rw [Stmt.render, tokensOf_append]
    exact spelled
  | .function f, shaped => by
    rw [Stmt.isShaped, Bool.and_eq_true] at shaped
    exact Stmt.Spelled.function (kind_word .function) (f.spelled_render shaped.2)

/-- The start of a loop is rendered with its semicolon. -/
theorem init_render : ∀ s : Option Stmt, initShaped s = true →
    InitSpelled (bareStatement? s) (tokensOf (renderInit s))
  | none, _ => .missing (kind_symbol .semicolon)
  | some (.expr e _), shaped => by
    have spelled := InitSpelled.expr (Expr.spelled_render e shaped) (kind_symbol .semicolon)
    rw [Expr.span_bare] at spelled
    rw [renderInit, Stmt.render, tokensOf_append]
    exact spelled
  | some (.declare word name type init span), shaped =>
    .variable_ rfl (Stmt.spelled_render (.declare word name type init span) shaped)
  | some (.constant name type init span), shaped =>
    .variable_ rfl (Stmt.spelled_render (.constant name type init span) shaped)

theorem optional_render : ∀ e : Option Expr, optionalShaped e = true →
    OptionalSpelled (bareOptional e) (tokensOf (renderOptional e))
  | none, _ => .missing
  | some e, shaped => .given (Expr.spelled_render e shaped)

theorem body_render : ∀ ss : List Stmt, allShaped ss = true →
    BodySpelled (bareStatements ss) (tokensOf (renderBody ss))
  | [], _ => .nil
  | s :: ss, shaped => by
    rw [allShaped, Bool.and_eq_true] at shaped
    have spelled := BodySpelled.cons (Stmt.spelled_render s shaped.1) (body_render ss shaped.2)
    rw [renderBody, tokensOf_append]
    exact spelled

end

/-- The glyphs of a well-shaped program spell it. -/
theorem Program.spelled_render {p : Program} (shaped : p.isShaped = true) :
    p.bare.Spelled p.render :=
  body_render p.body shaped

/-! ## Parsing -/

/-- No glyph is white space or the end of the input. -/
theorem Glyph.counts (g : Glyph) : g.token.kind ≠ .space ∧ g.token.kind ≠ .eof := by
  cases g <;> exact ⟨nofun, nofun⟩

/-- All tokens of glyphs count, whatever follows them. -/
theorem body_append (gs : List Glyph) (ts : List Token) :
    Parser.body (tokensOf gs ++ ts) = tokensOf gs ++ Parser.body ts := by
  refine Parser.body_append_of_allCount (fun t membership => ?_) ts
  obtain ⟨g, _, rfl⟩ := List.mem_map.1 membership
  exact g.counts

/-- All tokens of a rendered program count. -/
theorem body_render_eq (p : Program) : Parser.body p.render = p.render := by
  have appended := body_append (renderBody p.body) []
  have nothing : Parser.body [] = [] := rfl
  rw [nothing, List.append_nil] at appended
  exact appended

/-- A well-shaped program is read again from its rendering, also where white space and an
end of the input are added.  Every other way to spell it is read as it too, with the spans
of its tokens. -/
theorem parse_undoes_render (p : Program) (shaped : p.isShaped = true) :
    parseProgram p.render = .ok p.bare ∧
      (∀ tokens, Parser.body tokens = p.render → parseProgram tokens = .ok p.bare) ∧
      ∀ tokens q, q.bare = p.bare → q.Spelled (Parser.body tokens) →
        parseProgram tokens = .ok q := by
  have rendered : ∀ tokens, Parser.body tokens = p.render → parseProgram tokens = .ok p.bare := by
    intro tokens same
    have spelled : p.bare.Spelled (Parser.body tokens) := by
      rw [same]
      exact Program.spelled_render shaped
    have bareShaped : p.bare.isShaped = true := by rw [Program.isShaped_bare, shaped]
    exact parseProgram_of_spelled bareShaped spelled
  refine ⟨rendered p.render (body_render_eq p), rendered, fun tokens q same spelled => ?_⟩
  have qShaped : q.isShaped = true := by
    rw [← Program.isShaped_bare, same, Program.isShaped_bare, shaped]
  exact parseProgram_of_spelled qShaped spelled

/-- The program `if (a) b = -1 - c * d; else e++;`. -/
def branching : Program :=
  let product : Expr := .binary .mul (.identifier "c" default) (.identifier "d" default) default
  let difference : Expr :=
    .binary .sub (.unary .negate (.number .one default) default) product default
  let first : Stmt := .expr (.assign .set (.identifier "b" default) difference default) default
  let second : Stmt := .expr (.stepAfter .increment (.identifier "e" default) default) default
  ⟨[.if_ (.identifier "a" default) first (some second) default]⟩

/-- A conditional statement is read again from its rendering. -/
theorem parse_undoes_render_branching :
    branching.isShaped = true ∧ parseProgram branching.render = .ok branching ∧
      parseProgram (branching.render ++ [⟨.space, " ", none, default, 1, 1⟩]) = .ok branching := by
  have shaped : branching.isShaped = true := by decide
  obtain ⟨plain, padded, -⟩ := parse_undoes_render branching shaped
  have same : Parser.body (branching.render ++ [⟨.space, " ", none, default, 1, 1⟩]) =
      branching.render :=
    (body_append (renderBody branching.body) _).trans (List.append_nil _)
  exact ⟨shaped, plain, padded _ same⟩

end Scriptlet
