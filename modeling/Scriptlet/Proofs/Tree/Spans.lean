import Scriptlet.Tree.Spans
import Scriptlet.Tree.Spelling

/-!
# Where trees lie

The span of a node is put together from spans of tokens.  So a property of spans that
merging keeps, a *region*, holds of all spans in a tree if it holds of the tokens that
spell it (`Expr.spans_of_spelled`, `spans_of_bodySpelled`).

The proof follows the relations that say how trees are spelled.
-/

namespace Scriptlet

/-! ## Regions -/

/-- A property of spans that merging keeps. -/
structure Region where
  /-- The spans in the region. -/
  Has : Span → Prop
  merge : ∀ {a b : Span}, Has a → Has b → Has (a.merge b)

namespace Region

variable (G : Region)

/-- All of some spans are in the region. -/
def All (ss : List Span) : Prop := ∀ s ∈ ss, G.Has s

/-- The spans of some tokens are in the region. -/
def Tokens (ts : List Token) : Prop := ∀ t ∈ ts, G.Has t.span

variable {G} {s : Span} {ss ss' : List Span} {t : Token} {ts us : List Token}

theorem all_nil : G.All [] := fun _ inside => nomatch inside

theorem all_cons : G.All (s :: ss) ↔ G.Has s ∧ G.All ss := List.forall_mem_cons

theorem all_append : G.All (ss ++ ss') ↔ G.All ss ∧ G.All ss' := List.forall_mem_append

theorem tokens_cons : G.Tokens (t :: ts) ↔ G.Has t.span ∧ G.Tokens ts := List.forall_mem_cons

theorem tokens_append : G.Tokens (ts ++ us) ↔ G.Tokens ts ∧ G.Tokens us := List.forall_mem_append

theorem All.expr {e : Expr} (h : G.All e.spans) : G.Has e.span := h _ e.span_mem_spans

theorem All.stmt {s : Stmt} (h : G.All s.spans) : G.Has s.span := h _ s.span_mem_spans

end Region

open Region

variable {G : Region}

/-! ## Parts without expressions -/

/-- The span of a parameter is that of its name. -/
theorem ParamsSpelled.spans {ps : List Param} {ts : List Token} (spelled : ParamsSpelled ps ts)
    (inside : G.Tokens ts) : G.All (ps.map Param.span) := by
  induction spelled with
  | nil => exact all_nil
  | one first =>
    cases first with
    | mk => exact all_cons.mpr ⟨(tokens_cons.mp inside).1, all_nil⟩
  | cons first _ _ _ ih =>
    obtain ⟨here, behind⟩ := tokens_append.mp inside
    cases first with
    | mk => exact all_cons.mpr ⟨(tokens_cons.mp here).1, ih (tokens_cons.mp behind).2⟩

/-! ## Expressions and statements -/

mutual

/-- The spans of an expression are those of tokens, and merged ones. -/
theorem Expr.spans_of_spelled : ∀ {e : Expr} {ts : List Token}, e.Spelled ts → G.Tokens ts →
    G.All e.spans
  | _, _, .number _, inside | _, _, .string _ _, inside | _, _, .true_ _, inside
  | _, _, .false_ _, inside | _, _, .null _, inside | _, _, .identifier _, inside =>
    all_cons.mpr ⟨(tokens_cons.mp inside).1, all_nil⟩
  | _, _, .group _ inner _, inside => by
    simp only [tokens_append, tokens_cons] at inside
    obtain ⟨⟨opening, parts⟩, close, -⟩ := inside
    rw [Expr.spans]
    exact all_cons.mpr ⟨G.merge opening close, Expr.spans_of_spelled inner parts⟩
  | _, _, .array _ items _, inside => by
    simp only [tokens_append, tokens_cons] at inside
    obtain ⟨⟨opening, parts⟩, close, -⟩ := inside
    exact all_cons.mpr ⟨G.merge opening close, spans_of_itemsSpelled items parts⟩
  | _, _, .object _ items _, inside => by
    simp only [tokens_append, tokens_cons] at inside
    obtain ⟨⟨opening, parts⟩, close, -⟩ := inside
    exact all_cons.mpr ⟨G.merge opening close, spans_of_propertiesSpelled items parts⟩
  | _, _, .function _ inner, inside =>
    Function.spans_of_spelled inner (tokens_cons.mp inside).1 (tokens_cons.mp inside).2
  | _, _, .member first _ _, inside => by
    simp only [tokens_append, tokens_cons] at inside
    obtain ⟨front, -, name, -⟩ := inside
    have parts := Expr.spans_of_spelled first front
    rw [Expr.spans]
    exact all_cons.mpr ⟨G.merge parts.expr name, parts⟩
  | _, _, .index first _ key _, inside => by
    simp only [tokens_append, tokens_cons] at inside
    obtain ⟨⟨front, -, middle⟩, close, -⟩ := inside
    have parts := Expr.spans_of_spelled first front
    rw [Expr.spans]
    exact all_cons.mpr ⟨G.merge parts.expr close,
      all_append.mpr ⟨parts, Expr.spans_of_spelled key middle⟩⟩
  | _, _, .call first _ items _, inside => by
    simp only [tokens_append, tokens_cons] at inside
    obtain ⟨⟨front, -, middle⟩, close, -⟩ := inside
    have parts := Expr.spans_of_spelled first front
    rw [Expr.spans]
    exact all_cons.mpr ⟨G.merge parts.expr close,
      all_append.mpr ⟨parts, spans_of_itemsSpelled items middle⟩⟩
  | _, _, .unary _ operand, inside => by
    have parts := Expr.spans_of_spelled operand (tokens_cons.mp inside).2
    rw [Expr.spans]
    exact all_cons.mpr ⟨G.merge (tokens_cons.mp inside).1 parts.expr, parts⟩
  | _, _, .stepAfter first _, inside => by
    simp only [tokens_append, tokens_cons] at inside
    obtain ⟨front, step, -⟩ := inside
    have parts := Expr.spans_of_spelled first front
    rw [Expr.spans]
    exact all_cons.mpr ⟨G.merge parts.expr step, parts⟩
  | _, _, .binary left _ right, inside => by
    simp only [tokens_append, tokens_cons] at inside
    have left_parts := Expr.spans_of_spelled left inside.1
    have right_parts := Expr.spans_of_spelled right inside.2.2
    rw [Expr.spans]
    exact all_cons.mpr ⟨G.merge left_parts.expr right_parts.expr,
      all_append.mpr ⟨left_parts, right_parts⟩⟩
  | _, _, .conditional condition _ whenTrue _ whenFalse, inside => by
    simp only [tokens_append, tokens_cons] at inside
    obtain ⟨⟨front, -, middle⟩, -, behind⟩ := inside
    have c_parts := Expr.spans_of_spelled condition front
    have a_parts := Expr.spans_of_spelled whenTrue middle
    have b_parts := Expr.spans_of_spelled whenFalse behind
    rw [Expr.spans]
    exact all_cons.mpr ⟨G.merge c_parts.expr b_parts.expr,
      all_append.mpr ⟨c_parts, all_append.mpr ⟨a_parts, b_parts⟩⟩⟩
  | _, _, .assign target _ value, inside => by
    simp only [tokens_append, tokens_cons] at inside
    have target_parts := Expr.spans_of_spelled target inside.1
    have value_parts := Expr.spans_of_spelled value inside.2.2
    rw [Expr.spans]
    exact all_cons.mpr ⟨G.merge target_parts.expr value_parts.expr,
      all_append.mpr ⟨target_parts, value_parts⟩⟩

theorem spans_of_itemsSpelled : ∀ {trailing : Bool} {es : List Expr} {ts : List Token},
    ItemsSpelled trailing es ts → G.Tokens ts → G.All (itemSpans es)
  | _, _, _, .nil, _ => all_nil
  | _, _, _, .one spelled, inside => all_append.mpr ⟨Expr.spans_of_spelled spelled inside, all_nil⟩
  | _, _, _, .cons spelled _ others _, inside => by
    simp only [tokens_append, tokens_cons] at inside
    exact all_append.mpr ⟨Expr.spans_of_spelled spelled inside.1,
      spans_of_itemsSpelled others inside.2.2⟩

theorem spans_of_propertiesSpelled : ∀ {ps : List (String × Expr)} {ts : List Token},
    PropertiesSpelled ps ts → G.Tokens ts → G.All (propertySpans ps)
  | _, _, .nil, _ => all_nil
  | _, _, .one _ _ spelled, inside => by
    simp only [tokens_cons] at inside
    exact all_append.mpr ⟨Expr.spans_of_spelled spelled inside.2.2, all_nil⟩
  | _, _, .cons _ _ spelled _ others, inside => by
    simp only [tokens_append, tokens_cons] at inside
    obtain ⟨⟨-, -, here⟩, -, behind⟩ := inside
    exact all_append.mpr ⟨Expr.spans_of_spelled spelled here,
      spans_of_propertiesSpelled others behind⟩

theorem Function.spans_of_spelled : ∀ {start : Span} {f : Function} {ts : List Token},
    f.Spelled start ts → G.Has start → G.Tokens ts → G.All f.spans
  | _, _, _, .mk _ _ params _ _ _ body _, word, inside => by
    simp only [tokens_append, tokens_cons] at inside
    obtain ⟨⟨⟨⟨-, -, param_tokens⟩, -, -⟩, left, body_tokens⟩, right, -⟩ := inside
    exact all_cons.mpr ⟨G.merge word (G.merge left right),
      all_append.mpr ⟨params.spans param_tokens, spans_of_bodySpelled body body_tokens⟩⟩

/-- The spans of a statement are those of tokens, and merged ones. -/
theorem Stmt.spans_of_spelled : ∀ {s : Stmt} {ts : List Token}, s.Spelled ts → G.Tokens ts →
    G.All s.spans
  | _, _, .block _ body _, inside => by
    simp only [tokens_append, tokens_cons] at inside
    obtain ⟨⟨left, parts⟩, right, -⟩ := inside
    exact all_cons.mpr ⟨G.merge left right, spans_of_bodySpelled body parts⟩
  | _, _, .declare _ _ _ _, inside => by
    simp only [tokens_append, tokens_cons] at inside
    obtain ⟨⟨word, -, -⟩, stop, -⟩ := inside
    exact all_cons.mpr ⟨G.merge word stop, all_nil⟩
  | _, _, .declareWith _ _ _ _ init _, inside => by
    simp only [tokens_append, tokens_cons] at inside
    obtain ⟨⟨⟨word, -, -⟩, -, value⟩, stop, -⟩ := inside
    exact all_cons.mpr ⟨G.merge word stop, Expr.spans_of_spelled init value⟩
  | _, _, .constant _ _ _ _ init _, inside => by
    simp only [tokens_append, tokens_cons] at inside
    obtain ⟨⟨⟨word, -, -⟩, -, value⟩, stop, -⟩ := inside
    exact all_cons.mpr ⟨G.merge word stop, Expr.spans_of_spelled init value⟩
  | _, _, .expr spelled _, inside => by
    simp only [tokens_append, tokens_cons] at inside
    have parts := Expr.spans_of_spelled spelled inside.1
    exact all_cons.mpr ⟨G.merge parts.expr inside.2.1, parts⟩
  | _, _, .print _ spelled _, inside => by
    simp only [tokens_append, tokens_cons] at inside
    obtain ⟨⟨word, parts⟩, stop, -⟩ := inside
    exact all_cons.mpr ⟨G.merge word stop, Expr.spans_of_spelled spelled parts⟩
  | _, _, .if_ _ _ condition _ branch, inside => by
    simp only [tokens_append, tokens_cons] at inside
    obtain ⟨⟨word, -, c_tokens⟩, -, a_tokens⟩ := inside
    have parts := Stmt.spans_of_spelled branch a_tokens
    exact all_cons.mpr ⟨G.merge word parts.stmt,
      all_append.mpr ⟨Expr.spans_of_spelled condition c_tokens,
        all_append.mpr ⟨parts, all_nil⟩⟩⟩
  | _, _, .ifElse _ _ condition _ first _ second, inside => by
    simp only [tokens_append, tokens_cons] at inside
    obtain ⟨⟨⟨word, -, c_tokens⟩, -, a_tokens⟩, -, b_tokens⟩ := inside
    have a_parts := Stmt.spans_of_spelled first a_tokens
    have b_parts := Stmt.spans_of_spelled second b_tokens
    exact all_cons.mpr ⟨G.merge (G.merge word a_parts.stmt) b_parts.stmt,
      all_append.mpr ⟨Expr.spans_of_spelled condition c_tokens,
        all_append.mpr ⟨a_parts, b_parts⟩⟩⟩
  | _, _, .while_ _ _ condition _ round, inside => by
    simp only [tokens_append, tokens_cons] at inside
    obtain ⟨⟨word, -, c_tokens⟩, -, body_tokens⟩ := inside
    have parts := Stmt.spans_of_spelled round body_tokens
    exact all_cons.mpr ⟨G.merge word parts.stmt,
      all_append.mpr ⟨Expr.spans_of_spelled condition c_tokens, parts⟩⟩
  | _, _, .for_ _ _ start condition _ update _ round, inside => by
    simp only [tokens_append, tokens_cons] at inside
    obtain ⟨⟨⟨⟨word, -, init_tokens⟩, c_tokens⟩, -, update_tokens⟩, -, body_tokens⟩ := inside
    have parts := Stmt.spans_of_spelled round body_tokens
    exact all_cons.mpr ⟨G.merge word parts.stmt,
      all_append.mpr ⟨spans_of_initSpelled start init_tokens,
        all_append.mpr ⟨spans_of_optionalSpelled condition c_tokens,
          all_append.mpr ⟨spans_of_optionalSpelled update update_tokens, parts⟩⟩⟩⟩
  | _, _, .break_ _ _, inside | _, _, .continue_ _ _, inside => by
    simp only [tokens_cons] at inside
    exact all_cons.mpr ⟨G.merge inside.1 inside.2.1, all_nil⟩
  | _, _, .return_ _ value _, inside => by
    simp only [tokens_append, tokens_cons] at inside
    obtain ⟨⟨word, parts⟩, stop, -⟩ := inside
    exact all_cons.mpr ⟨G.merge word stop, spans_of_optionalSpelled value parts⟩
  | _, _, .function _ inner, inside =>
    Function.spans_of_spelled inner (tokens_cons.mp inside).1 (tokens_cons.mp inside).2

theorem spans_of_initSpelled : ∀ {init : Option Stmt} {ts : List Token}, InitSpelled init ts →
    G.Tokens ts → G.All (statementSpans init)
  | _, _, .missing _, _ => all_nil
  | _, _, .expr spelled _, inside => by
    simp only [tokens_append, tokens_cons] at inside
    have parts := Expr.spans_of_spelled spelled inside.1
    exact all_cons.mpr ⟨G.merge parts.expr inside.2.1, parts⟩
  | _, _, .variable_ _ spelled, inside => Stmt.spans_of_spelled spelled inside

theorem spans_of_optionalSpelled : ∀ {e : Option Expr} {ts : List Token}, OptionalSpelled e ts →
    G.Tokens ts → G.All (optionalSpans e)
  | _, _, .missing, _ => all_nil
  | _, _, .given spelled, inside => Expr.spans_of_spelled spelled inside

theorem spans_of_bodySpelled : ∀ {ss : List Stmt} {ts : List Token}, BodySpelled ss ts →
    G.Tokens ts → G.All (bodySpans ss)
  | _, _, .nil, _ => all_nil
  | _, _, .cons spelled others, inside => by
    obtain ⟨here, behind⟩ := tokens_append.mp inside
    exact all_append.mpr ⟨Stmt.spans_of_spelled spelled here, spans_of_bodySpelled others behind⟩

end

end Scriptlet
