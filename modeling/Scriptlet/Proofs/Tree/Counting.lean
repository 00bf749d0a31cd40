import Scriptlet.Proofs.Tree.Yields

/-!
# Tokens of trees count

No token of a tree is white space or the end of the input (`BodySpelled.counts`).  So the parser
passes over none of them.
-/

namespace Scriptlet

/-! ## Tokens that count -/

/-- All of some tokens are neither white space nor the end of the input. -/
def AllCount (ts : List Token) : Prop := ∀ t ∈ ts, t.kind ≠ .space ∧ t.kind ≠ .eof

@[simp] theorem allCount_nil : AllCount [] := List.forall_mem_nil _

@[simp] theorem allCount_cons {t : Token} {ts : List Token} :
    AllCount (t :: ts) ↔ (t.kind ≠ .space ∧ t.kind ≠ .eof) ∧ AllCount ts :=
  List.forall_mem_cons

@[simp] theorem allCount_append {ts us : List Token} :
    AllCount (ts ++ us) ↔ AllCount ts ∧ AllCount us :=
  List.forall_mem_append

namespace Parser

/-- Tokens that count are in front of what else counts. -/
theorem body_append_of_allCount {ts : List Token} (count : AllCount ts) (us : List Token) :
    body (ts ++ us) = ts ++ body us := by
  have significant : Token.significant (ts ++ us) = ts ++ Token.significant us := by
    have all : Token.significant ts = ts :=
      List.filter_eq_self.mpr fun t inside => decide_eq_true (count t inside).1
    rw [Token.significant, List.filter_append]
    exact congrArg (· ++ Token.significant us) all
  rw [body, significant]
  refine List.takeWhile_append_of_pos fun t inside => ?_
  simp [isStop, (count t inside).2]

/-- All tokens in front of the first end are read, if none of them is white space. -/
theorem body_of_allCount {ts : List Token} {stop : Token} (count : AllCount ts)
    (is_stop : stop.kind = .eof) : body (ts ++ [stop]) = ts := by
  rw [body_append_of_allCount count]
  simp [body, Token.significant, isStop, is_stop]

end Parser

/-! ## Trees -/

theorem Annotated.counts {type : Option TypeName} {ts : List Token} (spelled : Annotated type ts) :
    AllCount ts := by
  cases spelled with
  | missing => simp
  | given is_colon is_type => simp [is_colon, is_type]

theorem Declared.counts {init : Expr} {type : Option TypeName} {ts : List Token}
    (spelled : Declared init type ts) : AllCount ts := by
  cases spelled with
  | given annotated => exact annotated.counts
  | inferred => simp

theorem ParamsSpelled.counts {ps : List Param} {ts : List Token} (spelled : ParamsSpelled ps ts) :
    AllCount ts := by
  have one {p : Param} {ts : List Token} (spelled : p.Spelled ts) : AllCount ts := by
    cases spelled with
    | mk is_name annotated => simp [is_name, annotated.counts]
  induction spelled with
  | nil => simp
  | one first => exact one first
  | cons first is_comma _ _ ih => simp [one first, is_comma, ih]

theorem Named.counts {name : Option String} {ts : List Token} (spelled : Named name ts) :
    AllCount ts := by
  cases spelled with
  | missing => simp
  | given is_name => simp [is_name]

theorem Keyed.counts {name : String} {t : Token} (keyed : Keyed name t) :
    t.kind ≠ .space ∧ t.kind ≠ .eof := by
  cases keyed with
  | identifier is_name => simp [is_name]
  | string is_string _ => simp [is_string]

mutual

/-- No white space spells an expression, and no end of the input. -/
theorem Expr.Spelled.counts : ∀ {e : Expr} {ts : List Token}, e.Spelled ts → AllCount ts
  | _, _, .number is_kind | _, _, .string is_kind _ | _, _, .true_ is_kind
  | _, _, .false_ is_kind | _, _, .null is_kind | _, _, .identifier is_kind => by simp [is_kind]
  | _, _, .group is_open inner is_close => by simp [is_open, inner.counts, is_close]
  | _, _, .array is_open items is_close => by simp [is_open, items.counts, is_close]
  | _, _, .object is_open items is_close => by simp [is_open, items.counts, is_close]
  | _, _, .function is_word inner => by simp [is_word, inner.counts]
  | _, _, .member base is_dot is_name => by simp [base.counts, is_dot, is_name]
  | _, _, .index base is_open key is_close => by
    simp [base.counts, is_open, key.counts, is_close]
  | _, _, .call base is_open items is_close => by
    simp [base.counts, is_open, items.counts, is_close]
  | _, _, .unary is_op operand => by simp [is_op, operand.counts]
  | _, _, .stepAfter operand is_op => by simp [is_op, operand.counts]
  | _, _, .binary left is_op right => by simp [left.counts, is_op, right.counts]
  | _, _, .conditional c is_question a is_colon b => by
    simp [c.counts, is_question, a.counts, is_colon, b.counts]
  | _, _, .assign target is_op value => by simp [target.counts, is_op, value.counts]

theorem ItemsSpelled.counts : ∀ {trailing : Bool} {es : List Expr} {ts : List Token},
    ItemsSpelled trailing es ts → AllCount ts
  | _, _, _, .nil => allCount_nil
  | _, _, _, .one first => first.counts
  | _, _, _, .cons first is_comma others _ => by simp [first.counts, is_comma, others.counts]

theorem PropertiesSpelled.counts : ∀ {ps : List (String × Expr)} {ts : List Token},
    PropertiesSpelled ps ts → AllCount ts
  | _, _, .nil => allCount_nil
  | _, _, .one keyed is_colon value => by simp [keyed.counts, is_colon, value.counts]
  | _, _, .cons keyed is_colon value is_comma others => by
    simp [keyed.counts, is_colon, value.counts, is_comma, others.counts]

theorem Function.Spelled.counts : ∀ {start : Span} {f : Function} {ts : List Token},
    f.Spelled start ts → AllCount ts
  | _, _, _, .mk named is_open params is_close returns is_left body is_right => by
    simp [named.counts, is_open, params.counts, is_close, returns.counts, is_left, body.counts,
      is_right]

theorem Stmt.Spelled.counts : ∀ {s : Stmt} {ts : List Token}, s.Spelled ts → AllCount ts
  | _, _, .block is_left body is_right => by simp [is_left, body.counts, is_right]
  | _, _, .declare is_word is_name annotated is_stop => by
    simp [is_word, is_name, annotated.counts, is_stop]
  | _, _, .declareWith is_word is_name declared is_equal init is_stop => by
    simp [is_word, is_name, declared.counts, is_equal, init.counts, is_stop]
  | _, _, .constant is_word is_name declared is_equal init is_stop => by
    simp [is_word, is_name, declared.counts, is_equal, init.counts, is_stop]
  | _, _, .expr inner is_stop => by simp [inner.counts, is_stop]
  | _, _, .print is_word inner is_stop => by simp [is_word, inner.counts, is_stop]
  | _, _, .if_ is_word is_open c is_close a => by
    simp [is_word, is_open, c.counts, is_close, a.counts]
  | _, _, .ifElse is_word is_open c is_close a is_else b => by
    simp [is_word, is_open, c.counts, is_close, a.counts, is_else, b.counts]
  | _, _, .while_ is_word is_open c is_close body => by
    simp [is_word, is_open, c.counts, is_close, body.counts]
  | _, _, .for_ is_word is_open init c is_stop update is_close body => by
    simp [is_word, is_open, init.counts, c.counts, is_stop, update.counts, is_close, body.counts]
  | _, _, .break_ is_word is_stop => by simp [is_word, is_stop]
  | _, _, .continue_ is_word is_stop => by simp [is_word, is_stop]
  | _, _, .return_ is_word value is_stop => by simp [is_word, value.counts, is_stop]
  | _, _, .function is_word inner => by simp [is_word, inner.counts]

theorem InitSpelled.counts : ∀ {init : Option Stmt} {ts : List Token},
    InitSpelled init ts → AllCount ts
  | _, _, .missing is_stop => by simp [is_stop]
  | _, _, .expr inner is_stop => by simp [inner.counts, is_stop]
  | _, _, .variable_ _ spelled => spelled.counts

theorem OptionalSpelled.counts : ∀ {e : Option Expr} {ts : List Token},
    OptionalSpelled e ts → AllCount ts
  | _, _, .missing => allCount_nil
  | _, _, .given inner => inner.counts

theorem BodySpelled.counts : ∀ {ss : List Stmt} {ts : List Token}, BodySpelled ss ts → AllCount ts
  | _, _, .nil => allCount_nil
  | _, _, .cons first others => by simp [first.counts, others.counts]

end

end Scriptlet
