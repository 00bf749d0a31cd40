import Scriptlet.Proofs.Tree.Soundness
import Scriptlet.Tree.Lawful

/-!
# What parses is lawful

The names in a tree are the lexemes of identifiers, the targets of assignments in a
well-shaped tree can be assigned to, and its declared functions have names.  So a
tree that parses is lawful for any names that the identifiers among its tokens have
(`parseProgram_isLawful`, `parseExpression_isLawful`).

The proof follows the relations that say how trees are spelled.
-/

namespace Scriptlet

/-- All identifiers among some tokens have certain names. -/
def Named.All (may : String → Bool) (ts : List Token) : Prop :=
  ∀ t ∈ ts, t.kind = .identifier → may t.lexeme = true

namespace Named.All

variable {may : String → Bool} {t : Token} {ts us : List Token}

theorem cons_iff : All may (t :: ts) ↔ (t.kind = .identifier → may t.lexeme = true) ∧ All may ts :=
  List.forall_mem_cons

theorem append_iff : All may (ts ++ us) ↔ All may ts ∧ All may us := List.forall_mem_append

end Named.All

open Named (All)

variable {may : String → Bool}

/-! ## Parts without expressions -/

/-- The name of a function is one of the names that are read. -/
theorem Named.all_may {name : Option String} {ts : List Token} (named : Named name ts)
    (names : All may ts) : name.all may = true := by
  cases named with
  | missing => rfl
  | given is_name => exact names _ (.head _) is_name

theorem Param.Spelled.may_name {p : Param} {ts : List Token} (spelled : p.Spelled ts)
    (names : All may ts) : may p.name = true := by
  cases spelled with
  | mk is_name _ => exact names _ (.head _) is_name

theorem ParamsSpelled.all_may {ps : List Param} {ts : List Token} (spelled : ParamsSpelled ps ts)
    (names : All may ts) : ps.all (fun p => may p.name) = true := by
  induction spelled with
  | nil => rfl
  | one first => simp [first.may_name names]
  | cons first _ _ _ ih =>
    simp only [All.append_iff, All.cons_iff] at names
    obtain ⟨here, -, behind⟩ := names
    simp [first.may_name here, ih behind]

/-! ## Expressions and statements -/

mutual

/-- An expression takes its names from the tokens, and its targets have the right shape. -/
theorem Expr.isLawful_of_spelled : ∀ {e : Expr} {ts : List Token}, e.Spelled ts → All may ts →
    e.isShaped = true → e.isLawful may = true
  | _, _, .number _, _, _ | _, _, .string _ _, _, _ | _, _, .true_ _, _, _
  | _, _, .false_ _, _, _ | _, _, .null _, _, _ | _, _, .identifier _, _, _ => rfl
  | _, _, .group _ inner _, names, shaped => by
    simp only [All.append_iff, All.cons_iff] at names
    rw [Expr.isLawful]
    exact Expr.isLawful_of_spelled inner names.1.2 shaped
  | _, _, .array _ items _, names, shaped => by
    simp only [All.append_iff, All.cons_iff] at names
    exact areLawful_of_spelled items names.1.2 shaped
  | _, _, .object _ items _, names, shaped => by
    simp only [All.append_iff, All.cons_iff] at names
    exact propertiesLawful_of_spelled items names.1.2 shaped
  | _, _, .function _ inner, names, shaped => by
    simp only [All.cons_iff] at names
    exact Function.isLawful_of_spelled inner names.2 shaped
  | _, _, .member first _ _, names, shaped => by
    simp only [All.append_iff] at names
    simp only [Expr.isShaped, Bool.and_eq_true] at shaped
    rw [Expr.isLawful]
    exact Expr.isLawful_of_spelled first names.1 shaped.2
  | _, _, .index first _ key _, names, shaped => by
    simp only [All.append_iff, All.cons_iff] at names
    obtain ⟨⟨first_names, -, key_names⟩, -⟩ := names
    simp only [Expr.isShaped, Bool.and_eq_true] at shaped
    simp [Expr.isLawful, Expr.isLawful_of_spelled first first_names shaped.1.2,
      Expr.isLawful_of_spelled key key_names shaped.2]
  | _, _, .call first _ items _, names, shaped => by
    simp only [All.append_iff, All.cons_iff] at names
    obtain ⟨⟨first_names, -, items_names⟩, -⟩ := names
    simp only [Expr.isShaped, Bool.and_eq_true] at shaped
    simp [Expr.isLawful, Expr.isLawful_of_spelled first first_names shaped.1.2,
      areLawful_of_spelled items items_names shaped.2]
  | _, _, .unary _ operand, names, shaped => by
    simp only [All.cons_iff] at names
    simp only [Expr.isShaped, Bool.and_eq_true] at shaped
    rw [Expr.isLawful]
    exact Expr.isLawful_of_spelled operand names.2 shaped.2
  | _, _, .stepAfter first _, names, shaped => by
    simp only [All.append_iff] at names
    simp only [Expr.isShaped, Bool.and_eq_true] at shaped
    rw [Expr.isLawful]
    exact Expr.isLawful_of_spelled first names.1 shaped.2
  | _, _, .binary left _ right, names, shaped => by
    simp only [All.append_iff, All.cons_iff] at names
    obtain ⟨left_names, -, right_names⟩ := names
    simp only [Expr.isShaped, Bool.and_eq_true] at shaped
    simp [Expr.isLawful, Expr.isLawful_of_spelled left left_names shaped.1.2,
      Expr.isLawful_of_spelled right right_names shaped.2]
  | _, _, .conditional condition _ whenTrue _ whenFalse, names, shaped => by
    simp only [All.append_iff, All.cons_iff] at names
    obtain ⟨⟨c_names, -, a_names⟩, -, b_names⟩ := names
    simp only [Expr.isShaped, Bool.and_eq_true] at shaped
    simp [Expr.isLawful, Expr.isLawful_of_spelled condition c_names shaped.1.1.2,
      Expr.isLawful_of_spelled whenTrue a_names shaped.1.2,
      Expr.isLawful_of_spelled whenFalse b_names shaped.2]
  | _, _, .assign target _ value, names, shaped => by
    simp only [All.append_iff, All.cons_iff] at names
    obtain ⟨target_names, -, value_names⟩ := names
    simp only [Expr.isShaped, Bool.and_eq_true] at shaped
    simp [Expr.isLawful, shaped.1.1, Expr.isLawful_of_spelled target target_names shaped.1.2,
      Expr.isLawful_of_spelled value value_names shaped.2]

theorem areLawful_of_spelled : ∀ {trailing : Bool} {es : List Expr} {ts : List Token},
    ItemsSpelled trailing es ts → All may ts → areShaped es = true → areLawful may es = true
  | _, _, _, .nil, _, _ => rfl
  | _, _, _, .one spelled, names, shaped => by
    simp only [areShaped, Bool.and_eq_true] at shaped
    simp [areLawful, Expr.isLawful_of_spelled spelled names shaped.1]
  | _, _, _, .cons spelled _ others _, names, shaped => by
    simp only [All.append_iff, All.cons_iff] at names
    simp only [areShaped, Bool.and_eq_true] at shaped
    simp [areLawful, Expr.isLawful_of_spelled spelled names.1 shaped.1,
      areLawful_of_spelled others names.2.2 shaped.2]

theorem propertiesLawful_of_spelled : ∀ {ps : List (String × Expr)} {ts : List Token},
    PropertiesSpelled ps ts → All may ts → propertiesShaped ps = true →
    propertiesLawful may ps = true
  | _, _, .nil, _, _ => rfl
  | _, _, .one _ _ spelled, names, shaped => by
    simp only [All.cons_iff] at names
    simp only [propertiesShaped, Bool.and_eq_true] at shaped
    simp [propertiesLawful, Expr.isLawful_of_spelled spelled names.2.2 shaped.1]
  | _, _, .cons _ _ spelled _ others, names, shaped => by
    simp only [All.append_iff, All.cons_iff] at names
    obtain ⟨⟨-, -, here⟩, -, behind⟩ := names
    simp only [propertiesShaped, Bool.and_eq_true] at shaped
    simp [propertiesLawful, Expr.isLawful_of_spelled spelled here shaped.1,
      propertiesLawful_of_spelled others behind shaped.2]

theorem Function.isLawful_of_spelled : ∀ {start : Span} {f : Function} {ts : List Token},
    f.Spelled start ts → All may ts → f.isShaped = true → f.isLawful may = true
  | _, _, _, .mk named _ params _ _ _ body _, names, shaped => by
    simp only [All.append_iff, All.cons_iff] at names
    obtain ⟨⟨⟨⟨name, -, param_names⟩, -, -⟩, -, body_names⟩, -⟩ := names
    simp [Function.isLawful, named.all_may name, params.all_may param_names,
      allLawful_of_spelled body body_names shaped]

/-- A statement takes its names from the tokens, and the targets in it have the right shape. -/
theorem Stmt.isLawful_of_spelled : ∀ {s : Stmt} {ts : List Token}, s.Spelled ts → All may ts →
    s.isShaped = true → s.isLawful may = true
  | _, _, .block _ body _, names, shaped => by
    simp only [All.append_iff, All.cons_iff] at names
    exact allLawful_of_spelled body names.1.2 shaped
  | _, _, .declare _ is_name _ _, names, _ => by
    simp only [All.append_iff, All.cons_iff] at names
    simp [Stmt.isLawful, optionalLawful, names.1.2.1 is_name]
  | _, _, .declareWith _ is_name _ _ init _, names, shaped => by
    simp only [All.append_iff, All.cons_iff] at names
    obtain ⟨⟨⟨-, name, -⟩, -, init_names⟩, -⟩ := names
    simp only [Stmt.isShaped, Bool.and_eq_true] at shaped
    simp [Stmt.isLawful, optionalLawful, name is_name,
      Expr.isLawful_of_spelled init init_names shaped.2]
  | _, _, .constant _ is_name _ _ init _, names, shaped => by
    simp only [All.append_iff, All.cons_iff] at names
    obtain ⟨⟨⟨-, name, -⟩, -, init_names⟩, -⟩ := names
    simp only [Stmt.isShaped, Bool.and_eq_true] at shaped
    simp [Stmt.isLawful, name is_name, Expr.isLawful_of_spelled init init_names shaped.2]
  | _, _, .expr spelled _, names, shaped => by
    simp only [All.append_iff] at names
    simp only [Stmt.isShaped, Bool.and_eq_true] at shaped
    exact Expr.isLawful_of_spelled spelled names.1 shaped.1
  | _, _, .print _ spelled _, names, shaped => by
    simp only [All.append_iff, All.cons_iff] at names
    exact Expr.isLawful_of_spelled spelled names.1.2 shaped
  | _, _, .if_ _ _ condition _ branch, names, shaped => by
    simp only [All.append_iff, All.cons_iff] at names
    obtain ⟨⟨-, -, c_names⟩, -, a_names⟩ := names
    simp only [Stmt.isShaped, Bool.and_eq_true] at shaped
    simp [Stmt.isLawful, statementLawful, Expr.isLawful_of_spelled condition c_names shaped.1.1,
      Stmt.isLawful_of_spelled branch a_names shaped.2]
  | _, _, .ifElse _ _ condition _ first _ second, names, shaped => by
    simp only [All.append_iff, All.cons_iff] at names
    obtain ⟨⟨⟨-, -, c_names⟩, -, a_names⟩, -, b_names⟩ := names
    simp only [Stmt.isShaped, Bool.and_eq_true] at shaped
    obtain ⟨⟨⟨⟨⟨c_shaped, -⟩, a_shaped⟩, -⟩, -⟩, b_shaped⟩ := shaped
    simp [Stmt.isLawful, statementLawful, Expr.isLawful_of_spelled condition c_names c_shaped,
      Stmt.isLawful_of_spelled first a_names a_shaped,
      Stmt.isLawful_of_spelled second b_names b_shaped]
  | _, _, .while_ _ _ condition _ round, names, shaped => by
    simp only [All.append_iff, All.cons_iff] at names
    obtain ⟨⟨-, -, c_names⟩, -, body_names⟩ := names
    simp only [Stmt.isShaped, Bool.and_eq_true] at shaped
    simp [Stmt.isLawful, Expr.isLawful_of_spelled condition c_names shaped.1.1,
      Stmt.isLawful_of_spelled round body_names shaped.2]
  | _, _, .for_ _ _ start condition _ update _ round, names, shaped => by
    simp only [All.append_iff, All.cons_iff] at names
    obtain ⟨⟨⟨⟨-, -, init_names⟩, c_names⟩, -, update_names⟩, -, body_names⟩ := names
    simp only [Stmt.isShaped, Bool.and_eq_true] at shaped
    obtain ⟨⟨⟨⟨init_shaped, c_shaped⟩, update_shaped⟩, -⟩, body_shaped⟩ := shaped
    simp [Stmt.isLawful, statementLawful_of_spelled start init_names init_shaped,
      optionalLawful_of_spelled condition c_names c_shaped,
      optionalLawful_of_spelled update update_names update_shaped,
      Stmt.isLawful_of_spelled round body_names body_shaped]
  | _, _, .break_ _ _, _, _ | _, _, .continue_ _ _, _, _ => rfl
  | _, _, .return_ _ value _, names, shaped => by
    simp only [All.append_iff, All.cons_iff] at names
    exact optionalLawful_of_spelled value names.1.2 shaped
  | _, _, .function _ inner, names, shaped => by
    simp only [All.cons_iff] at names
    simp only [Stmt.isShaped, Bool.and_eq_true] at shaped
    simp [Stmt.isLawful, shaped.1, Function.isLawful_of_spelled inner names.2 shaped.2]

theorem statementLawful_of_spelled : ∀ {init : Option Stmt} {ts : List Token},
    InitSpelled init ts → All may ts → initShaped init = true → statementLawful may init = true
  | _, _, .missing _, _, _ => rfl
  | _, _, .expr spelled _, names, shaped => by
    simp only [All.append_iff] at names
    exact Expr.isLawful_of_spelled spelled names.1 shaped
  | _, _, .variable_ variable_ spelled, names, shaped =>
    Stmt.isLawful_of_spelled spelled names (initShaped_of_isVariable variable_ ▸ shaped)

theorem optionalLawful_of_spelled : ∀ {e : Option Expr} {ts : List Token},
    OptionalSpelled e ts → All may ts → optionalShaped e = true → optionalLawful may e = true
  | _, _, .missing, _, _ => rfl
  | _, _, .given spelled, names, shaped => Expr.isLawful_of_spelled spelled names shaped

theorem allLawful_of_spelled : ∀ {ss : List Stmt} {ts : List Token}, BodySpelled ss ts →
    All may ts → allShaped ss = true → allLawful may ss = true
  | _, _, .nil, _, _ => rfl
  | _, _, .cons spelled others, names, shaped => by
    simp only [All.append_iff] at names
    simp only [allShaped, Bool.and_eq_true] at shaped
    simp [allLawful, Stmt.isLawful_of_spelled spelled names.1 shaped.1,
      allLawful_of_spelled others names.2 shaped.2]

end

/-! ## Parsing -/

/-- Only some of the tokens count. -/
theorem Named.All.body {tokens : List Token} (names : All may tokens) :
    All may (Parser.body tokens) := by
  intro t inside
  have significant := List.takeWhile_subset _ inside
  exact names t (List.mem_filter.mp significant).1

/-- What a program declares are names among its tokens. -/
theorem parseProgram_isLawful {tokens : List Token} {p : Program}
    (parsed : parseProgram tokens = .ok p) (names : All may tokens) :
    p.isLawful may = true := by
  unfold parseProgram at parsed
  split at parsed
  next body ok =>
    cases parsed
    obtain ⟨spelled, shaped⟩ := Parser.of_statements ok
    exact allLawful_of_spelled spelled names.body shaped
  next => cases parsed

theorem parseExpression_isLawful {tokens : List Token} {e : Expr}
    (parsed : parseExpression tokens = .ok e) (names : All may tokens) :
    e.isLawful may = true := by
  unfold parseExpression at parsed
  split at parsed
  next p ok =>
    cases parsed
    obtain ⟨pre, same, fits⟩ :=
      (Parser.soundBelow _).expression (Nat.lt_succ_self _) ⟨p.shorter, ok⟩
    have inside := names.body
    rw [same, All.append_iff] at inside
    exact Expr.isLawful_of_spelled fits.spelled inside.1 fits.shaped
  next => cases parsed

end Scriptlet
