import Scriptlet.Proofs.Diagnostic.Location
import Scriptlet.Proofs.Eval.Layout
import Scriptlet.Proofs.Tree.Soundness
import Scriptlet.Repl.Balance

/-!
# What parses is complete

A dialogue judges a text by its brackets alone, before it is parsed.  The judgment never
stands in the way of a program: what parses is complete (`parsed_is_complete`).

*Balance.*  `Balanced` describes tokens whose brackets are closed in turn and whose strings
are closed.  A scan of such tokens leaves the open brackets as they were
(`Balanced.ofTokens_append`).

*Trees.*  The tokens of every tree are balanced.  Each relation that says how a sort of node
is spelled puts brackets around balanced tokens, or puts such tokens side by side
(`Expr.Spelled.balanced`, `BodySpelled.balanced`).
-/

namespace Scriptlet

/-! ## Balanced tokens -/

/-- Tokens in which each bracket is closed by its own kind, after balanced tokens, and each
string is closed. -/
inductive Balanced : List Token → Prop
  | nil : Balanced []
  | plain {t : Token} {ts : List Token} :
    Bracket.opened? t.kind = none → Bracket.closed? t.kind = none →
    (t.kind = .string → t.isUnterminated = false) → Balanced ts → Balanced (t :: ts)
  | enclosed {b : Bracket} {opening close : Token} {ts us : List Token} :
    Bracket.opened? opening.kind = some b → Balanced ts → Bracket.closed? close.kind = some b →
    Balanced us → Balanced (opening :: ts ++ close :: us)

/-- Only strings among some tokens lack a closing quote. -/
def Token.OnlyStrings (ts : List Token) : Prop :=
  ∀ t ∈ ts, t.isUnterminated = true → t.kind = .string

/-- A kind that is neither a bracket nor a string. -/
def Kind.isPlain (k : Kind) : Bool :=
  (Bracket.opened? k).isNone && (Bracket.closed? k).isNone && k ≠ .string

theorem Token.OnlyStrings.closed {ts : List Token} (only : OnlyStrings ts) {t : Token}
    (member : t ∈ ts) (closed : t.kind = .string → t.isUnterminated = false) :
    t.isUnterminated = false := by
  rcases Bool.eq_false_or_eq_true t.isUnterminated with unterminated | terminated
  · exact closed (only t member unterminated)
  · exact terminated

namespace Bracket

/-- No kind both opens and closes a bracket. -/
theorem opened?_eq_none {k : Kind} {b : Bracket} (closes : closed? k = some b) :
    opened? k = none := by
  unfold closed? at closes
  split at closes <;> first | rfl | cases closes

/-- A bracket is no string. -/
theorem not_string {k : Kind} {b : Bracket} (is_bracket : opened? k = some b ∨ closed? k = some b) :
    k ≠ .string := by
  rintro rfl
  rcases is_bracket with h | h <;> cases h

end Bracket

namespace Balanced

variable {t opening close : Token} {ts us : List Token}

/-- Balanced tokens go on with balanced ones. -/
theorem append (first : Balanced ts) (second : Balanced us) : Balanced (ts ++ us) := by
  induction first with
  | nil => exact second
  | plain opens closes closed _ ih => exact .plain opens closes closed ih
  | enclosed opens inner closes _ _ ih =>
    rw [List.append_assoc, List.cons_append]
    exact .enclosed opens inner closes ih

theorem cons {k : Kind} (is_k : t.kind = k) (behind : Balanced ts)
    (plain : k.isPlain = true := by rfl) : Balanced (t :: ts) := by
  subst is_k
  simp only [Kind.isPlain, Bool.and_eq_true, Option.isNone_iff_eq_none, decide_eq_true_eq] at plain
  obtain ⟨⟨opens, closes⟩, not_string⟩ := plain
  exact .plain opens closes (fun is_string => absurd is_string not_string) behind

theorem string (is_string : t.kind = .string) (closed : t.isUnterminated = false)
    (behind : Balanced ts) : Balanced (t :: ts) :=
  .plain (by rw [is_string]; rfl) (by rw [is_string]; rfl) (fun _ => closed) behind

/-- Balanced tokens between two brackets of the same shape. -/
theorem wrap {k k' : Kind} (opens : opening.kind = k) (inner : Balanced ts)
    (closes : close.kind = k') (behind : Balanced us)
    (same : Bracket.opened? k = Bracket.closed? k' := by rfl)
    (opener : (Bracket.opened? k).isSome = true := by rfl) :
    Balanced (opening :: ts ++ close :: us) := by
  subst opens closes
  obtain ⟨b, is_b⟩ := Option.isSome_iff_exists.mp opener
  exact .enclosed is_b inner (same ▸ is_b) behind

end Balanced

/-! ## The scan -/

namespace Verdict

variable {stack : List Bracket} {b : Bracket} {t : Token} {ts rest : List Token}

theorem ofTokens_plain (closed : t.isUnterminated = false) (opens : Bracket.opened? t.kind = none)
    (closes : Bracket.closed? t.kind = none) :
    ofTokens stack (t :: rest) = ofTokens stack rest := by
  simp [ofTokens, closed, opens, closes]

/-- A bracket that opens is put on the stack. -/
theorem ofTokens_opening (closed : t.isUnterminated = false)
    (opens : Bracket.opened? t.kind = some b) :
    ofTokens stack (t :: rest) = ofTokens (b :: stack) rest := by
  simp [ofTokens, closed, opens]

/-- The one that closes it is taken off. -/
theorem ofTokens_closing (closed : t.isUnterminated = false)
    (closes : Bracket.closed? t.kind = some b) :
    ofTokens (b :: stack) (t :: rest) = ofTokens stack rest := by
  simp [ofTokens, closed, Bracket.opened?_eq_none closes, closes]

/-- White space has no part in the verdict. -/
theorem ofTokens_significant (only : Token.OnlyStrings ts) :
    ofTokens stack (Token.significant ts) = ofTokens stack ts := by
  induction ts generalizing stack with
  | nil => rfl
  | cons t ts ih =>
    have behind : Token.OnlyStrings ts := fun t member => only t (.tail _ member)
    by_cases is_space : t.kind = .space
    · have closed : t.isUnterminated = false :=
        only.closed (.head _) fun is_string => by cases is_space.symm.trans is_string
      have skipped : Token.significant (t :: ts) = Token.significant ts := by
        simp [Token.significant, is_space]
      rw [skipped, ih behind, ofTokens_plain closed (by rw [is_space]; rfl) (by rw [is_space]; rfl)]
    · have kept : Token.significant (t :: ts) = t :: Token.significant ts := by
        simp [Token.significant, is_space]
      rw [kept]
      simp only [ofTokens, ih behind]

end Verdict

/-- A scan of balanced tokens leaves the open brackets as they were. -/
theorem Balanced.ofTokens_append {ts : List Token} (balanced : Balanced ts)
    (only : Token.OnlyStrings ts) (stack : List Bracket) (rest : List Token) :
    Verdict.ofTokens stack (ts ++ rest) = Verdict.ofTokens stack rest := by
  induction balanced generalizing stack rest with
  | nil => rfl
  | plain opens closes closed _ ih =>
    rw [List.cons_append, Verdict.ofTokens_plain (only.closed (.head _) closed) opens closes]
    exact ih (fun t member => only t (.tail _ member)) stack rest
  | @enclosed b opening close ts us opens _ closes _ inner_ih behind_ih =>
    have inner : Token.OnlyStrings ts := fun t member => only t (by simp [member])
    have behind : Token.OnlyStrings us := fun t member => only t (by simp [member])
    have opening_closed : opening.isUnterminated = false :=
      only.closed (by simp) fun is_string => absurd is_string (Bracket.not_string (.inl opens))
    have close_closed : close.isUnterminated = false :=
      only.closed (by simp) fun is_string => absurd is_string (Bracket.not_string (.inr closes))
    calc Verdict.ofTokens stack (opening :: ts ++ close :: us ++ rest)
      _ = Verdict.ofTokens (b :: stack) (ts ++ (close :: us ++ rest)) := by
          rw [List.append_assoc, List.cons_append, Verdict.ofTokens_opening opening_closed opens]
      _ = Verdict.ofTokens (b :: stack) (close :: (us ++ rest)) := inner_ih inner _ _
      _ = Verdict.ofTokens stack (us ++ rest) := Verdict.ofTokens_closing close_closed closes
      _ = Verdict.ofTokens stack rest := behind_ih behind _ _

/-! ## Parts without expressions -/

theorem UnaryOp.isPlain_symbol (op : UnaryOp) : (Kind.symbol op.symbol).isPlain = true := by
  rcases op with _ | _ | step
  · rfl
  · rfl
  · cases step <;> rfl

theorem StepOp.isPlain_symbol (op : StepOp) : (Kind.symbol op.symbol).isPlain = true :=
  UnaryOp.isPlain_symbol (.step op)

theorem BinaryOp.isPlain_symbol (op : BinaryOp) : (Kind.symbol op.symbol).isPlain = true := by
  cases op <;> rfl

theorem AssignOp.isPlain_symbol (op : AssignOp) : (Kind.symbol op.symbol).isPlain = true := by
  cases op <;> rfl

theorem Annotated.balanced {type : Option TypeName} {ts : List Token}
    (spelled : Annotated type ts) : Balanced ts := by
  cases spelled with
  | missing => exact .nil
  | given colon is_type => exact .cons colon (.cons is_type .nil)

theorem Declared.balanced {init : Expr} {type : Option TypeName} {ts : List Token}
    (spelled : Declared init type ts) : Balanced ts := by
  cases spelled with
  | given written => exact written.balanced
  | inferred => exact .nil

theorem Param.Spelled.balanced {p : Param} {ts : List Token} (spelled : p.Spelled ts) :
    Balanced ts := by
  cases spelled with
  | mk name type => exact .cons name type.balanced

theorem ParamsSpelled.balanced {ps : List Param} {ts : List Token} (spelled : ParamsSpelled ps ts) :
    Balanced ts := by
  induction spelled with
  | nil => exact .nil
  | one first => exact first.balanced
  | cons first comma _ _ ih => exact first.balanced.append (.cons comma ih)

theorem Named.balanced {name : Option String} {ts : List Token} (spelled : Named name ts) :
    Balanced ts := by
  cases spelled with
  | missing => exact .nil
  | given is_name => exact .cons is_name .nil

theorem Keyed.balanced {name : String} {t : Token} {ts : List Token} (keyed : Keyed name t)
    (behind : Balanced ts) : Balanced (t :: ts) := by
  cases keyed with
  | identifier is_name => exact .cons is_name behind
  | string is_string closed => exact .string is_string closed behind

/-! ## Expressions and statements -/

mutual

/-- Each rule of the grammar writes its brackets in pairs. -/
theorem Expr.Spelled.balanced : ∀ {e : Expr} {ts : List Token}, e.Spelled ts → Balanced ts
  | _, _, .number kind | _, _, .true_ kind | _, _, .false_ kind | _, _, .null kind
  | _, _, .identifier kind => .cons kind .nil
  | _, _, .string kind closed => .string kind closed .nil
  | _, _, .group opens inner closes => .wrap opens inner.balanced closes .nil
  | _, _, .array opens items closes => .wrap opens items.balanced closes .nil
  | _, _, .object opens items closes => .wrap opens items.balanced closes .nil
  | _, _, .function word inner => .cons word inner.balanced
  | _, _, .member first dot name => first.balanced.append (.cons dot (.cons name .nil))
  | _, _, .index first opens key closes => by
    rw [List.append_assoc]
    exact first.balanced.append (.wrap opens key.balanced closes .nil)
  | _, _, .call first opens items closes => by
    rw [List.append_assoc]
    exact first.balanced.append (.wrap opens items.balanced closes .nil)
  | _, _, .unary kind operand => .cons kind operand.balanced (UnaryOp.isPlain_symbol _)
  | _, _, .stepAfter first kind =>
    first.balanced.append (.cons kind .nil (StepOp.isPlain_symbol _))
  | _, _, .binary left kind right =>
    left.balanced.append (.cons kind right.balanced (BinaryOp.isPlain_symbol _))
  | _, _, .conditional condition question whenTrue colon whenFalse =>
    (condition.balanced.append (.cons question whenTrue.balanced)).append
      (.cons colon whenFalse.balanced)
  | _, _, .assign target kind value =>
    target.balanced.append (.cons kind value.balanced (AssignOp.isPlain_symbol _))

theorem ItemsSpelled.balanced : ∀ {trailing : Bool} {es : List Expr} {ts : List Token},
    ItemsSpelled trailing es ts → Balanced ts
  | _, _, _, .nil => .nil
  | _, _, _, .one spelled => spelled.balanced
  | _, _, _, .cons spelled comma others _ => spelled.balanced.append (.cons comma others.balanced)

theorem PropertiesSpelled.balanced : ∀ {ps : List (String × Expr)} {ts : List Token},
    PropertiesSpelled ps ts → Balanced ts
  | _, _, .nil => .nil
  | _, _, .one key colon spelled => key.balanced (.cons colon spelled.balanced)
  | _, _, .cons key colon spelled comma others =>
    (key.balanced (.cons colon spelled.balanced)).append (.cons comma others.balanced)

theorem Function.Spelled.balanced : ∀ {start : Span} {f : Function} {ts : List Token},
    f.Spelled start ts → Balanced ts
  | _, _, _, .mk named opens params closes returns left body right => by
    simp only [List.append_assoc, List.cons_append]
    exact named.balanced.append (.wrap opens params.balanced closes
      (returns.balanced.append (.wrap left body.balanced right .nil)))

theorem Stmt.Spelled.balanced : ∀ {s : Stmt} {ts : List Token}, s.Spelled ts → Balanced ts
  | _, _, .block left body right => .wrap left body.balanced right .nil
  | _, _, .declare kind name type stop =>
    .cons kind (.cons name (type.balanced.append (.cons stop .nil)))
  | _, _, .declareWith kind name type equal init stop
  | _, _, .constant kind name type equal init stop => by
    rw [List.append_assoc]
    exact .cons kind (.cons name (type.balanced.append
      (.cons equal (init.balanced.append (.cons stop .nil)))))
  | _, _, .expr spelled stop => spelled.balanced.append (.cons stop .nil)
  | _, _, .print kind spelled stop => .cons kind (spelled.balanced.append (.cons stop .nil))
  | _, _, .if_ kind opens condition closes branch =>
    .cons kind (.wrap opens condition.balanced closes branch.balanced)
  | _, _, .ifElse kind opens condition closes first word second =>
    .append (.cons kind (.wrap opens condition.balanced closes first.balanced))
      (.cons word second.balanced)
  | _, _, .while_ kind opens condition closes round =>
    .cons kind (.wrap opens condition.balanced closes round.balanced)
  | _, _, .for_ kind opens start condition stop update closes round => by
    simp only [List.append_assoc, List.cons_append]
    have clauses := start.balanced.append (condition.balanced.append (.cons stop update.balanced))
    simpa using Balanced.cons kind (.wrap opens clauses closes round.balanced)
  | _, _, .break_ kind stop | _, _, .continue_ kind stop => .cons kind (.cons stop .nil)
  | _, _, .return_ kind value stop => .cons kind (value.balanced.append (.cons stop .nil))
  | _, _, .function word inner => .cons word inner.balanced

theorem InitSpelled.balanced : ∀ {init : Option Stmt} {ts : List Token}, InitSpelled init ts →
    Balanced ts
  | _, _, .missing stop => .cons stop .nil
  | _, _, .expr spelled stop => spelled.balanced.append (.cons stop .nil)
  | _, _, .variable_ _ spelled => spelled.balanced

theorem OptionalSpelled.balanced : ∀ {e : Option Expr} {ts : List Token}, OptionalSpelled e ts →
    Balanced ts
  | _, _, .missing => .nil
  | _, _, .given spelled => spelled.balanced

theorem BodySpelled.balanced : ∀ {ss : List Stmt} {ts : List Token}, BodySpelled ss ts →
    Balanced ts
  | _, _, .nil => .nil
  | _, _, .cons spelled others => spelled.balanced.append others.balanced

end

/-! ## Texts -/

namespace TokenStream

theorem isString_of_isUnterminated {kind : Kind} {p : Place} {lexeme : List Char}
    (unterminated : (token kind p lexeme).isUnterminated = true) : kind = .string := by
  unfold Token.isUnterminated token literal? at unterminated
  split at unterminated
  next literal =>
    simp only at literal
    split at literal <;> first | rfl | cases literal
  next => cases unterminated

/-- Only a string can lack its end. -/
theorem onlyStrings_place (p : Place) (ps : List Piece) : Token.OnlyStrings (place p ps) := by
  induction ps generalizing p with
  | nil => simp [Token.OnlyStrings, place]
  | cons piece ps ih =>
    rw [place]
    cases piece.kind with
    | none => exact ih _
    | some kind => exact List.forall_mem_cons.mpr ⟨isString_of_isUnterminated, ih _⟩

end TokenStream

theorem onlyStrings_of_tokenize {source : String} {ts : List Token}
    (read : tokenize source = .ok ts) : Token.OnlyStrings ts := by
  obtain ⟨t, last, rfl⟩ := tokenize_eq_ok.mp read
  obtain rfl := TokenStream.eq_endToken last
  refine List.forall_mem_append.mpr ⟨TokenStream.onlyStrings_place _ _, ?_⟩
  exact List.forall_mem_singleton.mpr fun unterminated => nomatch unterminated

/-- A text with balanced tokens is complete. -/
theorem Balanced.ofText {source : String} {ts : List Token} (read : tokenize source = .ok ts)
    (balanced : Balanced (Parser.body ts)) : Verdict.ofText source = .complete := by
  have only := onlyStrings_of_tokenize read
  obtain ⟨split, -⟩ := significant_of_tokenize read
  obtain ⟨-, -, is_eof, -⟩ := tokens_inSource read
  have stop_closed : (Parser.stop ts).isUnterminated = false := by
    refine only.closed ?_ fun is_string => nomatch is_eof.symm.trans is_string
    exact (List.mem_filter.mp (split ▸ List.mem_append_right _ (.head _))).1
  have body_only : Token.OnlyStrings (Parser.body ts) := fun t member =>
    only t (List.mem_filter.mp (split ▸ List.mem_append_left _ member)).1
  unfold Verdict.ofText
  rw [read]
  calc Verdict.ofTokens [] ts
    _ = Verdict.ofTokens [] (Parser.body ts ++ [Parser.stop ts]) := by
        rw [← split, Verdict.ofTokens_significant only]
    _ = Verdict.ofTokens [] [Parser.stop ts] := balanced.ofTokens_append body_only _ _
    _ = .complete := by
        rw [Verdict.ofTokens_plain stop_closed (by rw [is_eof]; rfl) (by rw [is_eof]; rfl)]
        rfl

/-- What parses is complete.  So a text that is held back for more, or for an unmatched
bracket, is one that does not parse. -/
theorem parsed_is_complete (input : String) :
    (∀ p : Program, parseText input = .ok p → Verdict.ofText input = .complete) ∧
      (Verdict.ofText input ≠ .complete → ∃ e, parseText input = .error e) := by
  have complete : ∀ p : Program, parseText input = .ok p → Verdict.ofText input = .complete := by
    intro p parsed
    obtain ⟨ts, read, spelled⟩ := bodySpelled_of_parseText parsed
    exact Balanced.ofText read spelled.balanced
  refine ⟨complete, fun held => ?_⟩
  cases outcome : parseText input with
  | ok p => exact absurd (complete p outcome) held
  | error e => exact ⟨e, rfl⟩

/-- Brackets of all shapes inside each other, and one in a string. -/
def nesting : String := "function f(a) \x7b return [a, \x7b k: (a) \x7d]; \x7d f(\")\");"

/-- The text parses and is complete.  A call that is broken off is neither. -/
theorem parsed_is_complete_nesting :
    (∃ p, parseText nesting = .ok p) ∧ Verdict.ofText nesting = .complete ∧
      Verdict.ofText "f([1, 2" = .incomplete ∧ ∃ e, parseText "f([1, 2" = .error e := by
  have parses : (parseText nesting).isOk = true := by decide +kernel
  have held : Verdict.ofText "f([1, 2" = .incomplete := by decide +kernel
  cases outcome : parseText nesting with
  | error e => rw [outcome] at parses; cases parses
  | ok p =>
    refine ⟨⟨p, rfl⟩, (parsed_is_complete nesting).1 p outcome, held, ?_⟩
    exact (parsed_is_complete "f([1, 2").2 (by rw [held]; exact Verdict.noConfusion)

end Scriptlet
