import Scriptlet.Eval.Run
import Scriptlet.Proofs.Eval.Twin
import Scriptlet.Proofs.Token.Tiling
import Scriptlet.Proofs.Tree.Lockstep

/-!
# What a text does not say

White space, comments and the choice between the spellings of a token do not
matter (`layout_does_not_matter`).  Two texts with tokens that agree are refused
at the same token for the same cause, or they spell programs that are the same
without their spans.  Such programs run in the same way, since no step looks at a
span, other than to put it into an error.

Programs that are the same without their spans are alike in the sense of a
`Likeness`, so their runs are twins that share all cells.
-/

namespace Scriptlet

/-! ## Programs without spans as a likeness -/

section

variable {α β : Type} {f : α → β}

/-- Two lists are the same one by one if they are the same as a whole. -/
theorem forall₂_same_of_map {as bs : List α} (same : as.map f = bs.map f) :
    List.Forall₂ (Same f) as bs := by
  have related : List.Forall₂ Eq (as.map f) (bs.map f) := List.forall₂_eq_eq_eq ▸ same
  rwa [List.forall₂_map_left_iff, List.forall₂_map_right_iff] at related

theorem rel_same_of_map {a b : Option α} (same : a.map f = b.map f) : Option.Rel (Same f) a b := by
  cases a with
  | none =>
    cases b with
    | none => exact .none
    | some => cases same
  | some a =>
    cases b with
    | none => cases same
    | some b => exact .some (Option.some.inj same)

end

theorem forall₂_of_bareAll {es es' : List Expr} (same : bareAll es = bareAll es') :
    List.Forall₂ (Same Expr.bare) es es' := by
  rw [bareAll_eq_map, bareAll_eq_map] at same
  exact forall₂_same_of_map same

theorem forall₂_of_bareProperties {ps ps' : List (String × Expr)}
    (same : bareProperties ps = bareProperties ps') :
    List.Forall₂ (fun p p' => p.1 = p'.1 ∧ Same Expr.bare p.2 p'.2) ps ps' := by
  rw [bareProperties_eq_map, bareProperties_eq_map] at same
  exact (forall₂_same_of_map same).imp fun _ _ related => Prod.mk.inj related

theorem forall₂_of_bareStatements {ss ss' : List Stmt}
    (same : bareStatements ss = bareStatements ss') : List.Forall₂ (Same Stmt.bare) ss ss' := by
  rw [bareStatements_eq_map, bareStatements_eq_map] at same
  exact forall₂_same_of_map same

theorem rel_of_bareOptional {e e' : Option Expr} (same : bareOptional e = bareOptional e') :
    Option.Rel (Same Expr.bare) e e' := by
  rw [bareOptional_eq_map, bareOptional_eq_map] at same
  exact rel_same_of_map same

theorem rel_of_bareStatement? {s s' : Option Stmt} (same : bareStatement? s = bareStatement? s') :
    Option.Rel (Same Stmt.bare) s s' := by
  rw [bareStatement?_eq_map, bareStatement?_eq_map] at same
  exact rel_same_of_map same

/-- Any two spans. -/
abbrev AnySpans (_ _ : Span) : Prop := True

/-- Expressions that are the same without spans are parallel. -/
theorem Expr.parallel_of_bare {e e' : Expr} (same : e.bare = e'.bare) :
    Expr.Parallel (Same Expr.bare) (Same Function.bare) AnySpans e e' := by
  cases e with
  | number =>
    cases e' with
    | number =>
      obtain ⟨rfl, -⟩ := Expr.number.inj same
      exact .number trivial
    | _ => cases same
  | string =>
    cases e' with
    | string =>
      obtain ⟨rfl, -⟩ := Expr.string.inj same
      exact .string trivial
    | _ => cases same
  | boolean =>
    cases e' with
    | boolean =>
      obtain ⟨rfl, -⟩ := Expr.boolean.inj same
      exact .boolean trivial
    | _ => cases same
  | null =>
    cases e' with
    | null => exact .null trivial
    | _ => cases same
  | identifier =>
    cases e' with
    | identifier =>
      obtain ⟨rfl, -⟩ := Expr.identifier.inj same
      exact .identifier trivial
    | _ => cases same
  | group =>
    cases e' with
    | group => exact .group (Expr.group.inj same).1 trivial
    | _ => cases same
  | array =>
    cases e' with
    | array => exact .array (forall₂_of_bareAll (Expr.array.inj same).1) trivial
    | _ => cases same
  | object =>
    cases e' with
    | object => exact .object (forall₂_of_bareProperties (Expr.object.inj same).1) trivial
    | _ => cases same
  | function =>
    cases e' with
    | function => exact .function (Expr.function.inj same) trivial
    | _ => cases same
  | member =>
    cases e' with
    | member =>
      obtain ⟨object, rfl, -⟩ := Expr.member.inj same
      exact .member object trivial
    | _ => cases same
  | index =>
    cases e' with
    | index =>
      obtain ⟨object, key, -⟩ := Expr.index.inj same
      exact .index object key trivial
    | _ => cases same
  | call =>
    cases e' with
    | call =>
      obtain ⟨callee, args, -⟩ := Expr.call.inj same
      exact .call callee (forall₂_of_bareAll args) trivial
    | _ => cases same
  | unary =>
    cases e' with
    | unary =>
      obtain ⟨rfl, operand, -⟩ := Expr.unary.inj same
      exact .unary operand trivial
    | _ => cases same
  | stepAfter =>
    cases e' with
    | stepAfter =>
      obtain ⟨rfl, operand, -⟩ := Expr.stepAfter.inj same
      exact .stepAfter operand trivial
    | _ => cases same
  | binary =>
    cases e' with
    | binary =>
      obtain ⟨rfl, left, right, -⟩ := Expr.binary.inj same
      exact .binary left right trivial
    | _ => cases same
  | conditional =>
    cases e' with
    | conditional =>
      obtain ⟨condition, whenTrue, whenFalse, -⟩ := Expr.conditional.inj same
      exact .conditional condition whenTrue whenFalse trivial
    | _ => cases same
  | assign =>
    cases e' with
    | assign =>
      obtain ⟨rfl, target, value, -⟩ := Expr.assign.inj same
      exact .assign target value trivial
    | _ => cases same

theorem Function.parallel_of_bare {f f' : Function} (same : f.bare = f'.bare) :
    Function.Parallel AnySpans (Same Stmt.bare) f f' := by
  obtain ⟨name, ps, returns, body, s⟩ := f
  obtain ⟨name', ps', returns', body', s'⟩ := f'
  obtain ⟨names, params, types, bodies, -⟩ := Function.mk.inj same
  refine ⟨names, ?_, types, forall₂_of_bareStatements bodies, trivial⟩
  refine (forall₂_same_of_map params).imp fun p p' related => ?_
  obtain ⟨param_names, param_types, -⟩ := Param.mk.inj related
  exact ⟨param_names, param_types, trivial⟩

/-- Statements that are the same without spans are parallel. -/
theorem Stmt.parallel_of_bare {s s' : Stmt} (same : s.bare = s'.bare) :
    Stmt.Parallel (Same Expr.bare) (Same Function.bare) AnySpans (Same Stmt.bare)
      (Same Stmt.bare) (fun _ => True) s s' := by
  cases s with
  | block =>
    cases s' with
    | block => exact .block (forall₂_of_bareStatements (Stmt.block.inj same).1) trivial
    | _ => cases same
  | declare =>
    cases s' with
    | declare =>
      obtain ⟨rfl, rfl, rfl, init, -⟩ := Stmt.declare.inj same
      exact .declare (rel_of_bareOptional init) trivial
    | _ => cases same
  | constant =>
    cases s' with
    | constant =>
      obtain ⟨rfl, rfl, init, -⟩ := Stmt.constant.inj same
      exact .constant init trivial
    | _ => cases same
  | expr =>
    cases s' with
    | expr => exact .expr (Stmt.expr.inj same).1 trivial
    | _ => cases same
  | print =>
    cases s' with
    | print => exact .print (Stmt.print.inj same).1 trivial
    | _ => cases same
  | if_ =>
    cases s' with
    | if_ =>
      obtain ⟨condition, whenTrue, whenFalse, -⟩ := Stmt.if_.inj same
      exact .if_ condition whenTrue (rel_of_bareStatement? whenFalse) trivial
    | _ => cases same
  | while_ =>
    cases s' with
    | while_ =>
      obtain ⟨condition, body, -⟩ := Stmt.while_.inj same
      exact .while_ condition body trivial
    | _ => cases same
  | for_ =>
    cases s' with
    | for_ =>
      obtain ⟨init, condition, update, body, -⟩ := Stmt.for_.inj same
      exact .for_ (rel_of_bareStatement? init) (rel_of_bareOptional condition)
        (rel_of_bareOptional update) body trivial
    | _ => cases same
  | break_ =>
    cases s' with
    | break_ => exact .break_ trivial trivial
    | _ => cases same
  | continue_ =>
    cases s' with
    | continue_ => exact .continue_ trivial trivial
    | _ => cases same
  | return_ =>
    cases s' with
    | return_ => exact .return_ trivial (rel_of_bareOptional (Stmt.return_.inj same).1) trivial
    | _ => cases same
  | function =>
    cases s' with
    | function => exact .function (Stmt.function.inj same) trivial
    | _ => cases same

/-- Code is like all code that is the same without its spans. -/
def bareness : Likeness where
  span := AnySpans
  Place := Unit
  top := ()
  body := ()
  loop p := p
  allowed _ _ := True
  fails _ := True
  expr := Same Expr.bare
  stmt _ := Same Stmt.bare
  function := Same Function.bare
  expr_parallel := Expr.parallel_of_bare
  stmt_parallel := Stmt.parallel_of_bare
  function_parallel := Function.parallel_of_bare
  return_of_loop h := h
  fails_of_not_isEscape _ := trivial
  fails_of_top _ := trivial
  fails_of_body _ _ := trivial

/-! ## Runs -/

/-- Two runs that print the same lines and end in the same way, with errors that differ in
their spans only. -/
inductive SameRun : EStateM.Result Halt Machine Value → EStateM.Result Halt Machine Value → Prop
  | ok {v : Value} {m m' : Machine} : m.output = m'.output → SameRun (.ok v m) (.ok v m')
  | fault {f : Fault} {s : Span} {m m' : Machine} :
    m.output = m'.output → SameRun (.error (.fault f) m) (.error (.fault (f.at s)) m')
  | crash (c : Crash) {m m' : Machine} :
    m.output = m'.output → SameRun (.error (.crash c) m) (.error (.crash c) m')
  | endless {m m' : Machine} :
    m.output = m'.output → SameRun (.error .endless m) (.error .endless m')

/-- Programs that are the same without their spans run in the same way. -/
theorem sameRun_of_bare {p p' : Program} (same : p.bare = p'.bare) {m : Machine}
    (reached : m.Reached) (fuel : Nat) : SameRun (p.run fuel m) (p'.run fuel m) := by
  have alike : m.heap.Alike bareness.function Eq m.heap := m.heap.alike_self fun _ _ _ _ => rfl
  have programs : Request.Alike bareness Eq (.run p) (.run p') :=
    .run (forall₂_of_bareStatements (Program.mk.inj same))
  -- The machine is a twin of itself, with each cell paired with itself.
  have simulation := simulation_twin (K := bareness) Pairing.oneToOne_eq m m rfl
  have ends := simulation.serve fuel programs m m (Machine.twin_self alike reached.prints)
  change Ends bareness _ _ (p.run fuel m) (p'.run fuel m) at ends
  generalize p.run fuel m = left at ends ⊢
  generalize p'.run fuel m = right at ends ⊢
  cases ends with
  | ok values twin =>
    obtain ⟨lines, output, output'⟩ := twin.output
    cases values.eq
    exact .ok (output.trans output'.symm)
  | error halts twin =>
    obtain ⟨lines, output, output'⟩ := twin.output
    cases halts with
    | fault => exact .fault (output.trans output'.symm)
    | crash c => exact .crash c (output.trans output'.symm)
    | endless => exact .endless (output.trans output'.symm)

/-! ## Tokens that agree -/

/-- Two tokens of the same kind.  Identifiers are the same name, numbers and strings the
same literal. -/
structure Token.Agrees (t t' : Token) : Prop where
  kind : t.kind = t'.kind
  name : t.kind = .identifier → t.lexeme = t'.lexeme
  literal : t.kind = .number ∨ t.kind = .string → t.literal = t'.literal

instance (t t' : Token) : Decidable (t.Agrees t') :=
  decidable_of_iff (t.kind = t'.kind ∧ (t.kind = .identifier → t.lexeme = t'.lexeme) ∧
      (t.kind = .number ∨ t.kind = .string → t.literal = t'.literal))
    ⟨fun h => ⟨h.1, h.2.1, h.2.2⟩, fun h => ⟨h.kind, h.name, h.literal⟩⟩

/-- A number or a string carries its literal. -/
structure Token.Carries (t : Token) : Prop where
  number : t.kind = .number → ∃ n, t.literal = some (.number n)
  string : t.kind = .string → ∃ value unterminated, t.literal = some (.string value unterminated)

/-- The parser cannot tell apart tokens that agree, if one of them carries its literal. -/
theorem Token.Carries.like {t t' : Token} (carries : t.Carries) (agrees : t.Agrees t') :
    t.Like t' where
  kind := agrees.kind
  name := agrees.name
  number is_number := by
    obtain ⟨n, literal⟩ := carries.number is_number
    have literal' := (agrees.literal (.inl is_number)).symm.trans literal
    simp only [Parser.numberOf, literal, literal']
  string is_string := by
    obtain ⟨value, unterminated, literal⟩ := carries.string is_string
    have literal' := (agrees.literal (.inr is_string)).symm.trans literal
    simp only [Parser.stringOf, literal, literal']
  unterminated is_string := by
    simp only [Token.isUnterminated, agrees.literal (.inr is_string)]

namespace TokenStream

theorem carries_token (kind : Kind) (p : Place) (lexeme : List Char) :
    (token kind p lexeme).Carries where
  number is_number := by
    obtain rfl : kind = .number := is_number
    exact ⟨_, rfl⟩
  string is_string := by
    obtain rfl : kind = .string := is_string
    exact ⟨_, _, rfl⟩

/-- A token carries the number and the string that its lexeme writes. -/
theorem carries_place (p : Place) (ps : List Piece) : ∀ t ∈ place p ps, t.Carries := by
  induction ps generalizing p with
  | nil => simp [place]
  | cons piece ps ih =>
    rw [place]
    cases piece.kind with
    | none => exact ih _
    | some kind => exact List.forall_mem_cons.mpr ⟨carries_token kind p piece.text, ih _⟩

/-- A stream that does not end with an error ends with the end of the input. -/
theorem eq_endToken {p : Place} {text : List Char} {t : Token} (h : ending p text = .ok t) :
    t = endToken p := by
  cases text with
  | nil => exact (Except.ok.inj h).symm
  | cons => cases h

end TokenStream

/-- The tokens of a source that are not white space are those of its body and the end of the
input, and they carry their literals. -/
theorem significant_of_tokenize {source : String} {ts : List Token}
    (h : tokenize source = .ok ts) :
    Token.significant ts = Parser.body ts ++ [Parser.stop ts] ∧
      ∀ t ∈ Parser.body ts, t.Carries := by
  obtain ⟨t, last, rfl⟩ := tokenize_eq_ok.mp h
  obtain rfl := TokenStream.eq_endToken last
  have no_stop := TokenStream.kind_place .origin source.toList
  have carries := TokenStream.carries_place .origin (pieces source.toList).1
  change ∀ t ∈ (stream source).tokens, t.kind ≠ .eof at no_stop
  change ∀ t ∈ (stream source).tokens, t.Carries at carries
  -- Only the last token marks the end of the input, and only white space is left out.
  generalize (stream source).tokens = tokens at no_stop carries ⊢
  generalize TokenStream.placeAfter .origin _ = p
  have is_eof : (TokenStream.endToken p).kind = .eof := rfl
  rw [Parser.body_append_eof no_stop is_eof, Parser.stop_append_eof no_stop is_eof]
  exact ⟨Parser.significant_append_eof is_eof,
    fun t member => carries t (List.mem_filter.mp member).1⟩

/-! ## Refusals -/

/-- The error for a token that is refused. -/
def Refusal.Cause.errorAt (cause : Refusal.Cause) (found : Token) : ParseError :=
  match cause with
  | .unexpected e => .unexpected found e
  | .invalidTarget target => .invalidTarget target found.line found.column
  | .unterminated => .unterminated found.span found.line found.column

/-- An error is about the token that was refused, or about the end. -/
theorem Refusal.toError_eq (stop : Token) (r : Refusal) :
    r.toError stop = r.cause.errorAt (r.rest.headD stop) := by
  unfold Refusal.toError
  cases r.cause <;> rfl

/-- A refusal is an error at the first token that is left, or at the end of the input. -/
theorem Refusal.toError_of_drop {r : Refusal} {body : List Token} {i : Nat}
    (rest : r.rest = body.drop i) (stop : Token) :
    ∃ t, (body ++ [stop])[min i body.length]? = some t ∧ r.toError stop = r.cause.errorAt t := by
  rw [toError_eq, rest]
  by_cases inside : i < body.length
  · refine ⟨body[i], ?_, by rw [List.drop_eq_getElem_cons inside, List.headD_cons]⟩
    rw [Nat.min_eq_left (Nat.le_of_lt inside), List.getElem?_append_left inside]
    exact List.getElem?_eq_getElem inside
  · have outside := Nat.le_of_not_lt inside
    refine ⟨stop, ?_, by rw [List.drop_eq_nil_of_le outside, List.headD_nil]⟩
    rw [Nat.min_eq_right outside, List.getElem?_concat_length]

/-! ## Texts -/

/-- Two texts with tokens that agree are both refused, at the same token and for the same
cause, or spell programs that are the same without their spans.  Then a run of one program
is like a run of the other one, for any fuel and on any machine that a session comes to. -/
theorem layout_does_not_matter (s₁ s₂ : String) (ts₁ ts₂ : List Token)
    (h₁ : tokenize s₁ = .ok ts₁) (h₂ : tokenize s₂ = .ok ts₂)
    (agree : List.Forall₂ Token.Agrees (Token.significant ts₁) (Token.significant ts₂)) :
    (∃ (i : Nat) (t₁ t₂ : Token) (c₁ c₂ : Refusal.Cause),
      (Token.significant ts₁)[i]? = some t₁ ∧ (Token.significant ts₂)[i]? = some t₂ ∧
        c₁.bare = c₂.bare ∧ parseProgram ts₁ = .error (c₁.errorAt t₁) ∧
        parseProgram ts₂ = .error (c₂.errorAt t₂)) ∨
    ∃ p₁ p₂ : Program, parseProgram ts₁ = .ok p₁ ∧ parseProgram ts₂ = .ok p₂ ∧
      p₁.bare = p₂.bare ∧
      ∀ m : Machine, m.Reached → ∀ fuel, SameRun (p₁.run fuel m) (p₂.run fuel m) := by
  obtain ⟨split₁, carries⟩ := significant_of_tokenize h₁
  obtain ⟨split₂, -⟩ := significant_of_tokenize h₂
  rw [split₁, split₂] at agree ⊢
  have length : (Parser.body ts₁).length = (Parser.body ts₂).length := by
    simpa using agree.length_eq
  have bodies : List.Forall₂ Token.Agrees (Parser.body ts₁) (Parser.body ts₂) := by
    simpa [length] using List.forall₂_take (Parser.body ts₁).length agree
  have like : List.Forall₂ Token.Like (Parser.body ts₁) (Parser.body ts₂) :=
    ((List.forall₂_and_left _ _).mpr ⟨carries, bodies⟩).imp fun _ _ both => both.1.like both.2
  have parsed := Parser.sameStatements like
  unfold parseProgram
  generalize Parser.statements (Parser.body ts₁) = left at parsed ⊢
  generalize Parser.statements (Parser.body ts₂) = right at parsed ⊢
  cases parsed with
  | ok same =>
    have bare : Program.bare ⟨_⟩ = Program.bare ⟨_⟩ := congrArg Program.mk same
    exact .inr ⟨_, _, rfl, rfl, bare, fun m reached fuel => sameRun_of_bare bare reached fuel⟩
  | @refused r r' cause along =>
    obtain ⟨i, rest, rest'⟩ := along.place
    obtain ⟨t₁, found₁, error₁⟩ := Refusal.toError_of_drop rest (Parser.stop ts₁)
    obtain ⟨t₂, found₂, error₂⟩ := Refusal.toError_of_drop rest' (Parser.stop ts₂)
    rw [← length] at found₂
    exact .inl ⟨_, t₁, t₂, _, _, found₁, found₂, cause, congrArg Except.error error₁,
      congrArg Except.error error₂⟩

/-- A text that prints a line and then fails. -/
def saying : String := "loyal x equals \"a\"; say x plus 1; say minus x;"

/-- The same text in another spelling. -/
def sayingOtherwise : String := "const x/* a */=\"a\"; // b\nprint x + 1.0;\nprint -x;"

/-- The words of the first text stand for the symbols of the second one, so the two programs are
the same but for their spans and run alike. -/
theorem layout_does_not_matter_saying :
    ∃ ts₁ ts₂, tokenize saying = .ok ts₁ ∧ tokenize sayingOtherwise = .ok ts₂ ∧
      List.Forall₂ Token.Agrees (Token.significant ts₁) (Token.significant ts₂) ∧
      ∃ p₁ p₂ : Program, parseProgram ts₁ = .ok p₁ ∧ parseProgram ts₂ = .ok p₂ ∧
        p₁.bare = p₂.bare ∧
        ∀ m : Machine, m.Reached → ∀ fuel, SameRun (p₁.run fuel m) (p₂.run fuel m) := by
  have first : tokenize saying = .ok ((tokenize saying).toOption.getD []) := by decide +kernel
  have second : tokenize sayingOtherwise = .ok ((tokenize sayingOtherwise).toOption.getD []) := by
    decide +kernel
  have agree : List.Forall₂ Token.Agrees
      (Token.significant ((tokenize saying).toOption.getD []))
      (Token.significant ((tokenize sayingOtherwise).toOption.getD [])) := by
    decide +kernel
  refine ⟨_, _, first, second, agree, ?_⟩
  cases layout_does_not_matter _ _ _ _ first second agree with
  | inl refused =>
    obtain ⟨i, t₁, t₂, c₁, c₂, -, -, -, error, -⟩ := refused
    have parses : (parseProgram ((tokenize saying).toOption.getD [])).isOk = true := by
      decide +kernel
    rw [error] at parses
    cases parses
  | inr run => exact run

end Scriptlet
