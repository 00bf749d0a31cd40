import Mathlib.Data.List.TakeWhile
import Scriptlet.Proofs.Tree.Carrying
import Scriptlet.Proofs.Tree.Counting
import Scriptlet.Proofs.Tree.Soundness
import Scriptlet.Tree.Parser

/-!
# The parser ends

Whatever tokens it is given, the parser ends, and what is behind the first end of the input does not
matter (`parser_ends`).

A declaration, a statement or an expression takes at least one token, and never the end of the input
(`consumes`).  So a program takes no more rounds than there are tokens, and the last one is at the
first end of the input.  There the tail is carried along, and its first token is what an error
finds, so nothing but that token is seen of it.
-/

namespace Scriptlet

namespace Parser

/-! ## What is consumed -/

/-- A parser that gives something takes some tokens from the front, and no end of the input. -/
def Consumes {α : Type} {n : Nat} (ts : List Token) (r : ParseResult α n) : Prop :=
  ∀ p, r = .ok p → ∃ used, used ≠ [] ∧ ts = used ++ p.rest ∧ ∀ t ∈ used, t.kind ≠ .eof

/-- Tokens of a tree are consumed if fewer are left. -/
theorem Consumes.of_counts {α : Type} {ts : List Token} {r : ParseResult α ts.length}
    (spelled : ∀ a rest, Yields r a rest → ∃ pre, ts = pre ++ rest ∧ AllCount pre) :
    Consumes ts r := by
  rintro ⟨a, rest, shorter⟩ read
  obtain ⟨pre, same, counts⟩ := spelled a rest ⟨shorter, read⟩
  refine ⟨pre, ?_, same, fun t inside => (counts t inside).2⟩
  rintro rfl
  rw [same, List.nil_append] at shorter
  exact absurd shorter (Nat.lt_irrefl _)

theorem consumes (ts : List Token) :
    Consumes ts (declaration ts) ∧ Consumes ts (statement ts) ∧ Consumes ts (expression ts) := by
  have sound := soundBelow (ts.length + 1)
  have short := Nat.lt_succ_self ts.length
  refine ⟨.of_counts fun s rest read => ?_, .of_counts fun s rest read => ?_,
    .of_counts fun e rest read => ?_⟩
  · obtain ⟨pre, same, fits⟩ := sound.declaration short read
    exact ⟨pre, same, fits.spelled.counts⟩
  · obtain ⟨pre, same, fits⟩ := sound.statement short read
    exact ⟨pre, same, fits.spelled.counts⟩
  · obtain ⟨pre, same, fits⟩ := sound.expression short read
    exact ⟨pre, same, fits.spelled.counts⟩

end Parser

/-! ## Refusals with a tail -/

/-- A refusal with a tail behind the tokens that are left. -/
def Refusal.before (tail : List Token) (r : Refusal) : Refusal := ⟨r.rest ++ tail, r.cause⟩

/-- Behind the tokens that are left the first token of the tail is found. -/
theorem Refusal.toError_before (tail : List Token) (stop : Token) (r : Refusal) :
    (r.before tail).toError stop = r.toError (tail.headD stop) := by
  obtain ⟨rest, cause⟩ := r
  cases rest with
  | nil => rfl
  | cons t us => rfl

namespace Parser

/-! ## Rounds -/

/-- The rounds are as many as the tokens in front of the end of the input, or fewer, and one to find
the end. -/
theorem rounds_append {tail : List Token} (ended : atEnd tail = true) {n : Nat} {ts : List Token}
    (inside : ∀ t ∈ ts, t.kind ≠ .eof) (enough : ts.length < n) :
    rounds n (ts ++ tail) = some ((statements ts).mapError (Refusal.before tail)) := by
  induction n generalizing ts with
  | zero => exact absurd enough (Nat.not_lt_zero _)
  | succ n ih =>
    cases ts with
    | nil =>
      rw [List.nil_append, rounds, if_pos ended, statements]
      rfl
    | cons t us =>
      have goes_on : ¬ atEnd (t :: us ++ tail) = true := by
        simp [atEnd, startsWith, inside t (.head us)]
      have carried := (carriesBelow ended _).declaration (Nat.lt_succ_self (t :: us).length)
      have taken := (consumes (t :: us)).1
      rw [rounds, if_neg goes_on, statements]
      generalize declaration (t :: us) = here at carried taken ⊢
      generalize declaration (t :: us ++ tail) = there at carried ⊢
      cases carried with
      | refused => rfl
      | @ok s vs shorter _ =>
        obtain ⟨used, -, same, -⟩ := taken _ rfl
        have behind : ∀ u ∈ vs, u.kind ≠ .eof := fun u member =>
          inside u (same ▸ List.mem_append_right used member)
        have fewer : vs.length < n := Nat.lt_of_lt_of_le shorter (Nat.le_of_lt_succ enough)
        dsimp only [bind, Except.bind]
        rw [ih behind fewer]
        cases statements vs with
        | ok ss => rfl
        | error r => rfl

/-! ## The first end of the input -/

/-- The tokens that are not white space are those in front of the first end of the input, with a
tail behind them. -/
theorem significant_eq (tokens : List Token) :
    ∃ tail, Token.significant tokens = body tokens ++ tail ∧ atEnd tail = true ∧
      tail.headD (pastEnd (Token.significant tokens)) = stop tokens := by
  generalize found : (Token.significant tokens).dropWhile (fun t => !isStop t) = tail
  have split : body tokens ++ tail = Token.significant tokens :=
    found ▸ List.takeWhile_append_dropWhile
  have first := (Token.significant tokens).find?_eq_head?_dropWhile_not isStop
  rw [found] at first
  refine ⟨tail, split.symm, ?_, ?_⟩
  · cases tail with
    | nil => rfl
    | cons t us =>
      have stops : isStop t = true := List.find?_some first
      exact stops
  · rw [stop, first]
    cases tail with
    | cons t us => rfl
    | nil =>
      -- No token marks the end, so neither does the last one.
      rw [List.head?_nil, List.find?_eq_none] at first
      show pastEnd (Token.significant tokens) = impliedStop _
      unfold pastEnd
      split
      next none_ => rw [none_]
      next t last =>
        rw [if_neg (first t (List.mem_of_getLast? last)), last]

theorem body_inside (tokens : List Token) : ∀ t ∈ body tokens, t.kind ≠ .eof := by
  intro t inside is_eof
  have passed := List.all_eq_true.mp List.all_takeWhile t inside
  rw [isStop, is_eof] at passed
  cases passed

/-- What is behind an end of the input makes no difference. -/
theorem body_append_stop {last : Token} (is_eof : last.kind = .eof) (front behind : List Token) :
    body (front ++ last :: behind) = body (front ++ [last]) ∧
      stop (front ++ last :: behind) = stop (front ++ [last]) := by
  have split (us : List Token) : Token.significant (front ++ last :: us) =
      Token.significant front ++ last :: Token.significant us := by
    simp [Token.significant, is_eof]
  have stops : isStop last = true := decide_eq_true is_eof
  have cut (us : List Token) : (last :: us).takeWhile (fun t => !isStop t) = [] :=
    List.takeWhile_cons_of_neg (by rw [stops]; exact Bool.false_ne_true)
  have found (us : List Token) : (last :: us).find? isStop = some last :=
    List.find?_cons_of_pos stops
  constructor
  · rw [body, body, split, split, List.takeWhile_append, List.takeWhile_append, cut, cut]
  · rw [stop, stop, split, split, List.find?_append, List.find?_append, found, found]
    cases (Token.significant front).find? isStop <;> rfl

end Parser

/-! ## Entry points -/

/-- The loop of a program ends, and gives what the tokens in front of the end of the input do. -/
theorem parseWhole?_eq {n : Nat} {tokens : List Token}
    (enough : (Token.significant tokens).length < n) :
    parseWhole? n tokens = some (parseProgram tokens) := by
  obtain ⟨tail, split, ended, found⟩ := Parser.significant_eq tokens
  have short : (Parser.body tokens).length < n := by
    rw [split, List.length_append] at enough
    omega
  unfold parseWhole? parseProgram
  dsimp only
  rw [← found]
  generalize Parser.pastEnd (Token.significant tokens) = past
  rw [split, Parser.rounds_append ended (Parser.body_inside tokens) short]
  cases Parser.statements (Parser.body tokens) with
  | ok body => rfl
  | error r => exact congrArg (some ∘ Except.error) (r.toError_before tail past)

theorem parseWholeExpression_eq (tokens : List Token) :
    parseWholeExpression tokens = parseExpression tokens := by
  obtain ⟨tail, split, ended, found⟩ := Parser.significant_eq tokens
  have carried := (Parser.carriesBelow ended _).expression
    (Nat.lt_succ_self (Parser.body tokens).length)
  unfold parseWholeExpression parseExpression
  dsimp only
  rw [← found]
  generalize Parser.pastEnd (Token.significant tokens) = past
  rw [split]
  generalize Parser.expression (Parser.body tokens) = here at carried ⊢
  generalize Parser.expression (Parser.body tokens ++ tail) = there at carried ⊢
  cases carried with
  | ok => rfl
  | @refused us cause => exact congrArg Except.error (Refusal.toError_before tail past ⟨us, cause⟩)

theorem parseExpression_eq (tokens : List Token) :
    parseExpression tokens = ((Parser.expression (Parser.body tokens)).map Parsed.value).mapError
      (Refusal.toError (Parser.stop tokens)) := by
  unfold parseExpression
  cases Parser.expression (Parser.body tokens) <;> rfl

/-- On all lists of tokens the parser of programs ends with a program or an error, and that of
expressions with an expression or an error.  They do so, with the same result, where they are given
all tokens but white space, and the rounds of a program are at most one more than these.  What is
read takes at least one token and no end of the input, and what is behind the first end of the input
makes no difference. -/
theorem parser_ends (tokens : List Token) :
    ((∃ p, parseProgram tokens = .ok p) ∨ ∃ e, parseProgram tokens = .error e) ∧
    ((∃ e, parseExpression tokens = .ok e) ∨ ∃ e, parseExpression tokens = .error e) ∧
    (∀ n, (Token.significant tokens).length < n →
      parseWhole? n tokens = some (parseProgram tokens)) ∧
    parseWholeExpression tokens = parseExpression tokens ∧
    (∀ ts : List Token, Parser.Consumes ts (Parser.declaration ts) ∧
      Parser.Consumes ts (Parser.statement ts) ∧ Parser.Consumes ts (Parser.expression ts)) ∧
    ∀ front stop behind, tokens = front ++ stop :: behind → stop.kind = .eof →
      parseProgram tokens = parseProgram (front ++ [stop]) ∧
      parseExpression tokens = parseExpression (front ++ [stop]) := by
  refine ⟨?_, ?_, fun n => parseWhole?_eq, parseWholeExpression_eq tokens, Parser.consumes, ?_⟩
  · cases parseProgram tokens with
    | ok p => exact .inl ⟨p, rfl⟩
    | error e => exact .inr ⟨e, rfl⟩
  · cases parseExpression tokens with
    | ok e => exact .inl ⟨e, rfl⟩
    | error e => exact .inr ⟨e, rfl⟩
  · rintro front stop behind rfl is_eof
    obtain ⟨same, same_stop⟩ := Parser.body_append_stop is_eof front behind
    rw [parseProgram, parseProgram, parseExpression_eq, parseExpression_eq, same, same_stop]
    exact ⟨rfl, rfl⟩

end Scriptlet
