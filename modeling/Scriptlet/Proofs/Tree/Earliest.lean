import Scriptlet.Proofs.Eval.Pieces
import Scriptlet.Proofs.Tree.Counting
import Scriptlet.Proofs.Tree.Lookahead
import Scriptlet.Proofs.Tree.Refusals
import Scriptlet.Proofs.Tree.Viability

/-!
# Errors are found early

A token that is not expected is found as early as it can be (`unexpected_is_earliest`).  The
tokens before it are the beginning of a program.  With the token they are not, whatever comes
after it: there the error is the same.

The beginning can be completed (`Parser.completion_of_refused`).  For the other part, let the
tokens go on behind the token in another way.  The parser does the same as before, unless it
gets beyond the token (`Parser.refused_beside`).  Then the tokens up to and including it are
the beginning of a program.  But a completion of them that is long enough is refused at the
token, just as the tokens that there were.
-/

namespace Scriptlet

/-! ## Long completions -/

theorem AreStatements.append {ts us : List Token} (first : AreStatements ts)
    (second : AreStatements us) : AreStatements (ts ++ us) := by
  obtain ⟨ss, spelled, shaped⟩ := first
  obtain ⟨ss', spelled', shaped'⟩ := second
  refine ⟨ss ++ ss', bodySpelled_append spelled spelled', ?_⟩
  rw [allShaped_append, shaped, shaped', Bool.and_self]

theorem AreStatements.statements_ok {ts : List Token} (h : AreStatements ts) :
    ∃ ss, Parser.statements ts = .ok ss := by
  obtain ⟨ss, spelled, shaped⟩ := h
  exact ⟨ss, (Parser.body_of_spelled spelled shaped).program⟩

/-- There are statements with as many tokens as one likes. -/
theorem exists_areStatements (n : Nat) : ∃ us, n ≤ us.length ∧ AreStatements us := by
  induction n with
  | zero => exact ⟨[], Nat.le_refl 0, areStatements_nil⟩
  | succ n ih =>
    obtain ⟨us, long, statements⟩ := ih
    refine ⟨_ ++ us, ?_, areStatements_cons (isStatement_of_isPlain isPlain_null) statements⟩
    simp only [List.length_append, List.length_cons, List.length_nil]
    omega

namespace Parser

/-! ## Behind the token -/

variable {front rest : List Token} {t : Token}

/-- Two lists of tokens that are the same up to a token. -/
theorem beside_behind (w : Tails) (front : List Token) (t : Token) :
    Beside w (front ++ [t]) (front ++ t :: w.one) (front ++ t :: w.other) := by
  have some_ : front ++ [t] ≠ [] := List.append_ne_nil_of_right_ne_nil _ (List.cons_ne_nil _ _)
  have beside : Beside w _ _ _ := .front some_
  rwa [List.append_assoc, List.append_assoc] at beside

/-- Tokens that are refused at one of them are not the beginning of a program up to this one. -/
theorem not_areStatements_of_refused {cause : Refusal.Cause}
    (refused : statements (front ++ t :: rest) = .error ⟨t :: rest, cause⟩) (more : List Token) :
    ¬ AreStatements (front ++ t :: more) := by
  intro whole
  obtain ⟨us, long, others⟩ := exists_areStatements rest.length
  obtain ⟨ss, read⟩ := (whole.append others).statements_ok
  rw [List.append_assoc, List.cons_append] at read
  let w : Tails := ⟨rest, more ++ us, by rw [List.length_append]; omega⟩
  obtain within | ⟨d, _, -, -, -, -, again⟩ := refused_beside (beside_behind w front t) refused
  · have le : (t :: rest).length ≤ rest.length := within.length_le
    exact absurd le (Nat.not_succ_le_self _)
  · rw [read] at again
    cases again

/-- Tokens that are refused at one of them are refused there without those after it. -/
theorem refused_alone {e : Expectation}
    (refused : statements (front ++ t :: rest) = .error ⟨t :: rest, .unexpected e⟩) :
    statements (front ++ [t]) = .error ⟨[t], .unexpected e⟩ := by
  have no_program := not_areStatements_of_refused refused
  cases alone : statements (front ++ [t]) with
  | ok ss => exact absurd ⟨ss, of_statements alone⟩ (no_program [])
  | error r =>
    let w : Tails := ⟨[], rest, Nat.zero_le _⟩
    obtain within | ⟨d, cause, -, -, same_rest, same_cause, again⟩ :=
      refused_beside (beside_behind w front t) alone
    · -- Nothing is left, so more was expected, and the token was the beginning of it.
      exfalso
      have nothing : r.rest = [] := List.suffix_nil.mp within
      cases blames_of_statements alone with
      | @unexpected _ e' =>
        obtain ⟨read, more, same, whole⟩ := completion_of_refused alone rfl
        obtain rfl : read = front ++ [t] := by rw [same, nothing, List.append_nil]
        rw [List.append_assoc] at whole
        exact no_program more whole
      | invalidTarget | unterminated => cases nothing
    · rw [refused] at again
      injection again with again
      injection again with at_token is_cause
      have last : d = [t] := List.append_cancel_right at_token.symm
      subst last is_cause
      rw [List.append_nil] at same_rest
      have as_before : r.cause = .unexpected e := Refusal.Cause.eq_unexpected same_cause
      exact congrArg Except.error (congr (congrArg Refusal.mk same_rest) as_before)

/-- Tokens that are refused at one of them are refused there whatever comes after it. -/
theorem refused_whatever {e : Expectation}
    (refused : statements (front ++ t :: rest) = .error ⟨t :: rest, .unexpected e⟩)
    (others : List Token) :
    statements (front ++ t :: others) = .error ⟨t :: others, .unexpected e⟩ := by
  let w : Tails := ⟨[], others, Nat.zero_le _⟩
  have alone := refused_alone refused
  obtain within | ⟨d, cause, -, -, same_rest, same_cause, again⟩ :=
    refused_beside (beside_behind w front t) alone
  · cases List.suffix_nil.mp within
  · obtain rfl : cause = .unexpected e := Refusal.Cause.eq_unexpected same_cause.symm
    rw [List.append_nil] at same_rest
    rw [again, ← same_rest]
    rfl

end Parser

/-- The tokens of statements are a program. -/
theorem AreStatements.parseProgram_ok {ts : List Token} {stop : Token} (h : AreStatements ts)
    (is_stop : stop.kind = .eof) : AllCount ts ∧ ∃ p, parseProgram (ts ++ [stop]) = .ok p := by
  obtain ⟨ss, spelled, shaped⟩ := h
  refine ⟨spelled.counts, ⟨ss⟩, parseProgram_of_spelled shaped ?_⟩
  rwa [Parser.body_of_allCount spelled.counts is_stop]

/-! ## The theorem -/

/-- If tokens are refused because one of them, or the end of the input, is not expected, then it
is found as early as it can be.  The parser stops at it.  Whatever comes after it, the error is
the same.  And the tokens before it go on to a program. -/
theorem unexpected_is_earliest (ts : List Token) (stop found : Token) (e : Expectation)
    (count : ∀ t ∈ ts, t.kind ≠ .space ∧ t.kind ≠ .eof) (is_stop : stop.kind = .eof)
    (h : parseProgram (ts ++ [stop]) = .error (.unexpected found e)) :
    ∃ i ≤ ts.length, (ts ++ [stop])[i]? = some found ∧
      Parser.statements ts = .error ⟨ts.drop i, .unexpected e⟩ ∧
      (i < ts.length → ∀ others,
        parseProgram (ts.take (i + 1) ++ others) = .error (.unexpected found e)) ∧
      ∃ more p, (∀ t ∈ more, t.kind ≠ .space ∧ t.kind ≠ .eof) ∧
        parseProgram (ts.take i ++ more ++ [stop]) = .ok p := by
  have ended : Parser.stop (ts ++ [stop]) = stop :=
    Parser.stop_append_eof (fun t inside => (count t inside).2) is_stop
  rw [parseProgram, Parser.body_of_allCount count is_stop, ended] at h
  cases refused : Parser.statements ts with
  | ok ss =>
    rw [refused] at h
    cases h
  | error r =>
    rw [refused] at h
    obtain ⟨rest, cause⟩ := r
    cases cause with
    | invalidTarget | unterminated => cases h
    | unexpected e' =>
      cases h
      obtain ⟨read, more, rfl, whole⟩ := Parser.completion_of_refused refused rfl
      obtain ⟨counted, p, parsed⟩ := whole.parseProgram_ok is_stop
      refine ⟨read.length, by simp, ?_, by rw [List.drop_left], ?_, more, p, ?_, ?_⟩
      · -- The token found is the first one that is left, or the one that marks the end.
        rw [List.append_assoc, List.getElem?_append_right (Nat.le_refl _), Nat.sub_self]
        cases rest <;> rfl
      · intro inside others
        cases rest with
        | nil => simp at inside
        | cons t rest =>
          have again := Parser.refused_whatever refused (Parser.body others)
          have all : AllCount (read ++ t :: rest) := count
          rw [allCount_append, allCount_cons] at all
          have front : AllCount (read ++ [t]) := by simp [all]
          have taken : (read ++ t :: rest).take (read.length + 1) = read ++ [t] := by
            rw [List.take_length_add_append, List.take_succ_cons, List.take_zero]
          rw [taken, parseProgram, Parser.body_append_of_allCount front, List.append_assoc,
            List.singleton_append, again]
          rfl
      · exact (allCount_append.mp counted).2
      · rwa [List.take_left]

/-- The tokens of `print (a;`, where a parenthesis is missing in front of the semicolon. -/
def unclosed : List Token :=
  [⟨.word .print, "print", none, ⟨0, 5⟩, 1, 1⟩, ⟨.symbol .leftParen, "(", none, ⟨6, 7⟩, 1, 7⟩,
    ⟨.identifier, "a", none, ⟨7, 8⟩, 1, 8⟩, ⟨.symbol .semicolon, ";", none, ⟨8, 9⟩, 1, 9⟩]

/-- The semicolon is refused whatever follows it, and with a parenthesis in its place the tokens
parse. -/
theorem unexpected_is_earliest_unclosed :
    ∃ stop found : Token, found ∈ unclosed ∧
      parseProgram (unclosed ++ [stop]) = .error (.unexpected found .groupClose) ∧
      ∃ i ≤ unclosed.length, (unclosed ++ [stop])[i]? = some found ∧
        Parser.statements unclosed = .error ⟨unclosed.drop i, .unexpected .groupClose⟩ ∧
        (i < unclosed.length → ∀ others,
          parseProgram (unclosed.take (i + 1) ++ others) =
            .error (.unexpected found .groupClose)) ∧
        ∃ more p, (∀ t ∈ more, t.kind ≠ .space ∧ t.kind ≠ .eof) ∧
          parseProgram (unclosed.take i ++ more ++ [stop]) = .ok p := by
  let stop : Token := ⟨.eof, "", none, ⟨9, 9⟩, 1, 10⟩
  let found : Token := ⟨.symbol .semicolon, ";", none, ⟨8, 9⟩, 1, 9⟩
  have refused : parseProgram (unclosed ++ [stop]) = .error (.unexpected found .groupClose) := by
    with_unfolding_all rfl
  exact ⟨stop, found, by decide, refused,
    unexpected_is_earliest unclosed stop found .groupClose (by decide) rfl refused⟩

end Scriptlet
