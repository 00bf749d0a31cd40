import Scriptlet.Proofs.Token.Appending

/-!
# Verdicts and what may follow a text

A verdict on a text is a statement about every text that starts with it (`verdicts_are_exact`).
A complete text is one with balanced tokens.  An incomplete one is not complete yet, but can be
made so by some text behind it.  A text with an unmatched token cannot, and the verdict on
whatever starts with it is the same.

*Tokens.*  A token moves the open brackets (`Bracket.Moves`), ends the scan with a string that is
not closed, or is unmatched (`Verdict.step_cases`).  So tokens that are judged complete close the
open brackets one by one (`Closes`), and tokens before an unmatched one lead to the same verdict
whatever stands behind it.

*Texts.*  A text that is not complete is closed first, so that all its strings and comments have
their end.  Then the open brackets are closed on a new line (`exists_completion`).  Text behind an
unmatched bracket does not change the tokens before it, since a bracket is a piece of its own
wherever it stands (`Bracket.of_scan`).
-/

namespace Scriptlet

/-! ## Brackets -/

namespace Bracket

/-- The character that closes a bracket. -/
def closer : Bracket → Char
  | .paren => ')'
  | .brace => '}'
  | .square => ']'

/-- The symbol that closes a bracket. -/
def closing : Bracket → Symbol
  | .paren => .rightParen
  | .brace => .rightBrace
  | .square => .rightBracket

theorem closed?_closing (b : Bracket) : closed? (.symbol b.closing) = some b := by
  cases b <;> rfl

/-- A closing bracket is a piece of its own. -/
theorem scan_closer (b : Bracket) (text : List Char) :
    scan b.closer ([] ++ text) = some (.between (some (.symbol b.closing)) [] text) := by
  cases b <;> cases text <;> rfl

theorem of_symbol {c : Char} {s : Symbol} {b : Bracket}
    (closes : closed? (.symbol s) = some b) :
    (Scan.single? c = some s → c = b.closer ∧ s = b.closing) ∧ ∀ d, Scan.double? c d ≠ some s := by
  constructor
  · intro single
    unfold Scan.single? at single
    split at single <;> cases single <;> cases closes <;> exact ⟨rfl, rfl⟩
  · intro d double
    unfold Scan.double? at double
    split at double <;> cases double <;> cases closes

/-- A piece that closes a bracket is its character alone. -/
theorem of_scan {c : Char} {body rest : List Char} {kind : Kind} {b : Bracket}
    (found : scan c (body ++ rest) = some (.between (some kind) body rest))
    (closes : closed? kind = some b) : c = b.closer ∧ kind = .symbol b.closing ∧ body = [] := by
  cases Scan.rule_of_scan found with
  | space _ same | string _ same =>
    cases congrArg Cut.kind same
    cases closes
  | number _ same =>
    cases (congrArg Cut.kind same).trans (Scan.kind_number _)
    cases closes
  | name _ same =>
    -- No spelling is reserved for a bracket.
    obtain ⟨k, named, other⟩ := Scan.exists_kind_name (P := fun k => closed? k = none) rfl
      (by decide) c (body ++ rest)
    cases (congrArg Cut.kind same).trans named
    cases closes.symm.trans other
  | comment _ commented => cases (Scan.comment_of_comment commented).1
  | symbol symbolic =>
    obtain ⟨s, single, -, same⟩ | ⟨s, d, double, is_symbol, -⟩ := Scan.symbol_cases symbolic
    · obtain rfl : kind = .symbol s := Option.some.inj (congrArg Cut.kind same)
      obtain rfl : body = [] := congrArg Cut.body same
      obtain ⟨rfl, rfl⟩ := (of_symbol closes).1 single
      exact ⟨rfl, rfl, rfl⟩
    · obtain rfl : kind = .symbol s := Option.some.inj is_symbol
      exact absurd double ((of_symbol closes).2 d)

/-- What a token does to the open brackets. -/
inductive Moves : List Bracket → Token → List Bracket → Prop
  | plain {stack : List Bracket} {t : Token} :
    opened? t.kind = none → closed? t.kind = none → Moves stack t stack
  | opening {stack : List Bracket} {t : Token} {b : Bracket} :
    opened? t.kind = some b → Moves stack t (b :: stack)
  | closing {stack : List Bracket} {t : Token} {b : Bracket} :
    closed? t.kind = some b → Moves (b :: stack) t stack

end Bracket

/-! ## Tokens -/

/-- Tokens that close the open brackets in turn, with balanced tokens in between. -/
inductive Closes : List Bracket → List Token → Prop
  | nil {ts : List Token} : Balanced ts → Closes [] ts
  | cons {stack : List Bracket} {b : Bracket} {close : Token} {ts us : List Token} :
    Balanced ts → Bracket.closed? close.kind = some b → Closes stack us →
    Closes (b :: stack) (ts ++ close :: us)

theorem Closes.step {stack stack' : List Bracket} {t : Token} {ts : List Token}
    (moves : Bracket.Moves stack t stack') (closed : t.isUnterminated = false)
    (behind : Closes stack' ts) : Closes stack (t :: ts) := by
  cases moves with
  | plain opens closes =>
    cases behind with
    | nil balanced => exact .nil (.plain opens closes (fun _ => closed) balanced)
    | cons balanced is_close others =>
      exact .cons (.plain opens closes (fun _ => closed) balanced) is_close others
  | opening opens =>
    -- The first bracket that is closed behind the token is the one that it opens.
    cases behind with
    | cons inner closes others =>
      cases others with
      | nil balanced => exact .nil (.enclosed opens inner closes balanced)
      | cons balanced is_close others =>
        have front := Closes.cons (.enclosed opens inner closes balanced) is_close others
        simpa using front
  | closing closes => exact .cons .nil closes behind

namespace Verdict

variable {stack : List Bracket} {ts : List Token} {t : Token}

theorem ofTokens_unterminated (open_ : t.isUnterminated = true) (rest : List Token) :
    ofTokens stack (t :: rest) = .incomplete := by
  simp [ofTokens, open_]

/-- What a token does to a scan, whatever stands behind it: it ends it, or moves the open
brackets, or is unmatched. -/
theorem step_cases (stack : List Bracket) (t : Token) :
    (t.isUnterminated = true ∧ ∀ rest, ofTokens stack (t :: rest) = .incomplete) ∨
    (t.isUnterminated = false ∧ ∃ stack', Bracket.Moves stack t stack' ∧
      ∀ rest, ofTokens stack (t :: rest) = ofTokens stack' rest) ∨
    ∃ b, Bracket.closed? t.kind = some b ∧
      ∀ rest, ofTokens stack (t :: rest) = .unmatched t := by
  cases closed : t.isUnterminated with
  | true => exact .inl ⟨rfl, ofTokens_unterminated closed⟩
  | false =>
    refine .inr ?_
    cases opens : Bracket.opened? t.kind with
    | some b => exact .inl ⟨rfl, _, .opening opens, fun _ => ofTokens_opening closed opens⟩
    | none =>
      cases closes : Bracket.closed? t.kind with
      | none =>
        exact .inl ⟨rfl, _, .plain opens closes, fun _ => ofTokens_plain closed opens closes⟩
      | some b =>
        cases stack with
        | nil => exact .inr ⟨b, rfl, fun _ => by simp [ofTokens, closed, opens, closes]⟩
        | cons innermost stack =>
          by_cases same : innermost = b
          · subst same
            exact .inl ⟨rfl, _, .closing closes, fun _ => ofTokens_closing closed closes⟩
          · exact .inr ⟨b, rfl, fun _ => by simp [ofTokens, closed, opens, closes, same]⟩

/-- Tokens that are judged complete close the open brackets. -/
theorem closes_of_complete (complete : ofTokens stack ts = .complete) : Closes stack ts := by
  induction ts generalizing stack with
  | nil =>
    cases stack with
    | nil => exact .nil .nil
    | cons => cases complete
  | cons t ts ih =>
    obtain ⟨-, ends⟩ | ⟨closed, stack', moves, same⟩ | ⟨_, _, unmatched⟩ := step_cases stack t
    · cases (ends ts).symm.trans complete
    · exact .step moves closed (ih ((same ts).symm.trans complete))
    · cases (unmatched ts).symm.trans complete

theorem complete_iff_balanced (only : Token.OnlyStrings ts) :
    ofTokens [] ts = .complete ↔ Balanced ts := by
  constructor
  · intro complete
    cases closes_of_complete complete with
    | nil balanced => exact balanced
  · intro balanced
    have scanned := balanced.ofTokens_append only [] []
    rwa [List.append_nil] at scanned

/-- An unmatched token is so whatever stands behind it. -/
theorem exists_unmatched (unmatched : ofTokens stack ts = .unmatched t) :
    ∃ before after, ts = before ++ t :: after ∧ (∃ b, Bracket.closed? t.kind = some b) ∧
      ∀ others, ofTokens stack (before ++ t :: others) = .unmatched t := by
  induction ts generalizing stack with
  | nil => cases stack <;> cases unmatched
  | cons u ts ih =>
    obtain ⟨-, ends⟩ | ⟨-, stack', -, same⟩ | ⟨b, closes, here⟩ := step_cases stack u
    · cases (ends ts).symm.trans unmatched
    · obtain ⟨before, after, rfl, bracket, always⟩ := ih ((same ts).symm.trans unmatched)
      exact ⟨u :: before, after, rfl, bracket, fun others => (same _).trans (always others)⟩
    · cases (here ts).symm.trans unmatched
      exact ⟨[], ts, rfl, ⟨b, closes⟩, here⟩

/-- The first of some tokens, if none of them is unmatched and the first ones are closed, leave
brackets open. -/
theorem exists_stack {first : List Token} (starts : first <+: ts)
    (closed : ∀ t ∈ first, t.isUnterminated = false)
    (fits : ∀ t, ofTokens stack ts ≠ .unmatched t) :
    ∃ stack', ∀ rest, ofTokens stack (first ++ rest) = ofTokens stack' rest := by
  obtain ⟨behind, rfl⟩ := starts
  induction first generalizing stack with
  | nil => exact ⟨stack, fun _ => rfl⟩
  | cons t first ih =>
    obtain ⟨here, closed⟩ := List.forall_mem_cons.mp closed
    obtain ⟨open_, -⟩ | ⟨-, stack', -, same⟩ | ⟨_, _, unmatched⟩ := step_cases stack t
    · exact absurd (here.symm.trans open_) Bool.false_ne_true
    · obtain ⟨stack'', always⟩ := ih closed fun u unmatched => fits u ((same _).trans unmatched)
      exact ⟨stack'', fun rest => (same _).trans (always rest)⟩
    · exact absurd (unmatched _) (fits t)

/-- Whether tokens are complete depends on their contents only. -/
theorem complete_congr {us : List Token} (same : ts.map Token.content = us.map Token.content) :
    ofTokens stack ts = .complete ↔ ofTokens stack us = .complete := by
  induction ts generalizing us stack with
  | nil =>
    obtain rfl := List.map_eq_nil_iff.mp same.symm
    rfl
  | cons t ts ih =>
    obtain ⟨u, us, rfl, here, behind⟩ := List.map_eq_cons_iff.mp same.symm
    have kind : u.kind = t.kind := congrArg Prod.fst here
    have closed : u.isUnterminated = t.isUnterminated := by
      have literal : u.literal = t.literal := congrArg (fun c => c.2.2) here
      rw [Token.isUnterminated, Token.isUnterminated, literal]
    rw [ofTokens, ofTokens, kind, closed]
    split
    · rfl
    split
    · exact ih behind.symm
    · split
      · simp
      · split
        · exact ih behind.symm
        · simp
    · exact ih behind.symm

end Verdict

/-! ## Closing brackets -/

/-- The token that closes a bracket, at the start of a text. -/
def Bracket.closingToken (b : Bracket) : Token :=
  TokenStream.token (.symbol b.closing) .origin [b.closer]

/-- The characters that close brackets tell the tokens that do. -/
theorem tells_closers (stack : List Bracket) :
    Tells (stack.map Bracket.closer) ((stack.map Bracket.closingToken).map Token.content) := by
  induction stack with
  | nil => exact .nil
  | cons b stack ih =>
    have visible : Kind.symbol b.closing ≠ .space := nofun
    exact ih.cons visible (b.scan_closer _)

theorem Verdict.ofTokens_closingTokens (stack : List Bracket) (rest : List Token) :
    ofTokens stack (stack.map Bracket.closingToken ++ rest) = ofTokens [] rest := by
  induction stack with
  | nil => rfl
  | cons b stack ih => exact (ofTokens_closing rfl b.closed?_closing).trans ih

theorem Balanced.of_strings {ts : List Token}
    (strings : ∀ t ∈ ts, t.kind = .string ∧ t.isUnterminated = false) : Balanced ts := by
  induction ts with
  | nil => exact .nil
  | cons t ts ih =>
    obtain ⟨⟨is_string, closed⟩, strings⟩ := List.forall_mem_cons.mp strings
    exact .string is_string closed (ih strings)

/-! ## Texts -/

theorem Verdict.ofText_eq {source : String} {ts : List Token} (read : tokenize source = .ok ts) :
    ofText source = ofTokens [] ts := by
  rw [ofText, read]

/-- Some text behind a text makes it complete. -/
def Completable (source : String) : Prop :=
  ∃ (more : String) (ts : List Token),
    tokenize (source ++ more) = .ok ts ∧ Verdict.ofText (source ++ more) = .complete

/-- A text without an unmatched token can be made complete. -/
theorem exists_completion {source : String} {ts : List Token} (read : tokenize source = .ok ts)
    (fits : ∀ t, Verdict.ofText source ≠ .unmatched t) : Completable source := by
  obtain ⟨stop, -, rfl⟩ := tokenize_eq_ok.mp read
  obtain ⟨placed, ended⟩ := pieces_of_tokenize read
  obtain ⟨j, kept, added, starts, closed, strings, told⟩ := exists_tellsApart ended .origin
  have fits' (t : Token) : Verdict.ofTokens [] (Token.significant
      ((stream source).tokens ++ [stop])) ≠ .unmatched t := by
    rw [Verdict.ofTokens_significant (onlyStrings_of_tokenize read), ← Verdict.ofText_eq read]
    exact fits t
  have starts' : kept <+: Token.significant ((stream source).tokens ++ [stop]) := by
    rw [placed, Token.significant, List.filter_append]
    exact starts.trans (List.prefix_append ..)
  obtain ⟨stack, leaves⟩ := Verdict.exists_stack starts' closed fits'
  let more := String.ofList (j ++ '\n' :: stack.map Bracket.closer)
  have tells : Tells (source ++ more).toList
      (((kept ++ added) ++ stack.map Bracket.closingToken).map Token.content) := by
    have apart := told _ _ (tells_closers stack)
    rw [List.append_assoc, ← List.map_append] at apart
    rwa [String.toList_append, String.toList_ofList]
  obtain ⟨us, stop', read', is_end, contents⟩ := tokenize_of_tells tells
  refine ⟨more, _, read', ?_⟩
  have only := onlyStrings_of_tokenize read'
  have stop_closed : stop'.isUnterminated = false :=
    only.closed (by simp) fun is_string => by cases is_end.symm.trans is_string
  have last : Token.significant (us ++ [stop']) = Token.significant us ++ [stop'] :=
    Parser.significant_append_eof is_end
  have same : (Token.significant (us ++ [stop'])).map Token.content =
      (kept ++ (added ++ (stack.map Bracket.closingToken ++ [stop']))).map Token.content := by
    rw [last, List.map_append, contents]
    simp
  have only_added : Token.OnlyStrings added := fun t inside _ => (strings t inside).1
  rw [Verdict.ofText_eq read', ← Verdict.ofTokens_significant only, Verdict.complete_congr same]
  calc Verdict.ofTokens [] (kept ++ (added ++ (stack.map Bracket.closingToken ++ [stop'])))
    _ = Verdict.ofTokens stack (added ++ (stack.map Bracket.closingToken ++ [stop'])) := leaves _
    _ = Verdict.ofTokens stack (stack.map Bracket.closingToken ++ [stop']) :=
        (Balanced.of_strings strings).ofTokens_append only_added _ _
    _ = Verdict.ofTokens [] [stop'] := Verdict.ofTokens_closingTokens _ _
    _ = .complete := by
        rw [Verdict.ofTokens_plain stop_closed (by rw [is_end]; rfl) (by rw [is_end]; rfl)]
        rfl

/-- Text behind a closing bracket leaves it and the tokens before it as they are. -/
theorem TokenStream.place_closer {p : Place} {text : List Char} {before after : List Token}
    {t : Token} {b : Bracket} (placed : place p (pieces text).1 = before ++ t :: after)
    (closes : Bracket.closed? t.kind = some b) (more : List Char) :
    ∃ others, place p (pieces (text ++ more)).1 = before ++ t :: others := by
  obtain ⟨front, kind, chars, behind, split, rfl, rfl, -⟩ := place_eq_append placed
  obtain ⟨rest, -, further⟩ := pieces_split split
  obtain ⟨c, _, body, rest, -, same, found, -⟩ := pieces_eq_cons further
  cases same
  obtain ⟨rfl, rfl, rfl⟩ := Bracket.of_scan found closes
  rw [List.append_cons] at split
  have read := pieces_of_append split
  obtain ⟨rest', rfl, -⟩ := pieces_split split
  have no_point (is_point : [b.closer] = ['.']) :
      ∀ d ∈ (rest' ++ more).head?, d.isDigit = false := by
    cases b <;> cases is_point
  have appended := pieces_append (congrArg Prod.fst read) (congrArg Prod.snd read) no_point
  have closer := pieces_cons (b.scan_closer (rest' ++ more))
  refine ⟨place ((placeAfter p front).advance [b.closer]) (pieces (rest' ++ more)).1, ?_⟩
  have reread : (pieces ([b.closer] ++ (rest' ++ more))).1 = _ := congrArg Prod.fst closer
  rw [List.append_assoc, appended, place_append]
  dsimp only
  rw [reread, place]

/-- What starts with a text with an unmatched token has the same verdict. -/
theorem Verdict.ofText_append_of_unmatched {source more : String} {t : Token} {us : List Token}
    (unmatched : ofText source = .unmatched t) (read : tokenize (source ++ more) = .ok us) :
    ofText (source ++ more) = .unmatched t := by
  cases read_source : tokenize source with
  | error e =>
    rw [ofText, read_source] at unmatched
    cases unmatched
  | ok ts =>
    rw [ofText_eq read_source] at unmatched
    rw [ofText_eq read]
    obtain ⟨before, after, split, ⟨b, closes⟩, always⟩ := exists_unmatched unmatched
    obtain ⟨stop, last, rfl⟩ := tokenize_eq_ok.mp read_source
    obtain ⟨stop', -, rfl⟩ := tokenize_eq_ok.mp read
    obtain ⟨placed, -⟩ := pieces_of_tokenize read_source
    obtain ⟨placed', -⟩ := pieces_of_tokenize read
    -- The unmatched token is not the end of the input, so it comes from a piece.
    obtain ⟨others, front⟩ : ∃ others, (stream source).tokens = before ++ t :: others := by
      rcases List.eq_nil_or_concat after with rfl | ⟨others, stop'', rfl⟩
      · obtain ⟨-, same⟩ := List.append_inj' split rfl
        obtain rfl := (List.singleton_inj.mp same).symm
        obtain rfl := TokenStream.eq_endToken last
        cases closes
      · rw [List.concat_eq_append, ← List.cons_append, ← List.append_assoc] at split
        exact ⟨others, (List.append_inj' split rfl).1⟩
    rw [placed] at front
    obtain ⟨others', front'⟩ := TokenStream.place_closer front closes more.toList
    rw [placed', String.toList_append, front', List.append_assoc]
    exact always _

/-- A text that scans is complete just if its tokens are balanced.  It is incomplete just if it is
not complete but some text behind it makes it so, and it has an unmatched token just if none does.
Then whatever starts with the text has the same unmatched token, at the same place. -/
theorem verdicts_are_exact {source : String} {ts : List Token} (read : tokenize source = .ok ts) :
    (Verdict.ofText source = .complete ↔ Balanced ts) ∧
    (Verdict.ofText source = .incomplete ↔
      Verdict.ofText source ≠ .complete ∧ Completable source) ∧
    ((∃ t, Verdict.ofText source = .unmatched t) ↔ ¬ Completable source) ∧
    ∀ t, Verdict.ofText source = .unmatched t → ∀ (more : String) (us : List Token),
      tokenize (source ++ more) = .ok us → Verdict.ofText (source ++ more) = .unmatched t := by
  have stays (t : Token) (unmatched : Verdict.ofText source = .unmatched t) :
      ¬ Completable source := by
    rintro ⟨more, us, read', complete⟩
    cases (Verdict.ofText_append_of_unmatched unmatched read').symm.trans complete
  refine ⟨?_, ⟨fun incomplete => ?_, fun ⟨held, completable⟩ => ?_⟩,
    ⟨fun ⟨t, unmatched⟩ => stays t unmatched, fun stuck => ?_⟩,
    fun t unmatched more us => Verdict.ofText_append_of_unmatched unmatched⟩
  · rw [Verdict.ofText_eq read]
    exact Verdict.complete_iff_balanced (onlyStrings_of_tokenize read)
  · refine ⟨incomplete ▸ nofun, exists_completion read fun t => incomplete ▸ nofun⟩
  · cases verdict : Verdict.ofText source with
    | complete => exact absurd verdict held
    | incomplete => rfl
    | unmatched t => exact absurd completable (stays t verdict)
  · by_contra matched
    exact stuck (exists_completion read fun t unmatched => matched ⟨t, unmatched⟩)

/-- A string that ends with a backslash can still be closed, and the bracket around it too.  A
bracket of the wrong kind is not mended by what follows. -/
theorem verdicts_are_exact_closing :
    (Verdict.ofText "f([\"\\" ≠ .complete ∧ Completable "f([\"\\") ∧
      ¬ Completable "f([)" ∧ Verdict.ofText "f([)]" = Verdict.ofText "f([)" := by
  have incomplete : Verdict.ofText "f([\"\\" = .incomplete := by decide +kernel
  have scans : (tokenize "f([\"\\").isOk = true := by decide +kernel
  have scans' : (tokenize "f([)").isOk = true := by decide +kernel
  have further : (tokenize "f([)]").isOk = true := by decide +kernel
  have wrong : ∃ t, Verdict.ofText "f([)" = .unmatched t :=
    ⟨TokenStream.token (.symbol .rightParen) ⟨3, 1, 4⟩ [')'], by decide +kernel⟩
  cases read : tokenize "f([\"\\" with
  | error e => rw [read] at scans; cases scans
  | ok ts =>
  cases read' : tokenize "f([)" with
  | error e => rw [read'] at scans'; cases scans'
  | ok us =>
  cases longer : tokenize "f([)]" with
  | error e => rw [longer] at further; cases further
  | ok vs =>
  refine ⟨(verdicts_are_exact read).2.1.mp incomplete,
    (verdicts_are_exact read').2.2.1.mp wrong, ?_⟩
  obtain ⟨t, unmatched⟩ := wrong
  rw [unmatched]
  exact (verdicts_are_exact read').2.2.2 t unmatched "]" vs longer

end Scriptlet
