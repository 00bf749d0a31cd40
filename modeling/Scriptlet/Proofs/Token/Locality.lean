import Scriptlet.Proofs.Token.Tiling

/-!
# Pieces and the text after them

How far a piece goes is settled by its own characters and at most two after it.  So the text
after a piece can be replaced: by a shorter part of it, by a longer text if there is some already,
or, if the piece is a token other than white space, by a text that starts with white space
(`scan_of_follows`).  A string without its closing quote takes all the text there is, so nothing
can be put behind it.

Each rule of the scanner has a lemma that says which texts it takes with which rest.  The rules
for names, numbers and symbols look at the start of the rest only to see that it does not go on
with the piece.
-/

namespace Scriptlet

/-! ## Cuts of a text in two parts -/

namespace Cut

/-- The cut between two parts of a text. -/
def between (kind : Option Kind) (body rest : List Char) : Cut (body ++ rest) :=
  ⟨kind, body, rest, rfl⟩

/-- A cut is known by its kind and what it takes. -/
theorem eq_between {kind : Option Kind} {body rest : List Char} {cut : Cut (body ++ rest)}
    (same_kind : cut.kind = kind) (same_body : cut.body = body) : cut = between kind body rest := by
  obtain ⟨kind', body', rest', joined⟩ := cut
  dsimp only at same_kind same_body
  subst same_kind same_body
  obtain rfl : rest' = rest := List.append_cancel_left joined
  rfl

end Cut

namespace Scan

variable {c : Char} {kind : Option Kind} {body rest rest' : List Char}

theorem isSpace_cases (blank : isSpace c = true) : c = ' ' ∨ c = '\t' ∨ c = '\r' ∨ c = '\n' := by
  simpa [isSpace, or_assoc] using blank

/-! ## What may follow instead -/

/-- A text that may follow a piece instead of the rest. -/
inductive Follows (kind : Option Kind) (body : List Char) : List Char → List Char → Prop
  /-- A part of the rest from its start. -/
  | shorter {rest rest' : List Char} : rest' <+: rest → Follows kind body rest rest'
  /-- The rest, if there is any, with more text behind it.  A point at its end takes no digit. -/
  | longer {rest more : List Char} : rest ≠ [] →
    (rest = ['.'] → ∀ d ∈ more.head?, d.isDigit = false) → Follows kind body rest (rest ++ more)
  /-- White space, if the piece is a token with an end of its own. -/
  | blank {rest rest' : List Char} : (∃ c ∈ rest'.head?, isSpace c = true) → kind ≠ none →
    kind ≠ some .space → (kind = some .string → (Quoted.decodeBody body).2 = false) →
    Follows kind body rest rest'

/-- What may follow instead starts like the rest, or with white space behind a token that does
not take it. -/
theorem Follows.head_cases (follows : Follows kind body rest rest') :
    ∀ c ∈ rest'.head?, c ∈ rest.head? ∨
      isSpace c = true ∧ kind ≠ none ∧ kind ≠ some .space := by
  intro c first
  cases follows with
  | shorter shorter =>
    obtain ⟨more, rfl⟩ := shorter
    cases rest' with
    | nil => cases first
    | cons d ds => exact .inl first
  | longer some_ =>
    cases rest with
    | nil => exact absurd rfl some_
    | cons d ds => exact .inl first
  | blank starts no_comment no_space =>
    obtain ⟨d, first', blank⟩ := starts
    rw [Option.mem_def, first', Option.some.injEq] at first
    exact .inr ⟨first ▸ blank, no_comment, no_space⟩

/-- If the rest does not go on with a class of characters, what may follow instead does not
either. -/
theorem Follows.head_not {p : Char → Bool} (visible : ∀ c, isSpace c = true → p c = false)
    (follows : Follows kind body rest rest') (stops : ∀ c ∈ rest.head?, p c = false) :
    ∀ c ∈ rest'.head?, p c = false := by
  intro c first
  obtain here | ⟨blank, -⟩ := follows.head_cases c first
  · exact stops c here
  · exact visible c blank

/-! ## Classes of characters -/

/-- A run ends in front of the first character outside of its class. -/
theorem run_eq_between {p : Char → Bool} (kind : Option Kind) (inside : ∀ c ∈ body, p c = true)
    (stops : ∀ c ∈ rest.head?, p c = false) :
    Cut.run kind p (body ++ rest) = .between kind body rest := by
  refine Cut.eq_between rfl ?_
  show (body ++ rest).takeWhile p = body
  rw [List.takeWhile_append_of_pos inside]
  cases rest with
  | nil => simp
  | cons c cs => simp [stops c rfl]

theorem of_mem_takeWhile {p : Char → Bool} {text : List Char} :
    ∀ c ∈ text.takeWhile p, p c = true :=
  fun c inside => List.all_eq_true.mp List.all_takeWhile c inside

theorem head?_dropWhile {p : Char → Bool} {text : List Char} :
    ∀ c ∈ (text.dropWhile p).head?, p c = false := by
  intro c first
  have stops := List.head?_dropWhile_not p text
  rw [Option.mem_def] at first
  simp only [first] at stops
  simpa using stops

/-- What a run took was inside of the class, and what follows it is not. -/
theorem of_run_eq_between {p : Char → Bool} {kind' : Option Kind}
    (same : Cut.run kind p (body ++ rest) = .between kind' body rest) :
    kind = kind' ∧ (∀ c ∈ body, p c = true) ∧ ∀ c ∈ rest.head?, p c = false := by
  have taken : (body ++ rest).takeWhile p = body := congrArg Cut.body same
  have dropped : (body ++ rest).dropWhile p = rest := congrArg Cut.rest same
  refine ⟨congrArg Cut.kind same, ?_, ?_⟩
  · rw [← taken]
    exact of_mem_takeWhile
  · rw [← dropped]
    exact head?_dropWhile

/-! ## Numbers -/

/-- The digits of a whole number go up to the rest, and no point with a digit follows. -/
theorem number_whole (digits : ∀ c ∈ body, c.isDigit = true)
    (stops : ∀ c ∈ rest.head?, c.isDigit = false)
    (no_fraction : ∀ d more, rest = '.' :: d :: more → d.isDigit = false) :
    number (body ++ rest) = .between (some .number) body rest := by
  have run := run_eq_between (some .number) digits stops
  have dropped : (body ++ rest).dropWhile Char.isDigit = rest := congrArg Cut.rest run
  unfold number
  split
  next d more fraction =>
    rw [dropped] at fraction
    rw [if_neg (by rw [no_fraction d more fraction]; decide)]
    exact run
  next => exact run

/-- Digits with a point and more digits, up to the rest. -/
theorem number_fraction {ds es : List Char} {d : Char} (whole : ∀ c ∈ ds, c.isDigit = true)
    (digits : ∀ c ∈ d :: es, c.isDigit = true) (stops : ∀ c ∈ rest.head?, c.isDigit = false) :
    number ((ds ++ '.' :: d :: es) ++ rest) =
      .between (some .number) (ds ++ '.' :: d :: es) rest := by
  have joined : (ds ++ '.' :: d :: es) ++ rest = ds ++ ('.' :: d :: (es ++ rest)) := by simp
  have point : Cut.run (some .number) Char.isDigit (ds ++ ('.' :: d :: (es ++ rest))) =
      .between (some .number) ds ('.' :: d :: (es ++ rest)) :=
    run_eq_between _ whole (by rintro c ⟨⟩; decide)
  have taken : ((ds ++ '.' :: d :: es) ++ rest).takeWhile Char.isDigit = ds := by
    rw [joined]
    exact congrArg Cut.body point
  have dropped : ((ds ++ '.' :: d :: es) ++ rest).dropWhile Char.isDigit =
      '.' :: d :: (es ++ rest) := by
    rw [joined]
    exact congrArg Cut.rest point
  have tail : (es ++ rest).takeWhile Char.isDigit = es :=
    congrArg Cut.body (run_eq_between none (fun c inside => digits c (.tail _ inside)) stops)
  refine Cut.eq_between (kind_number _) ?_
  unfold number
  split
  next d' more fraction =>
    rw [dropped] at fraction
    cases fraction
    rw [if_pos (digits d (.head _))]
    simp only [taken, tail]
  next other => exact absurd dropped (other d _)

/-- A number is whole or has a fraction. -/
theorem number_cases (text : List Char) :
    (∃ ds d es, (number text).body = ds ++ '.' :: d :: es ∧ (∀ c ∈ ds, c.isDigit = true) ∧
      (∀ c ∈ d :: es, c.isDigit = true) ∧
      ∀ c ∈ (number text).rest.head?, c.isDigit = false) ∨
    (∀ c ∈ (number text).body, c.isDigit = true) ∧
      (∀ c ∈ (number text).rest.head?, c.isDigit = false) ∧
      ∀ d more, (number text).rest = '.' :: d :: more → d.isDigit = false := by
  unfold number
  split
  next d rest fraction =>
    split
    next digit =>
      refine .inl ⟨_, d, _, rfl, of_mem_takeWhile, ?_, head?_dropWhile⟩
      exact List.forall_mem_cons.mpr ⟨digit, of_mem_takeWhile⟩
    next no_digit =>
      refine .inr ⟨of_mem_takeWhile, head?_dropWhile, fun d' more same => ?_⟩
      change text.dropWhile Char.isDigit = _ at same
      rw [fraction] at same
      cases same
      simpa using no_digit
  next whole =>
    exact .inr ⟨of_mem_takeWhile, head?_dropWhile, fun d more same => absurd same (whole d more)⟩

/-- A number ends alike in front of all that may follow it. -/
theorem number_of_follows (found : number (body ++ rest) = .between kind body rest)
    (follows : Follows kind body rest rest') :
    number (body ++ rest') = .between kind body rest' := by
  obtain rfl : some .number = kind := (kind_number _).symm.trans (congrArg Cut.kind found)
  have stops := follows.head_not (p := Char.isDigit) fun c blank => by
    rcases isSpace_cases blank with rfl | rfl | rfl | rfl <;> decide
  have cases_ := number_cases (body ++ rest)
  rw [found] at cases_
  obtain ⟨ds, d, es, rfl, whole, digits, stop⟩ | ⟨digits, stop, no_fraction⟩ := cases_
  · exact number_fraction whole digits (stops stop)
  · refine number_whole digits (stops stop) fun d more same => ?_
    cases follows with
    | shorter shorter =>
      obtain ⟨behind, joined⟩ := shorter
      exact no_fraction d (more ++ behind) (by rw [← joined, same]; rfl)
    | longer some_ no_digit =>
      rcases List.append_eq_cons_iff.mp same with ⟨rfl, -⟩ | ⟨rest', rfl, joined⟩
      · exact absurd rfl some_
      rcases List.append_eq_cons_iff.mp joined.symm with ⟨rfl, rfl⟩ | ⟨rest'', rfl, -⟩
      · exact no_digit rfl d rfl
      · exact no_fraction d rest'' rfl
    | blank starts =>
      obtain ⟨c, first, blank⟩ := starts
      subst same
      cases first
      cases blank

/-! ## Symbols -/

/-- No symbol goes on with white space. -/
theorem double?_space (c : Char) {d : Char} (blank : isSpace d = true) : double? c d = none := by
  unfold double?
  rcases isSpace_cases blank with rfl | rfl | rfl | rfl <;> split <;> simp_all

/-- A symbol of one character, where the next one makes no longer symbol. -/
theorem symbol_short {s : Symbol} (single : single? c = some s)
    (alone : ∀ d ∈ rest.head?, double? c d = none) :
    symbol c rest = some (.short (.symbol s) rest) := by
  cases rest with
  | nil => rw [symbol, single, Option.map_some]
  | cons d ds => simp only [symbol, alone d rfl, single, Option.map_some]

theorem symbol_more {d : Char} {s : Symbol} (double : double? c d = some s) :
    symbol c (d :: rest) = some (.more (.symbol s) d rest) := by
  simp only [symbol, double]

/-- A symbol has one character or two. -/
theorem symbol_cases {text : List Char} {cut : Cut text} (found : symbol c text = some cut) :
    (∃ s, single? c = some s ∧ (∀ d ∈ text.head?, double? c d = none) ∧
      cut = .short (.symbol s) text) ∨
    ∃ s d, double? c d = some s ∧ cut.kind = some (.symbol s) ∧ cut.body = [d] := by
  cases text with
  | nil =>
    obtain ⟨s, single, rfl⟩ := Option.map_eq_some_iff.mp found
    exact .inl ⟨s, single, nofun, rfl⟩
  | cons d ds =>
    simp only [symbol] at found
    split at found
    next s double =>
      cases found
      exact .inr ⟨s, d, double, rfl, rfl⟩
    next alone =>
      obtain ⟨s, single, rfl⟩ := Option.map_eq_some_iff.mp found
      refine .inl ⟨s, single, ?_, rfl⟩
      rintro _ ⟨⟩
      exact alone

/-- A symbol does as well. -/
theorem symbol_of_follows (found : symbol c (body ++ rest) = some (.between kind body rest))
    (follows : Follows kind body rest rest') :
    symbol c (body ++ rest') = some (.between kind body rest') := by
  obtain ⟨s, single, alone, same⟩ | ⟨s, d, double, rfl, rfl⟩ := symbol_cases found
  · obtain rfl : kind = some (.symbol s) := congrArg Cut.kind same
    obtain rfl : body = [] := congrArg Cut.body same
    refine symbol_short single fun d first => ?_
    have not_double := follows.head_not (p := fun d => (double? c d).isSome)
      (fun d blank => by rw [double?_space c blank]; rfl)
      (fun d first => by rw [alone d first]; rfl) d first
    simpa using not_double
  · exact symbol_more double

/-! ## Comments -/

/-- A block comment ends at the first star and slash. -/
theorem splitBlock_closed {body : List Char} (rest : List Char)
    (first : ¬ ['*', '/'] <:+: body ++ ['*']) :
    splitBlock (body ++ '*' :: '/' :: rest) = (body ++ ['*', '/'], rest) := by
  induction body with
  | nil => rfl
  | cons c body ih =>
    have later : ¬ ['*', '/'] <:+: body ++ ['*'] := fun inside =>
      first (List.infix_cons_iff.mpr (.inr inside))
    have closes_not : ¬ (c = '*' ∧ (body ++ '*' :: '/' :: rest).head? = some '/') := by
      rintro ⟨rfl, second⟩
      cases body with
      | nil => cases second
      | cons d body =>
        cases second
        exact first (List.infix_cons_iff.mpr (.inl ⟨body ++ ['*'], rfl⟩))
    rw [List.cons_append, splitBlock, if_neg closes_not, ih later]
    rfl

/-- A block comment without its end goes on to the end of the text. -/
theorem splitBlock_unclosed {body : List Char} (open_ : ¬ ['*', '/'] <:+: body) :
    splitBlock body = (body, []) := by
  have joined := splitBlock_append body
  obtain ⟨inner, closed, -⟩ | ⟨ended, -⟩ := splitBlock_cases body
  · rw [closed] at joined
    exact absurd ⟨inner, _, joined⟩ open_
  · rw [ended, List.append_nil] at joined
    exact Prod.ext joined ended

/-- The scanner takes every complete comment. -/
theorem comment_eq_between (complete : Comment ('/' :: body) rest) :
    comment (body ++ rest) = some (.between none body rest) := by
  obtain ⟨cut, found, is_none, same⟩ :
      ∃ cut, comment (body ++ rest) = some cut ∧ cut.kind = none ∧ cut.body = body := by
    cases complete with
    | @line body _ no_break ends =>
      have run : Cut.run none (· ≠ '\n') (body ++ rest) = .between none body rest := by
        refine run_eq_between _ (fun c inside => ?_) fun c first => by simpa using ends c first
        have other : c ≠ '\n' := fun same => no_break (same ▸ inside)
        simpa using other
      exact ⟨_, rfl, rfl, congrArg ('/' :: ·) (congrArg Cut.body run)⟩
    | @block body _ first =>
      have split : splitBlock (body ++ ['*', '/'] ++ rest) = (body ++ ['*', '/'], rest) := by
        simpa using splitBlock_closed rest first
      exact ⟨_, rfl, rfl, congrArg ('*' :: ·) (congrArg Prod.fst split)⟩
    | @unclosed body open_ =>
      have split : splitBlock (body ++ []) = (body, []) := by
        simpa using splitBlock_unclosed open_
      exact ⟨_, rfl, rfl, congrArg ('*' :: ·) (congrArg Prod.fst split)⟩
  rw [found, Cut.eq_between is_none same]

end Scan

/-- A complete comment is complete where less text follows, or more behind some. -/
theorem Comment.of_follows {text body rest rest' : List Char} (complete : Comment text rest)
    (follows : Scan.Follows none body rest rest') : Comment text rest' := by
  cases complete with
  | line no_break ends =>
    refine .line no_break fun c first => ?_
    obtain here | ⟨-, no_comment, -⟩ := follows.head_cases c first
    · exact ends c here
    · exact absurd rfl no_comment
  | block first => exact .block first
  | unclosed open_ =>
    cases follows with
    | shorter shorter =>
      obtain rfl := List.prefix_nil.mp shorter
      exact .unclosed open_
    | longer some_ => exact absurd rfl some_
    | blank _ no_comment => exact absurd rfl no_comment

namespace Scan

variable {c : Char} {kind : Option Kind} {body rest rest' : List Char}

/-- A comment ends alike in front of what may follow: at a new line, or at its own end. -/
theorem comment_of_follows (found : comment (body ++ rest) = some (.between kind body rest))
    (follows : Follows kind body rest rest') :
    comment (body ++ rest') = some (.between kind body rest') := by
  obtain ⟨is_none, complete⟩ := comment_of_comment found
  obtain rfl : kind = none := is_none
  exact comment_eq_between (complete.of_follows follows)

end Scan

/-! ## Strings -/

namespace Quoted

/-- A plain character belongs to the string. -/
theorem split_cons {c : Char} (no_escape : c ≠ '\\') (no_quote : c ≠ '"') (cs : List Char) :
    split (c :: cs) = (c :: (split cs).1, (split cs).2) := by
  rw [split, if_neg no_quote]
  exact fun _ _ same _ => no_escape same

theorem decodeBody_cons {c : Char} (no_escape : c ≠ '\\') (no_quote : c ≠ '"')
    (cs : List Char) : (decodeBody (c :: cs)).2 = (decodeBody cs).2 := by
  rw [decodeBody, if_neg no_quote]
  exact fun _ _ same _ => no_escape same

/-- The text after a string that is closed does not matter. -/
theorem split_closed (text rest : List Char) (closed : (decodeBody (split text).1).2 = false) :
    split ((split text).1 ++ rest) = ((split text).1, rest) := by
  fun_induction split text with
  | case1 => cases closed
  | case2 c cs tail ih =>
    show split ('\\' :: c :: (tail.1 ++ rest)) = _
    rw [split, ih closed]
  | case3 => rfl
  | case4 c cs no_pair no_quote tail ih =>
    by_cases escape : c = '\\'
    · subst escape
      obtain rfl : cs = [] := by cases cs <;> simp_all
      cases closed
    · rw [decodeBody_cons escape no_quote] at closed
      rw [List.cons_append, split_cons escape no_quote, ih closed]

/-- A string that is not closed takes the whole text. -/
theorem split_unclosed (text : List Char) (open_ : (decodeBody (split text).1).2 = true) :
    (split text).2 = [] := by
  fun_induction split text with
  | case1 => rfl
  | case2 c cs tail ih => exact ih open_
  | case3 => cases open_
  | case4 c cs no_pair no_quote tail ih =>
    by_cases escape : c = '\\'
    · subst escape
      obtain rfl : cs = [] := by cases cs <;> simp_all
      rfl
    · rw [decodeBody_cons escape no_quote] at open_
      exact ih open_

end Quoted

namespace Scan

variable {c : Char} {kind : Option Kind} {body rest rest' : List Char}

/-- A string that is closed ends at its quote, whatever follows. -/
theorem string_of_follows (found : string (body ++ rest) = .between kind body rest)
    (follows : Follows kind body rest rest') :
    string (body ++ rest') = .between kind body rest' := by
  obtain rfl : some .string = kind := congrArg Cut.kind found
  have taken : (Quoted.split (body ++ rest)).1 = body := congrArg Cut.body found
  have left : (Quoted.split (body ++ rest)).2 = rest := congrArg Cut.rest found
  cases closed : (Quoted.decodeBody body).2 with
  | false =>
    have same := Quoted.split_closed (body ++ rest) rest' (by rw [taken, closed])
    rw [taken] at same
    exact Cut.eq_between rfl (congrArg Prod.fst same)
  | true =>
    have ended := Quoted.split_unclosed (body ++ rest) (by rw [taken, closed])
    obtain rfl : rest = [] := left.symm.trans ended
    cases follows with
    | shorter shorter =>
      obtain rfl := List.prefix_nil.mp shorter
      exact found
    | longer some_ => exact absurd rfl some_
    | blank _ _ _ must_close =>
      rw [must_close rfl] at closed
      cases closed

/-- A name ends in front of what is no part of a name. -/
theorem name_of_follows (found : name c (body ++ rest) = .between kind body rest)
    (follows : Follows kind body rest rest') :
    name c (body ++ rest') = .between kind body rest' := by
  obtain ⟨same, inside, stops⟩ := of_run_eq_between found
  have visible (c : Char) (blank : isSpace c = true) : isNamePart c = false := by
    rcases isSpace_cases blank with rfl | rfl | rfl | rfl <;> decide
  have run (kind : Option Kind) : Cut.run kind isNamePart (body ++ rest') = _ :=
    run_eq_between kind inside (follows.head_not visible stops)
  have taken : (body ++ rest').takeWhile isNamePart = body := congrArg Cut.body (run none)
  have taken' : (body ++ rest).takeWhile isNamePart = body := congrArg Cut.body found
  rw [taken'] at same
  rw [name, taken, run, same]

/-- A slash starts no comment if neither a slash nor a star follows. -/
theorem comment_eq_none_iff {text : List Char} :
    comment text = none ↔ ∀ d ∈ text.head?, (d == '/' || d == '*') = false := by
  unfold comment
  split
  next => simp
  next => simp
  next no_line no_block =>
    cases text with
    | nil => simp
    | cons d ds =>
      have no_line' : d ≠ '/' := fun same => no_line ds (same ▸ rfl)
      have no_block' : d ≠ '*' := fun same => no_block ds (same ▸ rfl)
      simp [no_line', no_block']

/-- Where there is a symbol and no comment there is none before another rest either. -/
theorem comment_eq_none (found : symbol c (body ++ rest) = some (.between kind body rest))
    (no_comment : comment (body ++ rest) = none) (follows : Follows kind body rest rest') :
    comment (body ++ rest') = none := by
  rw [comment_eq_none_iff] at no_comment ⊢
  obtain ⟨s, -, -, same⟩ | ⟨s, d, -, -, rfl⟩ := symbol_cases found
  · obtain rfl : body = [] := congrArg Cut.body same
    refine follows.head_not (fun d blank => ?_) no_comment
    rcases isSpace_cases blank with rfl | rfl | rfl | rfl <;> rfl
  · exact no_comment

/-- A piece stays the same piece if another text follows it that may follow. -/
theorem scan_of_follows (found : scan c (body ++ rest) = some (.between kind body rest))
    (follows : Follows kind body rest rest') :
    scan c (body ++ rest') = some (.between kind body rest') := by
  unfold scan at found ⊢
  split at found
  next blank =>
    rw [if_pos blank]
    obtain ⟨rfl, inside, stops⟩ := of_run_eq_between (Option.some.inj found)
    refine congrArg some (run_eq_between _ inside fun d first => ?_)
    obtain here | ⟨-, -, no_space⟩ := follows.head_cases d first
    · exact stops d here
    · exact absurd rfl no_space
  next visible =>
  rw [if_neg visible]
  split at found
  next digit =>
    rw [if_pos digit, number_of_follows (Option.some.inj found) follows]
  next no_digit =>
  rw [if_neg no_digit]
  split at found
  next starts =>
    rw [if_pos starts, name_of_follows (Option.some.inj found) follows]
  next no_name =>
  rw [if_neg no_name]
  split at found
  next quote =>
    rw [if_pos quote, string_of_follows (Option.some.inj found) follows]
  next no_quote =>
  rw [if_neg no_quote]
  split at found
  next slash =>
    rw [if_pos slash]
    cases commented : comment (body ++ rest) with
    | some cut =>
      rw [commented, Option.some_or] at found
      rw [comment_of_follows (commented.trans found) follows, Option.some_or]
    | none =>
      rw [commented, Option.none_or] at found
      rw [comment_eq_none found commented follows, Option.none_or]
      exact symbol_of_follows found follows
  next no_slash =>
    rw [if_neg no_slash]
    exact symbol_of_follows found follows

end Scan

end Scriptlet
