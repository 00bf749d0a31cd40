import Scriptlet.Proofs.Token.Spacing

/-!
# Text behind a text

Where a text is put behind another one, all pieces of the first but the last stay what they are
(`pieces_append`).  The last one is read again, together with the text behind it.  Only a point
needs care, since it goes to a number in front of it if a digit follows.

A text can always be *closed*, by a text after which a new line may start (`exists_closed`).  A
block comment gets its end, and a string its closing quote.  A quote behind a single backslash
would only be escaped, so then there are two of them.
-/

namespace Scriptlet

open Scan

/-! ## The first pieces of a text -/

/-- The first piece of a text is scanned off it. -/
theorem pieces_eq_cons {text : List Char} {piece : Piece} {ps : List Piece}
    (read : (pieces text).1 = piece :: ps) :
    ∃ c kind body rest, text = c :: (body ++ rest) ∧ piece = ⟨kind, c :: body⟩ ∧
      scan c (body ++ rest) = some (.between kind body rest) ∧ (pieces rest).1 = ps := by
  cases text with
  | nil =>
    rw [pieces] at read
    cases read
  | cons c cs =>
    rw [pieces] at read
    cases found : scan c cs with
    | none =>
      rw [found] at read
      cases read
    | some cut =>
      obtain ⟨kind, body, rest, rfl⟩ := cut
      rw [found] at read
      obtain ⟨rfl, further⟩ := List.cons.inj read
      exact ⟨c, kind, body, rest, rfl, rfl, found, further⟩

/-- Behind its first pieces a text is read as its other pieces. -/
theorem pieces_split {text : List Char} {ps qs : List Piece}
    (read : (pieces text).1 = ps ++ qs) :
    ∃ rest, text = ps.flatMap Piece.text ++ rest ∧ (pieces rest).1 = qs := by
  induction ps generalizing text with
  | nil => exact ⟨text, rfl, read⟩
  | cons piece ps ih =>
    obtain ⟨c, kind, body, rest, rfl, rfl, -, further⟩ := pieces_eq_cons read
    obtain ⟨rest', rfl, behind⟩ := ih further
    exact ⟨rest', by simp, behind⟩

/-- The first pieces of a text are the pieces of their own text. -/
theorem pieces_of_append {text : List Char} {ps qs : List Piece}
    (read : (pieces text).1 = ps ++ qs) : pieces (ps.flatMap Piece.text) = (ps, []) := by
  induction ps generalizing text with
  | nil => rw [List.flatMap_nil, pieces]
  | cons piece ps ih =>
    obtain ⟨c, kind, body, rest, rfl, rfl, found, further⟩ := pieces_eq_cons read
    obtain ⟨rest', rfl, -⟩ := pieces_split further
    have shorter : ps.flatMap Piece.text <+: ps.flatMap Piece.text ++ rest' := ⟨rest', rfl⟩
    have same := pieces_cons (Scan.scan_of_follows found (.shorter shorter))
    rw [ih further] at same
    exact same

namespace TokenStream

/-! ## Tokens of pieces in a row -/

theorem placeAfter_append (p : Place) (ps qs : List Piece) :
    placeAfter p (ps ++ qs) = placeAfter (placeAfter p ps) qs := List.foldl_append

/-- Pieces in a row move a place over the text that they join to. -/
theorem placeAfter_eq_advance (p : Place) (ps : List Piece) :
    placeAfter p ps = p.advance (ps.flatMap Piece.text) := by
  induction ps generalizing p with
  | nil => rfl
  | cons piece ps ih =>
    have step : placeAfter p (piece :: ps) = placeAfter (p.advance piece.text) ps := rfl
    rw [step, ih, List.flatMap_cons, Place.advance_append]

theorem offset_placeAfter_eq (p : Place) (ps : List Piece) :
    (placeAfter p ps).offset = p.offset + Place.bytes (ps.flatMap Piece.text) := by
  rw [placeAfter_eq_advance, Place.offset_advance]

theorem place_append (p : Place) (ps qs : List Piece) :
    place p (ps ++ qs) = place p ps ++ place (placeAfter p ps) qs := by
  induction ps generalizing p with
  | nil => rfl
  | cons piece ps ih =>
    have step : placeAfter p (piece :: ps) = placeAfter (p.advance piece.text) ps := rfl
    rw [List.cons_append, place, place, step, ih]
    cases piece.kind <;> rfl

/-- A string starts with a quote, and is closed or goes on to the end of the text. -/
theorem string_of_scan {c : Char} {body rest : List Char}
    (found : scan c (body ++ rest) = some (.between (some .string) body rest)) :
    c = '"' ∧ ((Quoted.decodeBody body).2 = true → rest = []) := by
  obtain ⟨-, other⟩ | ⟨rfl, same⟩ | ⟨-, other⟩ := class_of_scan found
  · cases congrArg Cut.kind other
  · have taken : body = (Quoted.split (body ++ rest)).1 := congrArg Cut.body same
    have left : rest = (Quoted.split (body ++ rest)).2 := congrArg Cut.rest same
    exact ⟨rfl, fun open_ => left.trans (Quoted.split_unclosed _ (taken ▸ open_))⟩
  · exact absurd rfl other

/-- The token of a piece is closed if it is so as a string. -/
theorem closed_of_scan {c : Char} {body rest : List Char} {kind : Option Kind}
    (found : scan c (body ++ rest) = some (.between kind body rest))
    (closed : kind = some .string → (Quoted.decodeBody body).2 = false) (p : Place) :
    ∀ t ∈ place p [⟨kind, c :: body⟩], t.isUnterminated = false := by
  cases kind with
  | none => simp [place]
  | some kind =>
    refine List.forall_mem_singleton.mpr ?_
    by_contra open_
    rw [Bool.not_eq_false] at open_
    obtain rfl := isString_of_isUnterminated open_
    obtain ⟨rfl, -⟩ := string_of_scan found
    exact Bool.false_ne_true ((closed rfl).symm.trans open_)

/-- Strings with pieces behind them are closed. -/
theorem closed_of_behind {text : List Char} {ps qs : List Piece}
    (read : (pieces text).1 = ps ++ qs) (some_ : qs ≠ []) (p : Place) :
    ∀ t ∈ place p ps, t.isUnterminated = false := by
  induction ps generalizing text p with
  | nil => simp [place]
  | cons piece ps ih =>
    obtain ⟨c, kind, body, rest, rfl, rfl, found, further⟩ := pieces_eq_cons read
    rw [← List.singleton_append, place_append]
    refine List.forall_mem_append.mpr ⟨closed_of_scan found ?_ p, ih further _⟩
    rintro rfl
    by_contra open_
    obtain rfl := (string_of_scan found).2 (Bool.eq_true_of_not_eq_false open_)
    rw [pieces] at further
    exact some_ (List.append_eq_nil_iff.mp further.symm).2

/-- A token among those of some pieces is the token of one of them. -/
theorem place_eq_append {p : Place} {ps : List Piece} {t : Token} {before after : List Token}
    (placed : place p ps = before ++ t :: after) :
    ∃ front kind text behind, ps = front ++ ⟨some kind, text⟩ :: behind ∧
      place p front = before ∧ t = token kind (placeAfter p front) text ∧
      place ((placeAfter p front).advance text) behind = after := by
  induction ps generalizing p before with
  | nil =>
    rw [place] at placed
    exact absurd placed (by simp)
  | cons piece ps ih =>
    obtain ⟨kind, text⟩ := piece
    rw [place] at placed
    cases kind with
    | none =>
      obtain ⟨front, kind, text', behind, rfl, rfl, same, rfl⟩ := ih placed
      exact ⟨⟨none, text⟩ :: front, kind, text', behind, rfl, by rw [place], same, rfl⟩
    | some kind =>
      cases before with
      | nil =>
        obtain ⟨rfl, rfl⟩ := List.cons.inj placed
        exact ⟨[], kind, text, ps, rfl, by rw [place], rfl, rfl⟩
      | cons u us =>
        obtain ⟨rfl, further⟩ := List.cons.inj placed
        obtain ⟨front, kind', text', behind, rfl, rfl, same, rfl⟩ := ih further
        exact ⟨⟨some kind, text⟩ :: front, kind', text', behind, rfl, by rw [place], same, rfl⟩

end TokenStream

/-! ## Behind the last piece -/

theorem pieces_point : pieces ['.'] = ([⟨some (.symbol .dot), ['.']⟩], []) := by
  have found : scan '.' ([] ++ []) = some (.between (some (.symbol .dot)) [] []) := rfl
  have read := pieces_cons found
  rw [pieces] at read
  exact read

/-- A text behind another one changes its last piece at most. -/
theorem pieces_append {text more : List Char} {ps : List Piece} {last : Piece}
    (read : (pieces text).1 = ps ++ [last]) (ended : (pieces text).2 = [])
    (no_digit : last.text = ['.'] → ∀ d ∈ more.head?, d.isDigit = false) :
    pieces (text ++ more) =
      (ps ++ (pieces (last.text ++ more)).1, (pieces (last.text ++ more)).2) := by
  induction ps generalizing text with
  | nil =>
    have joined := join_pieces text
    rw [read, ended] at joined
    have alone : last.text = text := by simpa using joined
    rw [alone]
    rfl
  | cons piece ps ih =>
    obtain ⟨c, kind, body, rest, rfl, rfl, found, further⟩ := pieces_eq_cons read
    rw [pieces_cons found] at ended
    have some_ : rest ≠ [] := by
      rintro rfl
      rw [pieces] at further
      exact absurd further (by simp)
    have point (is_point : rest = ['.']) : ∀ d ∈ more.head?, d.isDigit = false := by
      rw [is_point, pieces_point] at further
      have lone : [] ++ [(⟨some (.symbol .dot), ['.']⟩ : Piece)] = ps ++ [last] := further
      have same := List.append_inj_right' lone rfl
      exact no_digit (List.singleton_inj.mp same ▸ rfl)
    have same := pieces_cons (scan_of_follows found (.longer some_ point))
    rw [ih further ended] at same
    simpa using same

/-- The last piece of a text is scanned with nothing behind it. -/
theorem scan_of_last {text : List Char} {ps : List Piece} {last : Piece}
    (read : (pieces text).1 = ps ++ [last]) (ended : (pieces text).2 = []) :
    ∃ kind c body, last = ⟨kind, c :: body⟩ ∧
      scan c (body ++ []) = some (.between kind body []) := by
  obtain ⟨rest', same, alone⟩ := pieces_split read
  obtain ⟨c, kind, body, rest, rfl, rfl, found, -⟩ := pieces_eq_cons alone
  obtain rfl : rest = [] := by
    have joined := join_pieces text
    rw [read, ended] at joined
    simpa [same] using joined
  exact ⟨kind, c, body, rfl, found⟩

/-! ## Closing a text -/

/-- A string gets its closing quote.  Behind a single backslash a quote is only escaped. -/
theorem Quoted.exists_closed (body : List Char) (open_ : (decodeBody body).2 = true) :
    ∃ j, (∀ d ∈ j.head?, d.isDigit = false) ∧ (decodeBody (body ++ j)).2 = false ∧
      ∀ rest, split (body ++ (j ++ rest)) = (body ++ j, rest) := by
  fun_induction decodeBody body with
  | case1 => exact ⟨['"'], by rintro _ ⟨⟩; rfl, rfl, fun _ => rfl⟩
  | case2 c cs tail ih =>
    obtain ⟨j, no_digit, closed, ends⟩ := ih open_
    refine ⟨j, no_digit, closed, fun rest => ?_⟩
    show split ('\\' :: c :: (cs ++ (j ++ rest))) = _
    rw [split, ends]
    rfl
  | case3 => cases open_
  | case4 c cs no_pair no_quote tail ih =>
    by_cases escape : c = '\\'
    · subst escape
      obtain rfl : cs = [] := by cases cs <;> simp_all
      exact ⟨['"', '"'], by rintro _ ⟨⟩; rfl, rfl, fun _ => rfl⟩
    · obtain ⟨j, no_digit, closed, ends⟩ := ih open_
      refine ⟨j, no_digit, ?_, fun rest => ?_⟩
      · rw [List.cons_append, decodeBody_cons escape no_quote, closed]
      · rw [List.cons_append, split_cons escape no_quote, ends]
        rfl

/-- A comment at the end of a text is complete where a new line starts, or gets its end there. -/
theorem Comment.exists_closed {text : List Char} (complete : Comment text []) :
    ∃ j, (∀ d ∈ j.head?, d.isDigit = false) ∧ ∀ rest, Comment (text ++ j) ('\n' :: rest) := by
  cases complete with
  | line no_break =>
    refine ⟨[], nofun, fun rest => ?_⟩
    rw [List.append_nil]
    exact .line no_break (by rintro _ ⟨⟩; rfl)
  | block first =>
    refine ⟨[], nofun, fun rest => ?_⟩
    rw [List.append_nil]
    exact .block first
  | @unclosed body open_ =>
    refine ⟨['*', '/'], by rintro _ ⟨⟩; rfl, fun rest => .block fun inside => ?_⟩
    rcases List.infix_concat_iff.mp inside with ⟨before, same⟩ | inside
    · have same : (before ++ ['*']) ++ ['/'] = body ++ ['*'] := by simpa using same
      cases List.append_inj_right' same rfl
    · exact open_ inside

/-- What a text tells, with any new lines behind it. -/
def TellsApart (text : List Char) (contents : List (Kind × String × Option Literal)) : Prop :=
  ∀ rest others, Tells rest others → Tells (text ++ '\n' :: rest) (contents ++ others)

namespace TellsApart

variable {c : Char} {body : List Char}

theorem comment (complete : Comment (c :: body) []) :
    ∃ j, (∀ d ∈ j.head?, d.isDigit = false) ∧ TellsApart (c :: body ++ j) [] := by
  obtain ⟨j, no_digit, closed⟩ := complete.exists_closed
  refine ⟨j, no_digit, fun rest others tells => ?_⟩
  obtain rfl : c = '/' := by cases complete <;> rfl
  exact (tells.space (by rfl)).comment (closed rest)

theorem space (first : isSpace c = true) (all : ∀ d ∈ body, isSpace d = true) :
    TellsApart (c :: body) [] := by
  intro rest others tells
  have spacing : Spacing (c :: body ++ []) := .space first (.of_space all .nil)
  rw [List.append_nil] at spacing
  exact (tells.space (by rfl)).spacing spacing

/-- A token that has its own end. -/
theorem token {kind : Kind} (visible : kind ≠ .space)
    (found : scan c (body ++ []) = some (.between (some kind) body []))
    (closed : kind = .string → (Quoted.decodeBody body).2 = false) :
    TellsApart (c :: body) [(TokenStream.token kind .origin (c :: body)).content] := by
  intro rest others tells
  have follows : Follows (some kind) body [] ('\n' :: rest) :=
    .blank ⟨'\n', rfl, rfl⟩ nofun (fun same => visible (Option.some.inj same))
      fun same => closed (Option.some.inj same)
  exact (tells.space (by rfl)).cons visible (scan_of_follows found follows)

/-- A string without its end gets one. -/
theorem string (open_ : (Quoted.decodeBody body).2 = true) :
    ∃ j, ∃ t : Token, (∀ d ∈ j.head?, d.isDigit = false) ∧
      t.kind = .string ∧ t.isUnterminated = false ∧
      TellsApart ('"' :: body ++ j) [t.content] := by
  obtain ⟨j, no_digit, closed, ends⟩ := Quoted.exists_closed body open_
  have found : scan '"' ((body ++ j) ++ []) = some (.between (some .string) (body ++ j) []) := by
    have taken : (Quoted.split ((body ++ j) ++ [])).1 = body ++ j := by
      rw [List.append_assoc, ends]
    exact congrArg some (Cut.eq_between rfl taken)
  exact ⟨j, TokenStream.token .string .origin ('"' :: (body ++ j)), no_digit, rfl, closed,
    token (by decide) found fun _ => closed⟩

end TellsApart

/-- Behind its other pieces a text tells what its last piece does. -/
theorem Tells.behind {text more : List Char} {ps : List Piece} {last : Piece}
    {contents : List (Kind × String × Option Literal)} (tells : Tells (last.text ++ more) contents)
    (read : (pieces text).1 = ps ++ [last]) (ended : (pieces text).2 = [])
    (no_digit : last.text = ['.'] → ∀ d ∈ more.head?, d.isDigit = false) :
    Tells (text ++ more) (ps.filterMap Piece.content? ++ contents) := by
  rw [Tells, pieces_append read ended no_digit, List.filterMap_append]
  exact ⟨tells.1, congrArg _ tells.2⟩

theorem TellsApart.behind {text j : List Char} {ps : List Piece} {last : Piece}
    {contents : List (Kind × String × Option Literal)} (told : TellsApart (last.text ++ j) contents)
    (read : (pieces text).1 = ps ++ [last]) (ended : (pieces text).2 = [])
    (no_digit : ∀ d ∈ j.head?, d.isDigit = false) :
    TellsApart (text ++ j) (ps.filterMap Piece.content? ++ contents) := by
  intro rest others tells
  have tells := told rest others tells
  have no_digit' : ∀ d ∈ (j ++ '\n' :: rest).head?, d.isDigit = false := by
    cases j with
    | nil => rintro _ ⟨⟩; rfl
    | cons d ds => exact no_digit
  rw [List.append_assoc] at tells ⊢
  rw [List.append_assoc]
  exact tells.behind read ended fun _ => no_digit'

/-- A last piece can be closed.  If it is a string without its end, another string takes its
place. -/
theorem tellsApart_of_scan {c : Char} {body : List Char} {kind : Option Kind}
    (found : scan c (body ++ []) = some (.between kind body [])) :
    ∃ j, (∀ d ∈ j.head?, d.isDigit = false) ∧
      (((kind = some .string → (Quoted.decodeBody body).2 = false) ∧
          TellsApart (c :: body ++ j) (Piece.content? ⟨kind, c :: body⟩).toList) ∨
        ∃ t : Token, t.kind = .string ∧ t.isUnterminated = false ∧
          TellsApart (c :: body ++ j) [t.content]) := by
  cases kind with
  | none =>
    obtain ⟨-, complete⟩ | ⟨k, other, -⟩ := scan_cases found
    · obtain ⟨j, no_digit, told⟩ := TellsApart.comment complete
      exact ⟨j, no_digit, .inl ⟨nofun, told⟩⟩
    · cases other
  | some kind =>
    by_cases blank : kind = .space
    · subst blank
      obtain ⟨first, same⟩ | ⟨-, other⟩ | ⟨other, -⟩ := class_of_scan found
      · refine ⟨[], nofun, .inl ⟨nofun, ?_⟩⟩
        obtain ⟨-, all, -⟩ := of_run_eq_between same.symm
        rw [List.append_nil]
        exact .space first all
      · cases congrArg Cut.kind other
      · exact absurd rfl other
    have made : Piece.content? ⟨some kind, c :: body⟩ = some _ := if_neg blank
    by_cases closed : kind = .string → (Quoted.decodeBody body).2 = false
    · refine ⟨[], nofun, .inl ⟨fun same => closed (Option.some.inj same), ?_⟩⟩
      rw [made, List.append_nil]
      exact .token blank found closed
    · rw [Classical.not_imp, Bool.not_eq_false] at closed
      obtain ⟨rfl, open_⟩ := closed
      obtain ⟨rfl, -⟩ := TokenStream.string_of_scan found
      obtain ⟨j, t, no_digit, told⟩ := TellsApart.string open_
      exact ⟨j, no_digit, .inr ⟨t, told⟩⟩

/-- A text that scans can be closed.  Its tokens stay what they are, except for a string at the
end that has no closing quote. -/
theorem exists_tellsApart {text : List Char} (ended : (pieces text).2 = []) (p : Place) :
    ∃ j kept added, kept <+: Token.significant (TokenStream.place p (pieces text).1) ∧
      (∀ t ∈ kept, t.isUnterminated = false) ∧
      (∀ t ∈ added, t.kind = .string ∧ t.isUnterminated = false) ∧
      TellsApart (text ++ j) ((kept ++ added).map Token.content) := by
  rcases List.eq_nil_or_concat (pieces text).1 with none_ | ⟨ps, last, read⟩
  · have joined := join_pieces text
    rw [none_, ended] at joined
    obtain rfl : [] = text := joined
    exact ⟨[], [], [], by simp, by simp, by simp, fun _ _ tells => tells.space (by rfl)⟩
  rw [List.concat_eq_append] at read
  obtain ⟨kind, c, body, rfl, found⟩ := scan_of_last read ended
  obtain ⟨j, no_digit, told⟩ := tellsApart_of_scan found
  have split : Token.significant (TokenStream.place p (pieces text).1) =
      Token.significant (TokenStream.place p ps) ++
        Token.significant (TokenStream.place (TokenStream.placeAfter p ps)
          [⟨kind, c :: body⟩]) := by
    rw [read, TokenStream.place_append]
    exact List.filter_append ..
  have closed_front : ∀ t ∈ Token.significant (TokenStream.place p ps),
      t.isUnterminated = false := fun t inside =>
    TokenStream.closed_of_behind read (by simp) p t (List.mem_filter.mp inside).1
  obtain ⟨closed, told⟩ | ⟨t, is_string, closed, told⟩ := told
  · refine ⟨j, _, [], List.prefix_refl _, ?_, by simp, ?_⟩
    · rw [split]
      refine List.forall_mem_append.mpr ⟨closed_front, fun t inside => ?_⟩
      exact TokenStream.closed_of_scan found closed _ t (List.mem_filter.mp inside).1
    · rw [List.append_nil, TokenStream.content_significant_place, read, List.filterMap_append]
      have last : [(⟨kind, c :: body⟩ : Piece)].filterMap Piece.content? =
          (Piece.content? ⟨kind, c :: body⟩).toList := by
        cases made : Piece.content? ⟨kind, c :: body⟩ <;> simp [made]
      rw [last]
      exact told.behind read ended no_digit
  · refine ⟨j, _, [t], ⟨_, split.symm⟩, closed_front, by simp [is_string, closed], ?_⟩
    rw [List.map_append, TokenStream.content_significant_place]
    exact told.behind read ended no_digit

end Scriptlet
