import Scriptlet.Token.Tiling
import Scriptlet.Proofs.Token.Locality
import Scriptlet.Proofs.Repl.Balance

/-!
# Reading spaced texts

A text of lexemes with separators between them is read as those lexemes, one token each
(`spaced_texts_read_back`).  A lexeme alone is one piece, and it stays that piece where white space
follows it.  White space and complete comments in front of a text do not change the contents of
the tokens after them.

A text *tells* the contents of its tokens, without white space.
-/

namespace Scriptlet

open Scan

/-! ## What a text tells -/

/-- The content of the token of a piece, if it makes one that is not white space. -/
def Piece.content? (p : Piece) : Option (Kind × String × Option Literal) :=
  match p.kind with
  | none => none
  | some kind =>
    if kind = .space then none
    else some (kind, String.ofList p.text, TokenStream.literal? kind p.text)

/-- The text is read to its end, and these are the contents of its tokens. -/
def Tells (text : List Char) (contents : List (Kind × String × Option Literal)) : Prop :=
  (pieces text).2 = [] ∧ (pieces text).1.filterMap Piece.content? = contents

namespace TokenStream

theorem content_significant_place (p : Place) (ps : List Piece) :
    (Token.significant (place p ps)).map Token.content = ps.filterMap Piece.content? := by
  induction ps generalizing p with
  | nil => rfl
  | cons piece ps ih =>
    rw [place, List.filterMap_cons, Piece.content?]
    cases piece.kind with
    | none => exact ih _
    | some kind =>
      by_cases blank : kind = .space
      · have skipped (q : Place) (tail : List Token) :
            Token.significant (token kind q piece.text :: tail) = Token.significant tail :=
          List.filter_cons_of_neg (decide_eq_true_iff.not.mpr (not_not_intro blank))
        simp only [skipped, if_pos blank, ih]
      · have kept (q : Place) (tail : List Token) :
            Token.significant (token kind q piece.text :: tail) =
              token kind q piece.text :: Token.significant tail :=
          List.filter_cons_of_pos (decide_eq_true_iff.mpr blank)
        simp only [kept, if_neg blank, List.map_cons, ih]
        rfl

end TokenStream

theorem tokenize_of_pieces {source : String} {ps : List Piece}
    (read : pieces source.toList = (ps, [])) :
    tokenize source = .ok (TokenStream.place .origin ps ++
      [TokenStream.endToken (TokenStream.placeAfter .origin ps)]) := by
  have streamed : stream source = ⟨TokenStream.place .origin ps,
      .ok (TokenStream.endToken (TokenStream.placeAfter .origin ps))⟩ := by
    rw [stream, read]
    rfl
  rw [tokenize, streamed]
  rfl

theorem pieces_of_tokenize {source : String} {ts : List Token} {stop : Token}
    (read : tokenize source = .ok (ts ++ [stop])) :
    ts = TokenStream.place .origin (pieces source.toList).1 ∧ (pieces source.toList).2 = [] := by
  obtain ⟨last, ended, split⟩ := tokenize_eq_ok.mp read
  refine ⟨(List.append_inj' split rfl).1, ?_⟩
  change TokenStream.ending _ (pieces source.toList).2 = _ at ended
  cases left : (pieces source.toList).2 with
  | nil => rfl
  | cons c cs =>
    rw [left] at ended
    cases ended

theorem tokenize_of_tells {source : String} {contents : List (Kind × String × Option Literal)}
    (tells : Tells source.toList contents) :
    ∃ ts stop, tokenize source = .ok (ts ++ [stop]) ∧ stop.kind = .eof ∧
      (Token.significant ts).map Token.content = contents := by
  obtain ⟨ended, same⟩ := tells
  refine ⟨_, _, tokenize_of_pieces (Prod.ext rfl ended), rfl, ?_⟩
  exact (TokenStream.content_significant_place .origin _).trans same

/-! ## Spacing -/

theorem pieces_cons {c : Char} {body rest : List Char} {kind : Option Kind}
    (found : scan c (body ++ rest) = some (.between kind body rest)) :
    pieces (c :: (body ++ rest)) = (⟨kind, c :: body⟩ :: (pieces rest).1, (pieces rest).2) := by
  rw [pieces, found]
  rfl

namespace Tells

variable {rest : List Char} {contents : List (Kind × String × Option Literal)}

theorem nil : Tells [] [] := by
  rw [Tells, pieces]
  exact ⟨rfl, rfl⟩

/-- A piece that makes no token, or white space, tells nothing. -/
theorem skip {c : Char} {body : List Char} {kind : Option Kind}
    (found : scan c (body ++ rest) = some (.between kind body rest))
    (silent : kind = none ∨ kind = some .space) :
    Tells (c :: (body ++ rest)) contents ↔ Tells rest contents := by
  have empty : (⟨kind, c :: body⟩ : Piece).content? = none := by
    rcases silent with rfl | rfl <;> rfl
  rw [Tells, Tells, pieces_cons found, List.filterMap_cons_none empty]

/-- White space in front of a text tells nothing. -/
theorem dropWhile_iff (text : List Char) :
    Tells (text.dropWhile isSpace) contents ↔ Tells text contents := by
  cases text with
  | nil => exact .rfl
  | cons c cs =>
    by_cases blank : isSpace c = true
    · rw [List.dropWhile_cons_of_pos blank]
      have found : scan c (cs.takeWhile isSpace ++ cs.dropWhile isSpace) =
          some (.between (some .space) _ _) := by
        rw [scan, if_pos blank, run_eq_between _ of_mem_takeWhile head?_dropWhile]
      have skipped : Tells (c :: (cs.takeWhile isSpace ++ cs.dropWhile isSpace)) contents ↔ _ :=
        skip found (.inr rfl)
      rw [List.takeWhile_append_dropWhile] at skipped
      exact skipped.symm
    · rw [List.dropWhile_cons_of_neg blank]

theorem space {c : Char} (blank : isSpace c = true) (tells : Tells rest contents) :
    Tells (c :: rest) contents := by
  rw [← dropWhile_iff, List.dropWhile_cons_of_pos blank]
  exact (dropWhile_iff rest).mpr tells

theorem comment {text : List Char} (complete : Comment ('/' :: text) rest)
    (tells : Tells rest contents) : Tells ('/' :: (text ++ rest)) contents := by
  have found : scan '/' (text ++ rest) = some (.between none text rest) := by
    rw [scan, if_neg (by decide), if_neg (by decide), if_neg (by decide), if_neg (by decide),
      if_pos rfl, comment_eq_between complete, Option.some_or]
  exact (skip found (.inl rfl)).mpr tells

/-- Spacing in front of a text tells nothing. -/
theorem spacing {gap : List Char} (spacing : Spacing gap) (tells : Tells rest contents) :
    Tells (gap ++ rest) contents := by
  induction spacing with
  | nil => exact tells
  | space blank _ ih => exact ih.space blank
  | @line body gap no_break _ ih =>
    have complete : Comment ('/' :: '/' :: body) ('\n' :: (gap ++ rest)) :=
      .line no_break (by rintro _ ⟨⟩; rfl)
    simpa using (ih.space (by rfl)).comment complete
  | @block body gap first _ ih =>
    have complete : Comment ('/' :: '*' :: body ++ ['*', '/']) (gap ++ rest) := .block first
    simpa using ih.comment complete

end Tells

/-! ## Lexemes alone -/

/-- The first character tells white space and strings from other pieces. -/
theorem Scan.class_of_scan {c : Char} {text : List Char} {cut : Cut text}
    (found : scan c text = some cut) :
    (isSpace c = true ∧ cut = .run (some .space) isSpace text) ∨ (c = '"' ∧ cut = string text) ∨
      cut.kind ≠ some .space ∧ cut.kind ≠ some .string := by
  cases rule_of_scan found with
  | space blank same => exact .inl ⟨blank, same⟩
  | string quote same => exact .inr (.inl ⟨quote, same⟩)
  | number _ same =>
    rw [same, kind_number]
    exact .inr (.inr ⟨nofun, nofun⟩)
  | name _ same =>
    obtain ⟨k, named, other⟩ := exists_kind_name (P := fun k => k ≠ .space ∧ k ≠ .string)
      ⟨nofun, nofun⟩ (by decide) c text
    rw [same, named]
    exact .inr (.inr ⟨fun is_space => other.1 (Option.some.inj is_space),
      fun is_string => other.2 (Option.some.inj is_string)⟩)
  | comment _ commented =>
    rw [(comment_of_comment commented).1]
    exact .inr (.inr ⟨nofun, nofun⟩)
  | symbol symbolic =>
    obtain ⟨s, is_symbol⟩ := kind_symbol symbolic
    rw [is_symbol]
    exact .inr (.inr ⟨nofun, nofun⟩)

/-- A token alone is one piece. -/
theorem Token.Alone.scan {t : Token} (alone : t.Alone) :
    ∃ c body, t.lexeme.toList = c :: body ∧ t = TokenStream.token t.kind .origin (c :: body) ∧
      Scriptlet.scan c (body ++ []) = some (.between (some t.kind) body []) := by
  obtain ⟨-, stop, read⟩ := alone
  have read' : tokenize t.lexeme = .ok ([t] ++ [stop]) := read
  obtain ⟨one, -⟩ := pieces_of_tokenize read'
  cases text : t.lexeme.toList with
  | nil =>
    rw [text, pieces] at one
    cases one
  | cons c cs =>
    rw [text, pieces] at one
    cases found : Scriptlet.scan c cs with
    | none =>
      rw [found] at one
      cases one
    | some cut =>
      obtain ⟨kind, body, rest, rfl⟩ := cut
      rw [found] at one
      cases kind with
      | none =>
        -- The token would lie behind the first piece of its own lexeme.
        have tiles := TokenStream.tiles_place (Place.origin.advance (c :: body)) rest
        have behind : [t] = TokenStream.place (Place.origin.advance (c :: body))
            (pieces rest).1 := one
        rw [← behind] at tiles
        cases tiles with
        | token =>
          have size := congrArg List.length text
          simp only [List.length_append, List.length_cons] at size
          omega
      | some kind =>
        obtain ⟨here, -⟩ := List.cons.inj one
        have lexeme : t.lexeme.toList = c :: body := by
          rw [here]
          exact TokenStream.toList_lexeme_token ..
        obtain rfl : rest = [] := by simpa using lexeme.symm.trans text
        refine ⟨c, body, by rw [List.append_nil], ?_, ?_⟩
        · rw [here]
          rfl
        · rw [here]
          exact found

/-- A piece that is a token is that token alone. -/
theorem alone_of_scan {c : Char} {body : List Char} {kind : Kind} (visible : kind ≠ .space)
    (found : scan c (body ++ []) = some (.between (some kind) body [])) :
    (TokenStream.token kind .origin (c :: body)).Alone := by
  have single : pieces (c :: body) = ([⟨some kind, c :: body⟩], []) := by
    have read := pieces_cons found
    rw [pieces, List.append_nil] at read
    exact read
  have lexeme : (TokenStream.token kind .origin (c :: body)).lexeme.toList = c :: body :=
    TokenStream.toList_lexeme_token ..
  exact ⟨visible, _, tokenize_of_pieces ((congrArg pieces lexeme).trans single)⟩

/-- A string with its closing quote, alone. -/
theorem Token.Alone.closed {kind : Kind} {c : Char} {body : List Char}
    (found : Scriptlet.scan c (body ++ []) = some (.between (some kind) body []))
    (closed : (TokenStream.token kind .origin (c :: body)).isUnterminated = false)
    (is_string : kind = .string) : (Quoted.decodeBody body).2 = false := by
  subst is_string
  obtain ⟨-, other⟩ | ⟨rfl, -⟩ | ⟨-, other⟩ := Scan.class_of_scan found
  · cases congrArg Cut.kind other
  · exact closed
  · exact absurd rfl other

/-! ## Spaced texts -/

namespace Tells

variable {t : Token} {rest : List Char} {contents : List (Kind × String × Option Literal)}

theorem cons {c : Char} {body : List Char} {kind : Kind} (visible : kind ≠ .space)
    (found : Scriptlet.scan c (body ++ rest) = some (.between (some kind) body rest))
    (tells : Tells rest contents) :
    Tells (c :: body ++ rest)
      ((TokenStream.token kind .origin (c :: body)).content :: contents) := by
  have made : (⟨some kind, c :: body⟩ : Piece).content? =
      some (TokenStream.token kind .origin (c :: body)).content := if_neg visible
  show Tells (c :: (body ++ rest)) _
  rw [Tells, pieces_cons found, List.filterMap_cons_some made, tells.2]
  exact ⟨tells.1, rfl⟩

/-- A token alone, at the end of a text. -/
theorem last (alone : t.Alone) : Tells t.lexeme.toList [t.content] := by
  obtain ⟨c, body, lexeme, same, found⟩ := alone.scan
  rw [lexeme, same]
  simpa using nil.cons alone.1 found

/-- A token alone, with white space behind it. -/
theorem token (alone : t.Alone) (closed : t.isUnterminated = false)
    (blank : ∃ c ∈ rest.head?, isSpace c = true) (tells : Tells rest contents) :
    Tells (t.lexeme.toList ++ rest) (t.content :: contents) := by
  obtain ⟨c, body, lexeme, same, found⟩ := alone.scan
  have ends (is_string : some t.kind = some .string) : (Quoted.decodeBody body).2 = false :=
    Token.Alone.closed found (same ▸ closed) (Option.some.inj is_string)
  have follows : Follows (some t.kind) body [] rest :=
    .blank blank nofun (fun is_space => alone.1 (Option.some.inj is_space)) ends
  rw [lexeme, same]
  exact tells.cons alone.1 (scan_of_follows found follows)

end Tells

/-- A spaced text tells what its lexemes do. -/
theorem Spaced.tells {ts : List Token} {text : List Char} (spaced : Spaced ts text) :
    Tells text (ts.map Token.content) := by
  induction spaced with
  | nil => exact .nil
  | last alone => exact .last alone
  | @cons t ts gap rest alone closed separator _ ih =>
    obtain ⟨spacing, c, first, blank⟩ := separator
    refine .token alone closed ⟨c, ?_, blank⟩ (ih.spacing spacing)
    cases gap with
    | nil => cases first
    | cons d ds => exact first

/-! ## Tokens of a source joined again -/

/-- The token that the lexeme of a token makes alone. -/
def Token.moved (t : Token) : Token := TokenStream.token t.kind .origin t.lexeme.toList

namespace TokenStream

theorem moved_token (kind : Kind) (p : Place) (lexeme : List Char) :
    (token kind p lexeme).moved = token kind .origin lexeme := by
  rw [Token.moved, toList_lexeme_token]
  rfl

/-- A token of a text is white space or could stand alone. -/
theorem alone_of_mem_place (p : Place) (text : List Char) :
    ∀ t ∈ place p (pieces text).1, t.moved.content = t.content ∧
      ((t.kind = .space ∧ ∀ c ∈ t.lexeme.toList, isSpace c = true) ∨ t.moved.Alone) := by
  fun_induction pieces text generalizing p with
  | case1 => simp [place]
  | case2 => simp [place]
  | case3 c cs cut found next ih =>
    rw [place]
    cases made : cut.kind with
    | none => exact ih _
    | some kind =>
      refine List.forall_mem_cons.mpr ⟨?_, ih _⟩
      rw [moved_token, toList_lexeme_token]
      refine ⟨rfl, ?_⟩
      by_cases blank : kind = .space
      · subst blank
        obtain ⟨first, rfl⟩ | ⟨-, rfl⟩ | ⟨other, -⟩ := class_of_scan found
        · exact .inl ⟨rfl, List.forall_mem_cons.mpr ⟨first, of_mem_takeWhile⟩⟩
        · cases made
        · exact absurd made other
      · obtain ⟨_, body, rest, rfl⟩ := cut
        obtain rfl : _ = some kind := made
        exact .inr (alone_of_scan blank (scan_of_follows found (.shorter List.nil_prefix)))

/-- Only the last token of a text can be a string without its closing quote. -/
theorem pairwise_closed_place (p : Place) (text : List Char) :
    (place p (pieces text).1).Pairwise fun t _ => t.isUnterminated = false := by
  fun_induction pieces text generalizing p with
  | case1 => simp [place]
  | case2 => simp [place]
  | case3 c cs cut found next ih =>
    rw [place]
    cases made : cut.kind with
    | none => exact ih _
    | some kind =>
      refine .cons (fun u behind => ?_) (ih _)
      cases unterminated : (token kind p (c :: cut.body)).isUnterminated with
      | false => rfl
      | true =>
        obtain rfl := isString_of_isUnterminated unterminated
        obtain ⟨-, rfl⟩ | ⟨rfl, rfl⟩ | ⟨-, other⟩ := class_of_scan found
        · cases made
        · have ended : (string cs).rest = [] := Quoted.split_unclosed cs unterminated
          have no_more : next.1 = [] := by
            show (pieces (string cs).rest).1 = []
            rw [ended, pieces]
          rw [no_more] at behind
          cases behind
        · exact absurd made other

end TokenStream

/-- White space in front of spacing is spacing. -/
theorem Spacing.of_space {blank rest : List Char} (all : ∀ c ∈ blank, isSpace c = true)
    (spacing : Spacing rest) : Spacing (blank ++ rest) := by
  induction blank with
  | nil => exact spacing
  | cons c cs ih =>
    obtain ⟨here, all⟩ := List.forall_mem_cons.mp all
    exact .space here (ih all)

theorem Token.lexeme_moved (t : Token) : t.moved.lexeme.toList = t.lexeme.toList :=
  TokenStream.toList_lexeme_token ..

theorem Token.isUnterminated_moved {t : Token} (same : t.moved.content = t.content) :
    t.moved.isUnterminated = t.isUnterminated := by
  have literal : t.moved.literal = t.literal := congrArg (fun c => c.2.2) same
  rw [isUnterminated, isUnterminated, literal]

/-- Tokens with single spaces between them are a spaced text behind some spacing. -/
theorem exists_spaced {ts : List Token}
    (made : ∀ t ∈ ts, t.moved.content = t.content ∧
      ((t.kind = .space ∧ ∀ c ∈ t.lexeme.toList, isSpace c = true) ∨ t.moved.Alone))
    (closed : ts.Pairwise fun t _ => t.isUnterminated = false) :
    ∃ before text, [' '].intercalate (ts.map fun t => t.lexeme.toList) = before ++ text ∧
      Spacing before ∧ Spaced ((Token.significant ts).map Token.moved) text := by
  induction ts with
  | nil => exact ⟨[], [], rfl, .nil, .nil⟩
  | cons t ts ih =>
    obtain ⟨here, made⟩ := List.forall_mem_cons.mp made
    obtain ⟨ends, closed⟩ := List.pairwise_cons.mp closed
    obtain ⟨before, text, joined, spacing, spaced⟩ := ih made closed
    obtain ⟨same, ⟨is_space, all⟩ | alone⟩ := here
    · -- White space goes to the spacing in front.
      have skipped : Token.significant (t :: ts) = Token.significant ts :=
        List.filter_cons_of_neg (decide_eq_true_iff.not.mpr (not_not_intro is_space))
      rw [skipped]
      cases ts with
      | nil => exact ⟨t.lexeme.toList, [], by simp, by simpa using Spacing.of_space all .nil, .nil⟩
      | cons u us =>
        refine ⟨t.lexeme.toList ++ ' ' :: before, text, ?_,
          .of_space all (.space rfl spacing), spaced⟩
        simp only [List.map_cons, List.intercalate_cons_cons] at joined ⊢
        rw [joined]
        simp
    · have kept : Token.significant (t :: ts) = t :: Token.significant ts :=
        List.filter_cons_of_pos (decide_eq_true_iff.mpr alone.1)
      rw [kept, List.map_cons]
      cases ts with
      | nil =>
        have last := Spaced.last alone
        rw [t.lexeme_moved] at last
        exact ⟨[], t.lexeme.toList, by simp, .nil, last⟩
      | cons u us =>
        have terminated := (Token.isUnterminated_moved same).trans (ends u (.head _))
        have gap : Separator (' ' :: before) := ⟨.space rfl spacing, ' ', rfl, rfl⟩
        have further := Spaced.cons alone terminated gap spaced
        rw [t.lexeme_moved] at further
        refine ⟨[], _, ?_, .nil, further⟩
        simp only [List.map_cons, List.intercalate_cons_cons] at joined ⊢
        rw [joined]
        simp

/-! ## The theorem -/

/-- A text of lexemes with separators between them, and any spacing in front, is read as tokens
with the contents of those lexemes, in order.  If tokens of a source are joined with single
spaces, whether white space is among them or not, the text is read as tokens with the contents
that they had. -/
theorem spaced_texts_read_back :
    (∀ (source : String) (before text : List Char) (lexemes : List Token), Spacing before →
      Spaced lexemes text → source.toList = before ++ text →
      ∃ ts stop, tokenize source = .ok (ts ++ [stop]) ∧ stop.kind = .eof ∧
        (Token.significant ts).map Token.content = lexemes.map Token.content) ∧
    ∀ (source : String) (ts : List Token) (stop : Token),
      tokenize source = .ok (ts ++ [stop]) → ∀ us : List Token, us.Sublist ts →
      ∃ ts' stop', tokenize (" ".intercalate (us.map Token.lexeme)) = .ok (ts' ++ [stop']) ∧
        stop'.kind = .eof ∧
        (Token.significant ts').map Token.content = (Token.significant us).map Token.content := by
  have reads (source : String) (before text : List Char) (lexemes : List Token)
      (spacing : Spacing before) (spaced : Spaced lexemes text)
      (joined : source.toList = before ++ text) :
      ∃ ts stop, tokenize source = .ok (ts ++ [stop]) ∧ stop.kind = .eof ∧
        (Token.significant ts).map Token.content = lexemes.map Token.content :=
    tokenize_of_tells (joined ▸ spaced.tells.spacing spacing)
  refine ⟨reads, fun source ts stop read us some_ => ?_⟩
  obtain ⟨rfl, -⟩ := pieces_of_tokenize read
  have made (t : Token) (inside : t ∈ us) :=
    TokenStream.alone_of_mem_place .origin source.toList t (some_.subset inside)
  have closed := (TokenStream.pairwise_closed_place .origin source.toList).sublist some_
  obtain ⟨before, text, joined, spacing, spaced⟩ := exists_spaced made closed
  have same : (" ".intercalate (us.map Token.lexeme)).toList = before ++ text := by
    rw [String.toList_intercalate, List.map_map]
    exact joined
  obtain ⟨ts', stop', read', is_end, contents⟩ := reads _ before text _ spacing spaced same
  refine ⟨ts', stop', read', is_end, contents.trans ?_⟩
  rw [List.map_map]
  refine List.map_congr_left fun t inside => ?_
  exact (made t (List.mem_filter.mp inside).1).1

/-- A slash and a star with a space between them open no comment.  Two symbols that a comment
divides are joined with a space. -/
theorem spaced_texts_read_back_dividing :
    let slash := TokenStream.token (.symbol .slash) .origin ['/']
    let star := TokenStream.token (.symbol .star) .origin ['*']
    let open_ := TokenStream.token .string .origin ['"', '/', '*']
    let steps := [TokenStream.token (.symbol .plusPlus) .origin ['+', '+'],
      TokenStream.token (.symbol .plus) ⟨6, 1, 7⟩ ['+']]
    Spacing ['/', '*', '*', '/'] ∧
      Spaced [slash, star, open_] ['/', ' ', '*', '\n', '"', '/', '*'] ∧
      (∃ ts stop, tokenize "/**// *\n\"/*" = .ok (ts ++ [stop]) ∧ stop.kind = .eof ∧
        (Token.significant ts).map Token.content = [slash, star, open_].map Token.content) ∧
      tokenize "++/**/+" = .ok (steps ++ [TokenStream.endToken ⟨7, 1, 8⟩]) ∧
      ∃ ts stop, tokenize "++ +" = .ok (ts ++ [stop]) ∧ stop.kind = .eof ∧
        (Token.significant ts).map Token.content = (Token.significant steps).map Token.content := by
  intro slash star open_ steps
  have slash_alone : slash.Alone := alone_of_scan (by decide) rfl
  have star_alone : star.Alone := alone_of_scan (by decide) rfl
  have open_alone : open_.Alone := alone_of_scan (by decide) rfl
  have spacing : Spacing ['/', '*', '*', '/'] := @Spacing.block [] [] (by decide) .nil
  have space : Separator [' '] := ⟨.space rfl .nil, ' ', rfl, rfl⟩
  have newline : Separator ['\n'] := ⟨.space rfl .nil, '\n', rfl, rfl⟩
  have spaced : Spaced [slash, star, open_] ['/', ' ', '*', '\n', '"', '/', '*'] := by
    have built := (Spaced.last open_alone).cons star_alone rfl newline |>.cons slash_alone rfl space
    simp only [slash, star, open_, TokenStream.toList_lexeme_token] at built
    exact built
  have read : tokenize "++/**/+" = .ok (steps ++ [TokenStream.endToken ⟨7, 1, 8⟩]) := by
    with_unfolding_all rfl
  exact ⟨spacing, spaced, spaced_texts_read_back.1 _ _ _ _ spacing spaced rfl, read,
    spaced_texts_read_back.2 _ _ _ read steps (.refl _)⟩

end Scriptlet
