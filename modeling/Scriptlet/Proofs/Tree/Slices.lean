import Scriptlet.Proofs.Token.Appending
import Scriptlet.Proofs.Tree.Moving
import Scriptlet.Proofs.Tree.Extents

/-!
# Reading a slice of a source

Some tokens in a row, cut out of their source and read alone, are the same tokens again, further
in front (`exists_slice`).  The pieces of a slice are its pieces in the whole text, since a piece
stays the same piece where less text follows it.

A place in a slice is *beyond* the place where the slice starts.
-/

namespace Scriptlet

/-! ## Places -/

namespace Place

/-- The place in a source of a place in its text from another place on. -/
def beyond (q p : Place) : Place :=
  ⟨p.offset + q.offset, q.line + p.line - 1,
    if p.line = 1 then q.column + p.column - 1 else p.column⟩

/-- A place where a line and a column are counted from 1. -/
def Counted (p : Place) : Prop := 1 ≤ p.line ∧ 1 ≤ p.column

theorem beyond_origin (q : Place) : q.beyond origin = q := by
  simp [beyond, origin]

theorem step_beyond (q : Place) {p : Place} (counted : p.Counted) (c : Char) :
    (q.beyond p).step c = q.beyond (p.step c) ∧ (p.step c).Counted := by
  obtain ⟨line, column⟩ := counted
  unfold step
  split
  next =>
    have other : p.line + 1 ≠ 1 := by omega
    refine ⟨?_, Nat.le_add_left 1 _, Nat.le_refl 1⟩
    simp only [beyond, if_neg other, Place.mk.injEq, and_true]
    omega
  next =>
    refine ⟨?_, line, Nat.le_add_left 1 _⟩
    simp only [beyond, Place.mk.injEq, true_and]
    split <;> omega

theorem advance_beyond (q : Place) {p : Place} (counted : p.Counted) (text : List Char) :
    (q.beyond p).advance text = q.beyond (p.advance text) ∧ (p.advance text).Counted := by
  induction text generalizing p with
  | nil => exact ⟨rfl, counted⟩
  | cons c cs ih =>
    obtain ⟨same, counted'⟩ := step_beyond q counted c
    rw [advance_cons, advance_cons, same]
    exact ih counted'

end Place

/-- The token in a source of a token in its text from a place on. -/
def Token.beyond (q : Place) (t : Token) : Token :=
  let p := q.beyond ⟨t.span.start, t.line, t.column⟩
  { t with span := t.span.shift q.offset, line := p.line, column := p.column }

/-- The move from a slice that starts at a place to its source. -/
def Move.beyond (q : Place) : Move where
  span := Span.shift q.offset
  token := Token.beyond q
  kind _ := rfl
  lexeme _ := rfl
  literal _ := rfl
  span_token _ := rfl
  merge a b := by simp only [Span.shift, Span.merge, Nat.add_min_add_right, Nat.add_max_add_right]

namespace TokenStream

theorem token_beyond (q : Place) {p : Place} (counted : p.Counted) (kind : Kind)
    (lexeme : List Char) : token kind (q.beyond p) lexeme = (token kind p lexeme).beyond q := by
  unfold token
  rw [(Place.advance_beyond q counted lexeme).1]
  rfl

/-- Pieces that are placed further behind make the same tokens, further behind. -/
theorem place_beyond (q : Place) {p : Place} (counted : p.Counted) (ps : List Piece) :
    place (q.beyond p) ps = (place p ps).map (Token.beyond q) := by
  induction ps generalizing p with
  | nil => rfl
  | cons piece ps ih =>
    obtain ⟨same, counted'⟩ := Place.advance_beyond q counted piece.text
    rw [place, place, same, ih counted']
    cases piece.kind with
    | none => rfl
    | some kind => simp only [List.map_cons, token_beyond q counted]

/-! ## Slices of tokens -/

theorem significant_place_cons (p : Place) (piece : Piece) (ps : List Piece) :
    Token.significant (place p (piece :: ps)) = Token.significant (place p [piece]) ++
      Token.significant (place (p.advance piece.text) ps) := by
  rw [Token.significant, Token.significant, Token.significant, ← List.filter_append, place, place]
  cases piece.kind <;> rfl

/-- A piece makes no token that counts, or one that spans it. -/
theorem significant_place_one (p : Place) (piece : Piece) :
    Token.significant (place p [piece]) = [] ∨
      ∃ t : Token, t.span = p.spanTo (p.advance piece.text) ∧
        Token.significant (place p [piece]) = [t] := by
  rw [place]
  cases piece.kind with
  | none => exact .inl rfl
  | some kind =>
    by_cases blank : kind = .space
    · exact .inl (List.filter_cons_of_neg (decide_eq_true_iff.not.mpr (not_not_intro blank)))
    · exact .inr ⟨token kind p piece.text, rfl,
        List.filter_cons_of_pos (decide_eq_true_iff.mpr blank)⟩

/-- Tokens can be divided where one starts. -/
theorem divide_at_start {p : Place} {ps : List Piece} {t : Token} {ts : List Token}
    (placed : Token.significant (place p ps) = ts) (first : ts.head? = some t) :
    ∃ front behind, ps = front ++ behind ∧ t.span.start = (placeAfter p front).offset ∧
      Token.significant (place (placeAfter p front) behind) = ts := by
  induction ps generalizing p with
  | nil =>
    subst placed
    cases first
  | cons piece ps ih =>
    have split := significant_place_cons p piece ps
    obtain silent | ⟨u, spans, made⟩ := significant_place_one p piece
    · rw [split, silent] at placed
      obtain ⟨front, behind, rfl, starts, further⟩ := ih placed
      exact ⟨piece :: front, behind, rfl, starts, further⟩
    · rw [split, made] at placed
      rw [← placed] at first
      cases first
      refine ⟨[], piece :: ps, rfl, congrArg Span.start spans, ?_⟩
      rw [← placed, ← made]
      exact split

/-- Tokens can be divided where one stops. -/
theorem divide_at_stop {p : Place} {ps : List Piece} {ts us : List Token}
    (placed : Token.significant (place p ps) = ts ++ us) :
    ∃ front behind, ps = front ++ behind ∧ Token.significant (place p front) = ts ∧
      Token.significant (place (placeAfter p front) behind) = us ∧
      (placeAfter p front).offset = (ts.getLast?.map fun t => t.span.stop).getD p.offset := by
  induction ps generalizing p ts with
  | nil =>
    obtain ⟨rfl, rfl⟩ := List.append_eq_nil_iff.mp placed.symm
    exact ⟨[], [], rfl, rfl, rfl, rfl⟩
  | cons piece ps ih =>
    cases ts with
    | nil => exact ⟨[], piece :: ps, rfl, rfl, placed, rfl⟩
    | cons t ts =>
      rw [significant_place_cons] at placed
      obtain silent | ⟨u, spans, made⟩ := significant_place_one p piece
      · rw [silent] at placed
        obtain ⟨front, behind, rfl, own, further, stops⟩ := ih placed
        refine ⟨piece :: front, behind, rfl, ?_, further, ?_⟩
        · rw [significant_place_cons, silent, own]
          rfl
        · rw [List.getLast?_cons] at stops ⊢
          exact stops
      · rw [made] at placed
        obtain ⟨rfl, placed'⟩ := List.cons.inj placed
        obtain ⟨front, behind, rfl, own, further, stops⟩ := ih placed'
        refine ⟨piece :: front, behind, rfl, ?_, further, ?_⟩
        · rw [significant_place_cons, made, own]
          rfl
        · refine stops.trans ?_
          have here : (p.advance piece.text).offset = u.span.stop := by rw [spans]; rfl
          rw [here, List.getLast?_cons]
          cases ts.getLast? <;> rfl

end TokenStream

/-! ## The slice of some tokens -/

/-- The source of some tokens in a row is read alone as the same tokens, further in front. -/
theorem exists_slice {source : String} {all before ts after : List Token} {stop : Token} {s : Span}
    (read : tokenize source = .ok (all ++ [stop]))
    (split : Token.significant all = before ++ (ts ++ after)) (covers : s.Covers ts) :
    ∃ (text : String) (us : List Token) (stop' : Token) (q : Place),
      s.Cuts source.toList text.toList ∧ q.offset = s.start ∧
      tokenize text = .ok (us ++ [stop']) ∧ stop'.kind = .eof ∧ (∀ t ∈ us, t.kind ≠ .eof) ∧
      (Token.significant us).map (Token.beyond q) = ts := by
  obtain ⟨rfl, -⟩ := pieces_of_tokenize read
  obtain ⟨first, last, is_first, is_last, rfl⟩ := covers
  have is_first' : (ts ++ after).head? = some first := by rw [List.head?_append, is_first]; rfl
  generalize made : (pieces source.toList).1 = ps at split
  obtain ⟨front, ps₁, rfl, -, split, -⟩ := TokenStream.divide_at_stop split
  obtain ⟨blank, ps₂, rfl, starts, split⟩ := TokenStream.divide_at_start split is_first'
  obtain ⟨mid, behind, rfl, own, -, stops⟩ := TokenStream.divide_at_stop split
  rw [← TokenStream.placeAfter_append .origin front blank] at starts own stops
  rw [← List.append_assoc] at made
  obtain ⟨rest, joined, made'⟩ := pieces_split made
  obtain ⟨rest', rfl, -⟩ := pieces_split made'
  have alone := pieces_of_append made'
  have begins := TokenStream.offset_placeAfter_eq .origin (front ++ blank)
  have ends :=
    TokenStream.offset_placeAfter_eq (TokenStream.placeAfter .origin (front ++ blank)) mid
  generalize TokenStream.placeAfter .origin (front ++ blank) = q at starts own stops begins ends
  refine ⟨String.ofList (mid.flatMap Piece.text), TokenStream.place .origin mid, _, q, ?_,
    starts.symm, tokenize_of_pieces (by rw [String.toList_ofList, alone]), rfl, ?_, ?_⟩
  · rw [String.toList_ofList]
    refine ⟨_, rest', joined, ?_, ?_⟩
    · exact starts.trans (begins.trans (Nat.zero_add _))
    · rw [is_last] at stops
      rw [starts, ← ends, stops]
      rfl
  · have inside := TokenStream.kind_place .origin (mid.flatMap Piece.text)
    rwa [alone] at inside
  · have moved := TokenStream.place_beyond q (p := .origin) ⟨Nat.le_refl 1, Nat.le_refl 1⟩ mid
    rw [Place.beyond_origin] at moved
    rw [← own, moved, Token.significant, Token.significant, List.filter_map]
    rfl

end Scriptlet
