import Scriptlet.Token.Tiling
import Scriptlet.Proofs.Token.Appending

/-!
# Lines and columns are exact

The place that the scanner has come to is the place after the text that it has read
(`Place.advance_origin`), since a step over a character counts what the character adds.  The pieces
that it has read join to that text, comments and white space included.  So every item of a stream
has the place after the text in front of it (`counters_are_exact`).
-/

namespace Scriptlet

/-! ## Places after texts -/

namespace Place

/-- A step over a character counts it. -/
theorem step_after (text : List Char) (c : Char) :
    (after text).step c = after (text ++ [c]) := by
  have wider : bytes (text ++ [c]) = bytes text + c.utf8Size := bytes_append text [c]
  unfold step
  split
  next newline =>
    subst newline
    simp [after, wider]
  next other => simp [after, wider, other]

/-- Reading a text from the start leads to the place after it. -/
theorem advance_origin (text : List Char) : origin.advance text = after text := by
  induction text using List.reverseRecOn with
  | nil => rfl
  | append_singleton text c ih => rw [advance_append, ih, ← step_after, advance_cons, advance_nil]

end Place

/-! ## Pieces -/

namespace TokenStream

theorem placeAfter_origin (ps : List Piece) :
    placeAfter .origin ps = .after (ps.flatMap Piece.text) :=
  (placeAfter_eq_advance .origin ps).trans (Place.advance_origin _)

/-- A token has the place after the text in front of it. -/
theorem place_of_mem_place {text : List Char} {t : Token}
    (inside : t ∈ place .origin (pieces text).1) :
    ∃ before after, text = before ++ (t.lexeme.toList ++ after) ∧ t.place = .after before := by
  obtain ⟨ts, us, placed⟩ := List.append_of_mem inside
  obtain ⟨front, kind, lexeme, behind, split, -, rfl, -⟩ := place_eq_append placed
  have joined := join_pieces text
  rw [split, List.flatMap_append, List.flatMap_cons] at joined
  refine ⟨front.flatMap Piece.text, behind.flatMap Piece.text ++ (pieces text).2, ?_, ?_⟩
  · rw [toList_lexeme_token]
    simpa only [List.append_assoc] using joined.symm
  · exact placeAfter_origin front

end TokenStream

/-! ## Streams -/

/-- The end of the input is at the place after the whole text. -/
theorem place_of_stream_end {source : String} {t : Token} (ended : (stream source).last = .ok t) :
    t.place = .after source.toList := by
  have joined := join_pieces source.toList
  change TokenStream.ending _ (pieces source.toList).2 = _ at ended
  cases left : (pieces source.toList).2 with
  | cons c rest =>
    rw [left] at ended
    cases ended
  | nil =>
    rw [left] at ended joined
    cases ended
    have read := TokenStream.placeAfter_origin (pieces source.toList).1
    rwa [← List.append_nil (List.flatMap Piece.text _), joined] at read

/-- A lexical error is at the place after the text in front of its character. -/
theorem place_of_stream_error {source : String} {e : LexError}
    (stopped : (stream source).last = .error e) :
    ∃ before after, source.toList = before ++ e.character :: after ∧ e.place = .after before := by
  have joined := join_pieces source.toList
  change TokenStream.ending _ (pieces source.toList).2 = _ at stopped
  cases left : (pieces source.toList).2 with
  | nil =>
    rw [left] at stopped
    cases stopped
  | cons c rest =>
    rw [left] at stopped joined
    cases stopped
    exact ⟨_, rest, joined.symm, TokenStream.placeAfter_origin _⟩

/-- Each item of a stream starts at the place after the text in front of it.  This holds of tokens,
white space included, of the end of the input, which is after the whole text, and of a character
that starts no token. -/
theorem counters_are_exact (source : String) :
    (∀ t ∈ (stream source).tokens, ∃ before after,
      source.toList = before ++ (t.lexeme.toList ++ after) ∧ t.place = .after before) ∧
    match (stream source).last with
    | .ok t => t.place = .after source.toList
    | .error e => ∃ before after,
        source.toList = before ++ e.character :: after ∧ e.place = .after before := by
  refine ⟨fun t inside => TokenStream.place_of_mem_place inside, ?_⟩
  cases last : (stream source).last with
  | ok t => exact place_of_stream_end last
  | error e => exact place_of_stream_error last

end Scriptlet
