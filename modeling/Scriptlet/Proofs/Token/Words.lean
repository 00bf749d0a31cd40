import Scriptlet.Proofs.Token.Appending
import Scriptlet.Proofs.Token.Reserved

/-!
# Words

A word is a token that is spelled like a name: an identifier, or a token with a reserved spelling,
even if that stands for an operator.  Its first character tells it from all other tokens
(`word_iff_of_scan`).

A text that ends in a word can be changed by putting a longer name in place of the word.  The
pieces in front of the word do not change, since all that happens is that text is put behind the
word (`pieces_respelled`).  The new token stands where the word did (`Token.respelled`).
-/

namespace Scriptlet

open Scan

/-! ## Names -/

/-- A text that could be a name. -/
def NameShaped (text : List Char) : Prop :=
  ∃ c cs, text = c :: cs ∧ isNameStart c = true ∧ ∀ d ∈ cs, isNamePart d = true

/-- The kind of token that a name makes. -/
def nameKind (spelling : String) : Kind := (Keyword.find? spelling).getD .identifier

/-- A token with the spelling of a name. -/
def Token.IsWord (t : Token) : Prop := t.kind = .identifier ∨ Keyword.isReserved t.lexeme = true

instance (t : Token) : Decidable t.IsWord := inferInstanceAs (Decidable (_ ∨ _))

/-- The token that a name makes at the place of another token. -/
def Token.respelled (t : Token) (spelling : String) : Token where
  kind := nameKind spelling
  lexeme := spelling
  literal := TokenStream.literal? (nameKind spelling) spelling.toList
  span := ⟨t.span.start, t.span.start + spelling.utf8ByteSize⟩
  line := t.line
  column := t.column

namespace Scan

theorem isNameStart_of_space {c : Char} (blank : isSpace c = true) : isNameStart c = false := by
  rcases isSpace_cases blank with rfl | rfl | rfl | rfl <;> rfl

theorem isNameStart_of_digit {c : Char} (digit : c.isDigit = true) : isNameStart c = false := by
  refine Bool.eq_false_iff.mpr fun starts => ?_
  change (decide (c.val ≥ 48) && decide (c.val ≤ 57)) = true at digit
  change (decide (c.val ≥ 65 ∧ c.val ≤ 90) ||
    decide (c.val ≥ 97) && decide (c.val ≤ 122) || c == '_') = true at starts
  simp only [Bool.or_eq_true, Bool.and_eq_true, decide_eq_true_eq, beq_iff_eq,
    UInt32.le_iff_toNat_le, ge_iff_le] at digit starts
  change 48 ≤ c.val.toNat ∧ c.val.toNat ≤ 57 at digit
  rcases starts with (upper | lower) | rfl
  · change 65 ≤ c.val.toNat ∧ c.val.toNat ≤ 90 at upper
    omega
  · change 97 ≤ c.val.toNat ∧ c.val.toNat ≤ 122 at lower
    omega
  · exact absurd digit (by decide)

theorem scan_of_isNameStart {c : Char} (starts : isNameStart c = true) (text : List Char) :
    scan c text = some (name c text) := by
  have visible : ¬ isSpace c = true := fun blank =>
    Bool.false_ne_true ((isNameStart_of_space blank).symm.trans starts)
  have no_digit : ¬ c.isDigit = true := fun digit =>
    Bool.false_ne_true ((isNameStart_of_digit digit).symm.trans starts)
  rw [scan, if_neg visible, if_neg no_digit, if_pos starts]

/-- A name is read up to the first character that does not belong to it. -/
theorem scan_name {c : Char} {body rest : List Char} (starts : isNameStart c = true)
    (inside : ∀ d ∈ body, isNamePart d = true) (stops : ∀ d ∈ rest.head?, isNamePart d = false) :
    scan c (body ++ rest) =
      some (.between (some (nameKind (String.ofList (c :: body)))) body rest) := by
  have run (kind : Option Kind) :
      Cut.run kind isNamePart (body ++ rest) = .between kind body rest :=
    run_eq_between kind inside stops
  have taken : (body ++ rest).takeWhile isNamePart = body := congrArg Cut.body (run none)
  rw [scan_of_isNameStart starts, name, taken, run]
  rfl

end Scan

/-- Reserved spellings start like names. -/
theorem Keyword.starts_of_isReserved {c : Char} {cs : List Char}
    (reserved : isReserved (String.ofList (c :: cs)) = true) : isNameStart c = true := by
  have all : ∀ entry ∈ table, entry.1.toList.head?.all isNameStart = true := by decide
  obtain ⟨kind, found⟩ := Option.isSome_iff_exists.mp reserved
  have starts := all _ (mem_table_of_find? found)
  rw [String.toList_ofList] at starts
  exact starts

theorem Keyword.mem_table_iff {spelling : String} :
    spelling ∈ table.map Prod.fst ↔ isReserved spelling = true := by
  rw [isReserved, find?, List.lookup_isSome_iff, List.mem_map]
  simp only [beq_iff_eq, eq_comm (a := spelling)]

/-- The first character of a token says whether it is a word. -/
theorem word_iff_of_scan {c : Char} {body rest : List Char} {kind : Kind}
    (found : scan c (body ++ rest) = some (.between (some kind) body rest)) (p : Place) :
    (TokenStream.token kind p (c :: body)).IsWord ↔ isNameStart c = true := by
  constructor
  · rintro (is_identifier | reserved)
    · exact (name_of_identifier found (congrArg some is_identifier)).1
    · exact Keyword.starts_of_isReserved reserved
  · intro starts
    have same := Option.some.inj (found.symm.trans (scan_of_isNameStart starts _))
    have named : kind = nameKind (String.ofList (c :: (name c (body ++ rest)).body)) :=
      Option.some.inj (congrArg Cut.kind same)
    rw [← same] at named
    change kind = (Keyword.find? (String.ofList (c :: body))).getD .identifier at named
    cases reserved : Keyword.find? (String.ofList (c :: body)) with
    | none =>
      rw [reserved] at named
      exact .inl named
    | some k => exact .inr (Option.isSome_iff_exists.mpr ⟨k, reserved⟩)

/-! ## The last piece of a text -/

/-- The last token of a text is a word, and ends where the text does. -/
structure EndsInWord (text : String) (us : List Token) (w : Token) : Prop where
  /-- The tokens of the text. -/
  read : ∃ stop, tokenize text = .ok (us ++ [w, stop])
  /-- The last one is a word. -/
  is_word : w.IsWord
  /-- There is nothing behind it. -/
  at_end : w.span.stop = text.utf8ByteSize

/-- A token that ends where the text does is its last piece. -/
theorem exists_last_piece {text : String} {us : List Token} {w stop : Token}
    (read : tokenize text = .ok (us ++ [w, stop])) (at_end : w.span.stop = text.utf8ByteSize) :
    ∃ ps kind c body, pieces text.toList = (ps ++ [⟨some kind, c :: body⟩], []) ∧
      us = TokenStream.place .origin ps ∧
      w = TokenStream.token kind (TokenStream.placeAfter .origin ps) (c :: body) ∧
      scan c (body ++ []) = some (.between (some kind) body []) := by
  have read : tokenize text = .ok ((us ++ [w]) ++ [stop]) := by simpa using read
  obtain ⟨placed, ended⟩ := pieces_of_tokenize read
  obtain ⟨ps, kind, chars, behind, split, rfl, rfl, -⟩ := TokenStream.place_eq_append placed.symm
  obtain ⟨rest, same, further⟩ := pieces_split split
  obtain ⟨c, _, body, rest, rfl, made, found, others⟩ := pieces_eq_cons further
  cases made
  -- The text is no longer than its pieces up to the token.
  have none_ : Place.bytes rest = 0 := by
    have whole := congrArg Place.bytes same
    rw [Place.bytes_toList, ← at_end, TokenStream.stop_span_token,
      TokenStream.offset_placeAfter_eq, ← List.cons_append, Place.bytes_append,
      Place.bytes_append] at whole
    simp only [Place.origin] at whole
    omega
  obtain rfl : rest = [] := by
    by_contra some_
    exact absurd none_ (Nat.pos_iff_ne_zero.mp (Place.bytes_pos some_))
  rw [pieces] at others
  obtain rfl : [] = behind := others
  exact ⟨ps, kind, c, body, Prod.ext split ended, rfl, rfl, found⟩

theorem EndsInWord.exists_front {text : String} {us : List Token} {w : Token}
    (ends : EndsInWord text us w) : ∃ front, text = front ++ w.lexeme := by
  obtain ⟨⟨stop, read⟩, -, at_end⟩ := ends
  obtain ⟨ps, kind, c, body, read_pieces, -, rfl, -⟩ := exists_last_piece read at_end
  have joined := join_pieces text.toList
  rw [read_pieces] at joined
  refine ⟨String.ofList (ps.flatMap Piece.text), String.toList_inj.mp ?_⟩
  rw [String.toList_append, String.toList_ofList, TokenStream.toList_lexeme_token, ← joined]
  simp

/-! ## Longer names in place of a word -/

namespace TokenStream

theorem token_respelled (kind : Kind) (p : Place) (text chars : List Char) :
    token (nameKind (String.ofList chars)) p chars =
      (token kind p text).respelled (String.ofList chars) := by
  have width := Place.bytes_toList (String.ofList chars)
  rw [String.toList_ofList] at width
  simp only [token, Token.respelled, Place.spanTo, Place.offset_advance, String.toList_ofList,
    width]

theorem content_place (p q : Place) (ps : List Piece) :
    (place p ps).map Token.content = (place q ps).map Token.content := by
  induction ps generalizing p q with
  | nil => rfl
  | cons piece ps ih =>
    rw [place, place]
    cases piece.kind with
    | none => exact ih _ _
    | some kind => exact congrArg (_ :: ·) (ih _ _)

end TokenStream

theorem NameShaped.append {name tail : List Char} (is_name : NameShaped name)
    (inside : ∀ d ∈ tail, isNamePart d = true) : NameShaped (name ++ tail) := by
  obtain ⟨c, cs, rfl, starts, all⟩ := is_name
  exact ⟨c, cs ++ tail, rfl, starts, List.forall_mem_append.mpr ⟨all, inside⟩⟩

/-- A name in place of the last piece, which it starts with, is read as one piece if the text
behind it does not go on with it.  What comes before and behind does not change. -/
theorem pieces_respelled {text name rest : List Char} {ps : List Piece} {last : Piece}
    (read : pieces text = (ps ++ [last], [])) (is_name : NameShaped name)
    (longer : last.text <+: name) (stops : ∀ d ∈ rest.head?, isNamePart d = false) :
    pieces (ps.flatMap Piece.text ++ (name ++ rest)) =
      (ps ++ ⟨some (nameKind (String.ofList name)), name⟩ :: (pieces rest).1,
        (pieces rest).2) := by
  obtain ⟨more, rfl⟩ := longer
  obtain ⟨c, cs, spelled, starts, inside⟩ := is_name
  have joined : text = ps.flatMap Piece.text ++ last.text := by
    have joined := join_pieces text
    rw [read] at joined
    simpa using joined.symm
  have no_point (is_point : last.text = ['.']) : ∀ d ∈ (more ++ rest).head?, d.isDigit = false := by
    rw [is_point] at spelled
    cases spelled
    cases starts
  have appended := pieces_append (congrArg Prod.fst read) (congrArg Prod.snd read) no_point
  have reread := pieces_cons (scan_name starts inside stops)
  rw [← List.cons_append, ← spelled, List.append_assoc] at reread
  rw [joined, List.append_assoc, reread] at appended
  rw [List.append_assoc, appended]

/-- With a longer name in place of its last word, and more text behind that, a text is read as
before, except for the token of the word.  The text behind is read as it is alone. -/
theorem EndsInWord.respelled {front name rest : String} {us vs : List Token} {w stop : Token}
    (ends : EndsInWord (front ++ w.lexeme) us w) (is_name : NameShaped name.toList)
    (longer : w.lexeme.toList <+: name.toList)
    (stops : ∀ d ∈ rest.toList.head?, isNamePart d = false)
    (read : tokenize rest = .ok (vs ++ [stop])) :
    ∃ vs' stop', vs'.map Token.content = vs.map Token.content ∧
      tokenize (front ++ (name ++ rest)) = .ok (us ++ w.respelled name :: (vs' ++ [stop'])) := by
  obtain ⟨⟨_, read_word⟩, -, at_end⟩ := ends
  obtain ⟨ps, kind, c, body, read_pieces, rfl, same, -⟩ := exists_last_piece read_word at_end
  obtain ⟨rfl, ended⟩ := pieces_of_tokenize read
  have spelled : w.lexeme.toList = c :: body := by
    rw [same]
    exact TokenStream.toList_lexeme_token ..
  have in_front : front.toList = ps.flatMap Piece.text := by
    have joined := join_pieces (front ++ w.lexeme).toList
    rw [read_pieces, String.toList_append, spelled] at joined
    have joined : ps.flatMap Piece.text ++ (c :: body) = front.toList ++ (c :: body) := by
      simpa using joined
    exact (List.append_cancel_right joined).symm
  have respelled : TokenStream.token (nameKind name) (TokenStream.placeAfter .origin ps)
      name.toList = w.respelled name := by
    have made := TokenStream.token_respelled kind (TokenStream.placeAfter .origin ps) (c :: body)
      name.toList
    rwa [String.ofList_toList, ← same] at made
  have read' := pieces_respelled read_pieces is_name (spelled ▸ longer) stops
  rw [ended, String.ofList_toList, ← in_front, ← String.toList_append,
    ← String.toList_append] at read'
  have read_line := tokenize_of_pieces read'
  rw [TokenStream.place_append, TokenStream.place] at read_line
  dsimp only at read_line
  rw [respelled, List.append_assoc, List.cons_append] at read_line
  exact ⟨_, _, TokenStream.content_place _ _ _, read_line⟩

theorem EndsInWord.respelled_alone {front name : String} {us : List Token} {w : Token}
    (ends : EndsInWord (front ++ w.lexeme) us w) (is_name : NameShaped name.toList)
    (longer : w.lexeme.toList <+: name.toList) :
    ∃ stop, tokenize (front ++ name) = .ok (us ++ [w.respelled name, stop]) := by
  have empty : tokenize "" = .ok ([] ++ [TokenStream.endToken .origin]) := by
    with_unfolding_all rfl
  obtain ⟨vs, stop, nothing, read⟩ := ends.respelled is_name longer (by simp) empty
  obtain rfl := List.map_eq_nil_iff.mp nothing
  exact ⟨stop, by simpa using read⟩

end Scriptlet
