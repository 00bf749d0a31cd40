import Scriptlet.Token.Quoted
import Scriptlet.Proofs.Token.Appending
import Scriptlet.Proofs.Token.Quoted

/-!
# Two scans for the closing quote

The scan with a flag and decoding find the same closing quote.  Both pass over a text that is read
in steps (`Quoted.Steps`), and any text is such a text with nothing behind it, or a backslash alone,
or a quote (`Quoted.exists_steps`).  So there are three forms to compare the two on.

Each string of a stream is of one of them, and only the one with a quote is closed
(`closing_quotes_agree`).
-/

namespace Scriptlet

open Place (bytes bytes_append)

namespace Quoted

/-! ## Texts in steps -/

/-- A text is read in steps up to a quote, or to its end with a backslash alone there or not. -/
theorem exists_steps (text : List Char) :
    ∃ inner value, Steps inner value ∧
      ((∃ rest, text = inner ++ '"' :: rest) ∨
        ∃ lone, (lone = [] ∨ lone = ['\\']) ∧ text = inner ++ lone) := by
  fun_induction unread text with
  | case1 => exact ⟨[], [], .nil, .inr ⟨[], .inl rfl, rfl⟩⟩
  | case2 c cs ih =>
    obtain ⟨inner, value, steps, ⟨rest, rfl⟩ | ⟨lone, short, rfl⟩⟩ := ih
    · exact ⟨_, _, .pair c steps, .inl ⟨rest, rfl⟩⟩
    · exact ⟨_, _, .pair c steps, .inr ⟨lone, short, rfl⟩⟩
  | case3 cs => exact ⟨[], [], .nil, .inl ⟨cs, rfl⟩⟩
  | case4 c cs no_pair no_quote ih =>
    by_cases escape : c = '\\'
    · -- A backslash that makes no pair is the last character.
      subst escape
      obtain rfl : cs = [] := by cases cs <;> simp_all
      exact ⟨[], [], .nil, .inr ⟨['\\'], .inr rfl, rfl⟩⟩
    · obtain ⟨inner, value, steps, ⟨rest, rfl⟩ | ⟨lone, short, rfl⟩⟩ := ih
      · exact ⟨_, _, .plain escape no_quote steps, .inl ⟨rest, rfl⟩⟩
      · exact ⟨_, _, .plain escape no_quote steps, .inr ⟨lone, short, rfl⟩⟩

theorem unread_plain {c : Char} (no_escape : c ≠ '\\') (no_quote : c ≠ '"') (cs : List Char) :
    unread (c :: cs) = unread cs := by
  rw [unread, if_neg no_quote]
  exact fun _ _ same _ => no_escape same

namespace Steps

variable {inner value : List Char} (steps : Steps inner value)
include steps

/-! ## What passes over the steps -/

theorem closing?_append (at_ : Nat) (rest : List Char) :
    closing? false at_ (inner ++ rest) = closing? false (at_ + bytes inner) rest := by
  induction steps generalizing at_ with
  | nil => rfl
  | @pair c cs _ _ ih =>
    have two : bytes ('\\' :: c :: cs) = '\\'.utf8Size + (c.utf8Size + bytes cs) := rfl
    rw [two, ← Nat.add_assoc, ← Nat.add_assoc, ← ih]
    simp [closing?]
  | @plain c cs _ no_escape no_quote _ ih =>
    have one : bytes (c :: cs) = c.utf8Size + bytes cs := rfl
    rw [one, ← Nat.add_assoc, ← ih]
    simp [closing?, no_escape, no_quote]

theorem split_append (rest : List Char) :
    split (inner ++ rest) = (inner ++ (split rest).1, (split rest).2) := by
  induction steps with
  | nil => rfl
  | @pair c cs _ _ ih => simp [split, ih]
  | @plain c cs _ no_escape no_quote _ ih => simp [split_cons no_escape no_quote, ih]

theorem decodeBody_append (rest : List Char) :
    decodeBody (inner ++ rest) = (value ++ (decodeBody rest).1, (decodeBody rest).2) := by
  induction steps with
  | nil => rfl
  | @pair c cs _ _ ih => simp [decodeBody, ih]
  | @plain c cs _ no_escape no_quote _ ih => simp [decodeBody_plain no_escape no_quote, ih]

theorem unread_append (rest : List Char) : unread (inner ++ rest) = unread rest := by
  induction steps with
  | nil => rfl
  | @pair c cs _ _ ih => simp [unread, ih]
  | @plain c cs _ no_escape no_quote _ ih => simp [unread_plain no_escape no_quote, ih]

end Steps

/-! ## The two scans -/

/-- The outcome of both scans on a literal and the text behind it. -/
inductive Agreed (body rest value : List Char) : Bool → Prop
  /-- Both stop at the last character of the literal, which is a quote. -/
  | closed {inner : List Char} : body = inner ++ ['"'] → Steps inner value →
    closing? false 0 (body ++ rest) = some (bytes body) → Agreed body rest value false
  /-- None finds a quote, and nothing is behind the literal.  A backslash alone at its end is
  kept. -/
  | unclosed {inner lone short : List Char} : body = inner ++ lone → value = short ++ lone →
    Steps inner short → (lone = [] ∨ lone = ['\\']) → rest = [] →
    closing? false 0 (body ++ rest) = none → Agreed body rest value true

theorem Agreed.closed_iff {body rest value : List Char} {unterminated : Bool}
    (agreed : Agreed body rest value unterminated) :
    unterminated = false ↔ closing? false 0 (body ++ rest) = some (bytes body) := by
  cases agreed with
  | closed _ _ found => simp [found]
  | unclosed _ _ _ _ _ none_ => simp [none_]

theorem Agreed.unclosed_iff {body rest value : List Char} {unterminated : Bool}
    (agreed : Agreed body rest value unterminated) :
    unterminated = true ↔ closing? false 0 (body ++ rest) = none := by
  cases agreed with
  | closed _ _ found => simp [found]
  | unclosed _ _ _ _ _ none_ => simp [none_]

/-- The scan for the end of a literal takes what the scan with a flag takes, and decoding reads all
of that. -/
theorem agreed_split (text : List Char) :
    Agreed (split text).1 (split text).2 (decodeBody (split text).1).1
        (decodeBody (split text).1).2 ∧
      unread (split text).1 = [] := by
  obtain ⟨inner, value, steps, ⟨rest, rfl⟩ | ⟨lone, short, rfl⟩⟩ := exists_steps text
  · have taken : split (inner ++ '"' :: rest) = (inner ++ ['"'], rest) := steps.split_append _
    have decoded : decodeBody (inner ++ ['"']) = (value, false) := by
      rw [steps.decodeBody_append]
      simp [decodeBody]
    rw [taken, decoded]
    refine ⟨.closed rfl steps ?_, steps.unread_append _⟩
    rw [List.append_assoc, steps.closing?_append, bytes_append, Nat.zero_add]
    rfl
  · have taken : split (inner ++ lone) = (inner ++ lone, []) := by
      obtain rfl | rfl := short <;> exact steps.split_append _
    have decoded : decodeBody (inner ++ lone) = (value ++ lone, true) := by
      obtain rfl | rfl := short <;> exact steps.decodeBody_append _
    rw [taken, decoded]
    refine ⟨.unclosed rfl rfl steps short rfl ?_, ?_⟩
    · obtain rfl | rfl := short <;> rw [List.append_nil, steps.closing?_append] <;> rfl
    · obtain rfl | rfl := short <;> exact steps.unread_append _

end Quoted

/-! ## Strings of a stream -/

/-- A string of a stream starts with a quote.  The scan with a flag and decoding agree on the text
behind that. -/
theorem agreed_of_scan {c : Char} {body rest : List Char}
    (found : scan c (body ++ rest) = some (.between (some .string) body rest)) :
    Quoted.Agreed body rest (Quoted.decodeBody body).1 (Quoted.decodeBody body).2 ∧
      Quoted.unread body = [] := by
  obtain ⟨-, other⟩ | ⟨-, same⟩ | ⟨-, other⟩ := Scan.class_of_scan found
  · cases congrArg Cut.kind other
  · have taken : body = (Quoted.split (body ++ rest)).1 := congrArg Cut.body same
    have left : rest = (Quoted.split (body ++ rest)).2 := congrArg Cut.rest same
    have agreed := Quoted.agreed_split (body ++ rest)
    rwa [← taken, ← left] at agreed
  · exact absurd rfl other

/-- A stream whose pieces are the whole source ends with the end of the input. -/
theorem exists_end_of_all {source : String} {ps : List Piece}
    (read : (pieces source.toList).1 = ps) (all : source.toList = ps.flatMap Piece.text) :
    ∃ stop, (stream source).last = .ok stop ∧ stop.kind = .eof := by
  have joined := join_pieces source.toList
  rw [read, ← all, List.append_right_eq_self] at joined
  refine ⟨TokenStream.endToken (TokenStream.placeAfter .origin (pieces source.toList).1), ?_, rfl⟩
  show TokenStream.ending _ (pieces source.toList).2 = _
  rw [joined]
  rfl

/-- Tokens of which all but the last are closed have at most one open string. -/
theorem length_open_le_one {ts : List Token}
    (closed : ts.Pairwise fun t _ => t.isUnterminated = false) :
    (ts.filter Token.isUnterminated).length ≤ 1 := by
  induction closed with
  | nil => exact Nat.zero_le 1
  | @cons t ts closed _ ih =>
    by_cases open_ : t.isUnterminated = true
    · obtain rfl : ts = [] := by
        cases ts with
        | nil => rfl
        | cons u us => exact absurd (open_.symm.trans (closed u (.head _))) nofun
      exact List.length_filter_le _ [t]
    · rwa [List.filter_cons_of_neg open_]

/-- Each string of a stream is as long as the scan with a flag says, and decoding reads it whole.
It counts as closed just if that scan finds a quote, which is its last character then, and all
characters in front of it are part of the value.  A string that is not closed goes on to the end of
the source, so it is the only one, with only the end of the input behind it. -/
theorem closing_quotes_agree (source : String) :
    (∀ before t after, (stream source).tokens = before ++ t :: after → t.kind = .string →
      ∃ front body rest value unterminated,
        source.toList = front ++ '"' :: (body ++ rest) ∧ t.span.start = bytes front ∧
        t.lexeme.toList = '"' :: body ∧
        Quoted.decode t.lexeme.toList = (value, unterminated) ∧
        t.literal = some (.string (String.ofList value) unterminated) ∧
        Quoted.unread body = [] ∧
        Quoted.Agreed body rest value unterminated ∧
        (unterminated = false ↔ Quoted.closing? false 0 (body ++ rest) = some (bytes body)) ∧
        (unterminated = true ↔ Quoted.closing? false 0 (body ++ rest) = none) ∧
        (unterminated = true → rest = [] ∧ after = [] ∧
          ∃ stop, (stream source).last = .ok stop ∧ stop.kind = .eof)) ∧
    ((stream source).tokens.filter Token.isUnterminated).length ≤ 1 := by
  refine ⟨fun before t after among is_string => ?_, ?_⟩
  · obtain ⟨front, kind, lexeme, behind, split, -, rfl, placed⟩ :=
      TokenStream.place_eq_append among
    obtain rfl : kind = .string := is_string
    obtain ⟨text, cut, read⟩ := pieces_split split
    obtain ⟨c, kind, body, rest, rfl, same, found, further⟩ := pieces_eq_cons read
    obtain ⟨rfl, rfl⟩ := Piece.mk.inj same
    obtain ⟨rfl, to_end⟩ := TokenStream.string_of_scan found
    obtain ⟨agreed, all⟩ := agreed_of_scan found
    refine ⟨_, body, rest, _, _, cut, ?_, TokenStream.toList_lexeme_token .., ?_, rfl, all, agreed,
      agreed.closed_iff, agreed.unclosed_iff, fun open_ => ?_⟩
    · exact (TokenStream.offset_placeAfter_eq .origin front).trans (Nat.zero_add _)
    · rw [TokenStream.toList_lexeme_token]
      rfl
    · obtain rfl := to_end open_
      rw [pieces] at further
      obtain rfl : [] = behind := further
      obtain ⟨stop, ended⟩ := exists_end_of_all split (by simpa using cut)
      exact ⟨rfl, placed.symm, stop, ended⟩
  · exact length_open_le_one (TokenStream.pairwise_closed_place .origin source.toList)

end Scriptlet
