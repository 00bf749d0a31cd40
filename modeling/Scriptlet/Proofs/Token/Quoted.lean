import Scriptlet.Proofs.Token.Spacing

/-!
# The values of string literals

A literal can have a text for its value just if that is *writable*: every backslash in it, read
from the left with the character after it, has such a character, and that is none that makes an
escape.  For the texts that are, there is a literal that writes the quotes, newlines and tabs that
are not behind a backslash as escapes and everything else as it is (`written_strings_iff`).

Decoding walks a literal in steps, a backslash with its character or one other character.  A step
gives what is writable in front of what is writable (`isWritable_decodeBody`).  Encoding walks a
writable text in the same steps, and each is undone by one step of decoding
(`decodeBody_encodeBody`) and passed over by one step of the scan for the closing quote
(`split_encodeBody`).
-/

namespace Scriptlet

namespace Quoted

/-! ## What decoding gives -/

theorem isWritable_cons {c : Char} (no_escape : c ≠ '\\') (cs : List Char) :
    isWritable (c :: cs) = isWritable cs := by
  rw [isWritable, decide_eq_true no_escape, Bool.true_and]
  exact fun _ _ same _ => no_escape same

theorem isWritable_escaped (c : Char) (cs : List Char) :
    isWritable (escaped c ++ cs) = isWritable cs := by
  unfold escaped
  split
  · exact isWritable_cons (by decide) cs
  split
  · exact isWritable_cons (by decide) cs
  split
  · exact isWritable_cons (by decide) cs
  next no_quote no_newline no_tab =>
    simp [isWritable, no_quote, no_newline, no_tab]

/-- The value of a literal that is closed is writable. -/
theorem isWritable_decodeBody (cs : List Char) (closed : (decodeBody cs).2 = false) :
    isWritable (decodeBody cs).1 = true := by
  fun_induction decodeBody cs with
  | case1 => cases closed
  | case2 c cs tail ih => rw [isWritable_escaped, ih closed]
  | case3 => rfl
  | case4 c cs no_pair no_quote tail ih =>
    by_cases escape : c = '\\'
    · -- A backslash without a character after it ends the text, which is not closed then.
      subst escape
      obtain rfl : cs = [] := by cases cs <;> simp_all
      cases closed
    · rw [isWritable_cons escape, ih closed]

theorem decode_eq (cs : List Char) : ∃ body, decode cs = decodeBody body := by
  unfold decode
  split
  · exact ⟨_, rfl⟩
  · exact ⟨_, rfl⟩

/-! ## What encoding undoes -/

theorem decodeBody_plain {c : Char} (no_escape : c ≠ '\\') (no_quote : c ≠ '"') (cs : List Char) :
    decodeBody (c :: cs) = (c :: (decodeBody cs).1, (decodeBody cs).2) := by
  rw [decodeBody, if_neg no_quote]
  exact fun _ _ same _ => no_escape same

/-- One character is written so that it is one step to decode and to split. -/
theorem encodeChar_append {c : Char} (no_escape : c ≠ '\\') (cs : List Char) :
    decodeBody (encodeChar c ++ cs) = (c :: (decodeBody cs).1, (decodeBody cs).2) ∧
      split (encodeChar c ++ cs) = (encodeChar c ++ (split cs).1, (split cs).2) := by
  unfold encodeChar
  split
  next quote => exact ⟨by rw [quote]; rfl, rfl⟩
  split
  next newline => exact ⟨by rw [newline]; rfl, rfl⟩
  split
  next tab => exact ⟨by rw [tab]; rfl, rfl⟩
  next no_quote _ _ =>
    exact ⟨decodeBody_plain no_escape no_quote cs, split_cons no_escape no_quote cs⟩

theorem decodeBody_encodeBody (cs : List Char) (writable : isWritable cs = true) :
    decodeBody (encodeBody cs ++ ['"']) = (cs, false) := by
  fun_induction encodeBody cs with
  | case1 => rfl
  | case2 c cs ih =>
    simp only [isWritable, Bool.and_eq_true, decide_eq_true_eq] at writable
    obtain ⟨⟨⟨no_quote, no_newline⟩, no_tab⟩, writable⟩ := writable
    simp [decodeBody, escaped, no_quote, no_newline, no_tab, ih writable]
  | case3 c cs no_pair ih =>
    rw [isWritable, Bool.and_eq_true, decide_eq_true_eq] at writable
    · rw [List.append_assoc, (encodeChar_append writable.1 _).1, ih writable.2]
    · exact no_pair

theorem split_encodeBody (cs : List Char) (writable : isWritable cs = true) :
    split (encodeBody cs ++ ['"']) = (encodeBody cs ++ ['"'], []) := by
  fun_induction encodeBody cs with
  | case1 => rfl
  | case2 c cs ih =>
    simp only [isWritable, Bool.and_eq_true] at writable
    simp [split, ih writable.2]
  | case3 c cs no_pair ih =>
    rw [isWritable, Bool.and_eq_true, decide_eq_true_eq] at writable
    · rw [List.append_assoc, (encodeChar_append writable.1 _).2, ih writable.2]
    · exact no_pair

theorem isWritable_of_notMem {cs : List Char} (plain : '\\' ∉ cs) : isWritable cs = true := by
  induction cs with
  | nil => rfl
  | cons c cs ih =>
    obtain ⟨no_escape, behind⟩ := List.ne_and_not_mem_of_not_mem_cons plain
    rw [isWritable_cons no_escape.symm, ih behind]

end Quoted

namespace TokenStream

/-- The literal of a token is what its lexeme stands for. -/
theorem literal_of_mem_place (p : Place) (ps : List Piece) :
    ∀ t ∈ place p ps, t.literal = literal? t.kind t.lexeme.toList := by
  induction ps generalizing p with
  | nil => simp [place]
  | cons piece ps ih =>
    rw [place]
    cases piece.kind with
    | none => exact ih _
    | some kind =>
      refine List.forall_mem_cons.mpr ⟨?_, ih _⟩
      rw [toList_lexeme_token]
      rfl

end TokenStream

/-- A literal is a text that is read as one string with a closing quote and nothing else. -/
def IsLiteral (source value : String) : Prop :=
  ∃ t stop, tokenize source = .ok [t, stop] ∧ t.kind = .string ∧ t.lexeme = source ∧
    t.literal = some (.string value false)

/-- The value of a literal is writable. -/
theorem IsLiteral.isWritable {source value : String} (literal : IsLiteral source value) :
    Quoted.isWritable value.toList = true := by
  obtain ⟨t, stop, read, is_string, -, carried⟩ := literal
  have read : tokenize source = .ok ([t] ++ [stop]) := read
  obtain ⟨made, -⟩ := pieces_of_tokenize read
  have decoded := TokenStream.literal_of_mem_place .origin _ t (made ▸ List.mem_singleton_self t)
  obtain ⟨body, same⟩ := Quoted.decode_eq t.lexeme.toList
  rw [carried, is_string, TokenStream.literal?, same] at decoded
  simp only [Option.some.injEq, Literal.string.injEq] at decoded
  rw [decoded.1, String.toList_ofList]
  exact Quoted.isWritable_decodeBody body decoded.2.symm

/-- A writable text is encoded as a literal for it. -/
theorem isLiteral_encode {value : String} (writable : Quoted.isWritable value.toList = true) :
    IsLiteral (String.ofList (Quoted.encode value.toList)) value := by
  have split := Quoted.split_encodeBody value.toList writable
  have decoded := Quoted.decodeBody_encodeBody value.toList writable
  rw [Quoted.encode]
  generalize Quoted.encodeBody value.toList ++ ['"'] = body at split decoded
  have found : scan '"' (body ++ []) = some (.between (some .string) body []) := by
    have taken : (Quoted.split (body ++ [])).1 = body := by rw [List.append_nil, split]
    exact congrArg some (Cut.eq_between rfl taken)
  obtain ⟨-, stop, read⟩ := alone_of_scan (by decide) found
  refine ⟨_, stop, read, rfl, rfl, ?_⟩
  show some (Literal.string (String.ofList (Quoted.decodeBody body).1)
    (Quoted.decodeBody body).2) = _
  rw [decoded, String.ofList_toList]

/-- There is a literal for a text just if the text is writable.  The encoded text is one then.  A
text without backslashes is writable. -/
theorem written_strings_iff (value : String) :
    ((∃ source, IsLiteral source value) ↔ Quoted.isWritable value.toList = true) ∧
    (Quoted.isWritable value.toList = true →
      IsLiteral (String.ofList (Quoted.encode value.toList)) value) ∧
    ('\\' ∉ value.toList → Quoted.isWritable value.toList = true) := by
  refine ⟨⟨?_, fun writable => ⟨_, isLiteral_encode writable⟩⟩, isLiteral_encode,
    Quoted.isWritable_of_notMem⟩
  rintro ⟨source, literal⟩
  exact literal.isWritable

/-- A quote behind two backslashes is written as an escape, and a newline behind one is not.  There
is no literal for a backslash in front of a quote. -/
theorem written_strings_iff_backslashes :
    Quoted.isWritable "\\\\\"\\\n".toList = true ∧
      IsLiteral "\"\\\\\\\"\\\n\"" "\\\\\"\\\n" ∧ ¬ ∃ source, IsLiteral source "\\\"" := by
  have writable : Quoted.isWritable "\\\\\"\\\n".toList = true := by decide
  have encoded : String.ofList (Quoted.encode "\\\\\"\\\n".toList) = "\"\\\\\\\"\\\n\"" :=
    String.toList_inj.mp (by rw [String.toList_ofList]; decide)
  refine ⟨writable, encoded ▸ (written_strings_iff _).2.1 writable, ?_⟩
  rw [(written_strings_iff _).1]
  decide

end Scriptlet
