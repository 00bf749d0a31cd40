import Scriptlet.Proofs.Diagnostic.Location

/-!
# What labels cover

A report labels a range of bytes, and the drawing takes it for a range of characters.  So
the label covers what the failure is about just if no character up to its end takes more
than one byte (`label_covers_subject_iff`).  Otherwise it stands too far to the right, and
it may even come to stand outside of the source.

All failures of runs are covered, since their spans cut texts out of the source.
-/

namespace Scriptlet

/-! ## Bytes and characters -/

namespace Place

theorem length_le_bytes (cs : List Char) : cs.length ≤ bytes cs := by
  induction cs with
  | nil => exact Nat.le_refl 0
  | cons c cs ih =>
    have width := c.utf8Size_pos
    rw [List.length_cons, bytes]
    omega

/-- A text takes one byte for each character just if each character takes one. -/
theorem bytes_eq_length_iff {cs : List Char} :
    bytes cs = cs.length ↔ ∀ c ∈ cs, c.utf8Size = 1 := by
  induction cs with
  | nil => simp [bytes]
  | cons c cs ih =>
    have width := c.utf8Size_pos
    have others := length_le_bytes cs
    rw [List.forall_mem_cons, ← ih, List.length_cons, bytes]
    omega

/-- The number of characters in the first bytes of a text. -/
def charactersIn : List Char → Nat → Nat
  | [], _ => 0
  | _ :: _, 0 => 0
  | c :: cs, n + 1 => charactersIn cs (n + 1 - c.utf8Size) + 1

theorem charactersIn_bytes (before after : List Char) :
    charactersIn (before ++ after) (bytes before) = before.length := by
  induction before with
  | nil => cases after <;> rfl
  | cons c before ih =>
    have width := c.utf8Size_pos
    obtain ⟨n, size⟩ : ∃ n, bytes (c :: before) = n + 1 :=
      Nat.exists_eq_add_one_of_ne_zero (by rw [bytes]; omega)
    have left : n + 1 - c.utf8Size = bytes before := by rw [← size, bytes]; omega
    rw [size, List.cons_append, charactersIn, left, ih, List.length_cons]

end Place

/-- The characters that a span of bytes covers. -/
def Span.characters (s : Span) (text : List Char) : Span :=
  ⟨Place.charactersIn text s.start, Place.charactersIn text s.stop⟩

theorem Span.characters_of_cuts {s : Span} {before text after : List Char}
    (start : s.start = Place.bytes before) (stop : s.stop = Place.bytes (before ++ text)) :
    s.characters (before ++ text ++ after) = ⟨before.length, (before ++ text).length⟩ := by
  rw [characters, start, stop, Place.charactersIn_bytes, List.append_assoc,
    Place.charactersIn_bytes]

/-! ## Labels -/

/-- The characters that a failure is about: those of its span, or the last one if the end of
the input was found in place of a token. -/
def Failure.subject (f : Failure) (source : String) : Span :=
  if f.foundEnd then ⟨source.toList.length - 1, source.toList.length⟩
  else f.span.characters source.toList

/-- How the range of a label, taken for a range of characters, lies to the characters of the
source that it is for. -/
structure Label.DrawnFor (range subject : Span) (source : List Char) : Prop where
  /-- There is a character to label. -/
  some_ : subject.start < subject.stop
  within : subject.stop ≤ source.length
  /-- The label may stand too far to the right, but never too far to the left. -/
  start_le : subject.start ≤ range.start
  stop_le : subject.stop ≤ range.stop
  /-- The label is right as long as all characters take one byte. -/
  right_iff : range = subject ↔ ∀ c ∈ source.take subject.stop, c.utf8Size = 1

/-- A label inside the source. -/
theorem Label.drawnFor_inside {before text after : List Char} (some_ : text ≠ []) :
    DrawnFor ⟨Place.bytes before, Place.bytes (before ++ text)⟩
      ⟨before.length, (before ++ text).length⟩ (before ++ text ++ after) where
  some_ := by
    have holds := List.length_pos_iff.mpr some_
    simp only [List.length_append]
    omega
  within := by simp only [List.length_append]; omega
  start_le := Place.length_le_bytes _
  stop_le := Place.length_le_bytes _
  right_iff := by
    rw [List.take_left, ← Place.bytes_eq_length_iff, Span.mk.injEq, and_iff_right_iff_imp]
    intro narrow
    -- Characters that are narrow up to the end of the text are so up to its start.
    exact Place.bytes_eq_length_iff.mpr fun c member =>
      Place.bytes_eq_length_iff.mp narrow c (List.mem_append_left _ member)

/-- A label at the end of the source. -/
theorem Label.drawnFor_end {source : List Char} (some_ : source ≠ []) :
    DrawnFor ⟨Place.bytes source - 1, Place.bytes source⟩
      ⟨source.length - 1, source.length⟩ source where
  some_ := Nat.sub_lt (List.length_pos_iff.mpr some_) Nat.one_pos
  within := Nat.le_refl _
  start_le := Nat.sub_le_sub_right (Place.length_le_bytes source) 1
  stop_le := Place.length_le_bytes source
  right_iff := by
    rw [List.take_length, ← Place.bytes_eq_length_iff, Span.mk.injEq, and_iff_right_iff_imp]
    intro narrow
    rw [narrow]

/-- The label of a failure, taken for a range of characters as it is when it is drawn, is
never before the characters that the failure is about, and it covers just these if and only
if no character of the source up to their end takes more than one byte. -/
theorem label_covers_subject_iff (fuel : Nat) (source : String) (f : Failure)
    (output : Array String) (failed : runSource fuel source = (.failed f, output))
    (some_ : source ≠ "") :
    Label.DrawnFor (f.report source.utf8ByteSize).range (f.subject source) source.toList := by
  have lies := liesIn_of_runSource failed
  have text_some : source.toList ≠ [] := mt String.toList_eq_nil_iff.mp some_
  have size : source.utf8ByteSize = Place.bytes source.toList := (Place.bytes_toList source).symm
  rw [Failure.report, Failure.subject, size]
  by_cases found : f.foundEnd = true
  · rw [Failure.LiesIn, if_pos found, size] at lies
    rw [if_pos found, lies, labelRange, if_pos (Nat.le_refl _)]
    exact Label.drawnFor_end text_some
  · rw [Failure.LiesIn, if_neg found] at lies
    obtain ⟨holds, first, last⟩ := lies
    obtain ⟨text, before, after, same, start, stop⟩ :=
      Span.cuts_of_boundaries (Nat.le_of_lt holds) first last
    rw [← List.append_assoc] at same
    rw [start, ← Place.bytes_append] at stop
    have inside : ¬ Place.bytes source.toList ≤ f.span.start := by have := last.le; omega
    have not_empty : ¬ f.span.isEmpty = true := by simpa [Span.isEmpty] using holds
    have holds_text : text ≠ [] := by
      rintro rfl
      rw [List.append_nil] at stop
      omega
    rw [if_neg found, labelRange, if_neg inside, if_neg not_empty, same,
      Span.characters_of_cuts start stop]
    have range : f.span = ⟨Place.bytes before, Place.bytes (before ++ text)⟩ := by
      rw [← start, ← stop]
    rw [range]
    exact Label.drawnFor_inside holds_text

/-- A number is taken from a string that holds three letters of two bytes each. -/
def accented : String := "\"ééé\" - 1;"

/-- The failure is about the first nine characters, and a label over those would be right. -/
theorem label_covers_subject_iff_accented :
    ∃ (f : Failure) (output : Array String), runSource 100 accented = (.failed f, output) ∧
      accented ≠ "" ∧ f.subject accented = ⟨0, 9⟩ ∧
      Label.DrawnFor (f.report accented.utf8ByteSize).range ⟨0, 9⟩ accented.toList := by
  have fails : (runSource 100 accented).1.failsWith
      (fun f => decide (f.subject accented = ⟨0, 9⟩)) = true := by decide +kernel
  obtain ⟨f, output, outcome, subject⟩ := exists_failed fails
  replace subject := of_decide_eq_true subject
  have some_ : accented ≠ "" := by decide +kernel
  have drawn := label_covers_subject_iff 100 accented f output outcome some_
  exact ⟨f, output, outcome, some_, subject, subject ▸ drawn⟩

/-- The failure is about nine characters of ten.  Its label is said to take twelve, so it ends
outside the source. -/
theorem label_misses_accented :
    ∃ (f : Failure) (output : Array String), runSource 100 accented = (.failed f, output) ∧
      accented ≠ "" ∧ f.subject accented = ⟨0, 9⟩ ∧ accented.toList.length = 10 ∧
      (f.report accented.utf8ByteSize).range = ⟨0, 12⟩ := by
  have fails : (runSource 100 accented).1.failsWith (fun f =>
      decide (f.subject accented = ⟨0, 9⟩ ∧
        (f.report accented.utf8ByteSize).range = ⟨0, 12⟩)) = true := by
    decide +kernel
  obtain ⟨f, output, outcome, facts⟩ := exists_failed fails
  obtain ⟨subject, range⟩ := of_decide_eq_true facts
  exact ⟨f, output, outcome, by decide +kernel, subject, by decide +kernel, range⟩

end Scriptlet
