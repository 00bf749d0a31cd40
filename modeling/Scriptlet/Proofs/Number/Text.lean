import Scriptlet.Number.Decimal
import Scriptlet.Proofs.Heap.Equality
import Scriptlet.Proofs.Number.Natural
import Scriptlet.Proofs.Text.Unique

/-!
# What the text of a number says

Two numbers have the same text just if they are equal, or if both are what is no number
(`Number.text_eq_iff`).

The text of a magnitude gives its units away.  Digits alone are the whole ones.  With a point
among them they are a natural number of units in a decimal place, and the number of places is that
of the digits behind the point.  At fewer than 1074 places the search stops only where that decimal
reads back as the magnitude, and at 1074 places the decimal is exact (`Number.fewest_inj`).

A text of a number has none of the characters that arrays and strings are written with
(`Number.isNumeral_of_mem_chars`).
-/

namespace Scriptlet.Number

variable {m m' : Nat} {x y : Number}

/-! ## Units -/

/-- A finite magnitude is the nearest one to its own units. -/
theorem magnitudeOfUnits_unitsOfMagnitude (finite : m < infinityMagnitude) :
    magnitudeOfUnits (unitsOfMagnitude m) 1 = m := by
  have pos := fractions_pos
  have whole := Nat.div_add_mod m fractions
  have fraction := Nat.mod_lt m pos
  by_cases subnormal : m / fractions = 0
  · -- There is no exponent, and the units are the magnitude itself.
    have small : m < fractions := by
      rw [subnormal] at whole
      omega
    have units : unitsOfMagnitude m = m := by
      simp [unitsOfMagnitude, decode, subnormal, Nat.mod_eq_of_lt small]
    have log : m.log2 ≤ 52 := by
      rcases Nat.eq_zero_or_pos m with rfl | some_
      · decide
      · exact Nat.le_of_lt_succ ((Nat.log2_lt (Nat.ne_of_gt some_)).mpr
          (Nat.lt_trans small (by decide)))
    have one : Nat.log2 1 = 0 := by decide
    have place : placeOfRatio m 1 = 0 := by
      have first : m.log2 - 0 - 53 = 0 := by omega
      simp only [placeOfRatio, one, first, Nat.pow_eq, Nat.pow_zero, Nat.one_mul, Nat.div_one]
      exact if_pos (by omega)
    have rounded : roundHalfEven m 1 = m := by simp [roundHalfEven, Nat.mod_one]
    rw [units, magnitudeOfUnits, place]
    simp only [Nat.zero_mul, Nat.zero_add, Nat.pow_eq, Nat.pow_zero, Nat.mul_one]
    rw [rounded, Nat.min_eq_right (Nat.le_of_lt finite)]
  · obtain ⟨e, exponent⟩ := Nat.exists_eq_succ_of_ne_zero subnormal
    have split : m = e * fractions + (m % fractions + fractions) := by
      rw [exponent, Nat.mul_succ, Nat.mul_comm] at whole
      omega
    have low : fractions ≤ m % fractions + fractions := Nat.le_add_left ..
    have high : m % fractions + fractions < 2 * fractions := by omega
    generalize m % fractions + fractions = q at split low high
    subst split
    rw [unitsOfMagnitude_significand low high, magnitudeOfUnits_significand low high finite]

/-- A finite magnitude is known from its units. -/
theorem unitsOfMagnitude_inj (finite : m < infinityMagnitude) (finite' : m' < infinityMagnitude)
    (same : unitsOfMagnitude m = unitsOfMagnitude m') : m = m' := by
  rw [← magnitudeOfUnits_unitsOfMagnitude finite, same, magnitudeOfUnits_unitsOfMagnitude finite']

/-! ## Digits -/

theorem ofDigitChars_digits (n : Nat) : Nat.ofDigitChars 10 (digits n) 0 = n :=
  Nat.ofDigitChars_ten_toDigits

/-- A natural number is read back from its digits. -/
theorem digits_inj {n n' : Nat} (same : digits n = digits n') : n = n' := by
  rw [← ofDigitChars_digits n, same, ofDigitChars_digits]

theorem isDigit_of_mem_digits {n : Nat} : ∀ c ∈ digits n, c.isDigit = true :=
  fun _ inside => Nat.isDigit_of_mem_toDigits (by decide) (by decide) inside

theorem isDigit_of_mem_paddedDigits {width n : Nat} :
    ∀ c ∈ paddedDigits width n, c.isDigit = true := by
  refine List.forall_mem_append.mpr ⟨fun c inside => ?_, isDigit_of_mem_digits⟩
  rw [List.eq_of_mem_replicate inside]
  rfl

/-- Padding makes up for leading zeros. -/
theorem length_paddedDigits {width n : Nat} (pos : 0 < width) (small : n < 10 ^ width) :
    (paddedDigits width n).length = width := by
  have short : (digits n).length ≤ width :=
    (Nat.length_toDigits_le_iff (by decide) pos).mpr small
  rw [paddedDigits, List.length_append, List.length_replicate]
  omega

/-- Zeros in front do not change what digits denote. -/
theorem ofDigitChars_paddedDigits (width n : Nat) :
    Nat.ofDigitChars 10 (paddedDigits width n) 0 = n := by
  rw [paddedDigits, Nat.ofDigitChars_append, Nat.ofDigitChars_replicate_zero, Nat.mul_zero,
    ofDigitChars_digits]

/-- A decimal says how many places it has and what it is in units of the last one. -/
theorem placed_inj {places places' n n' : Nat} (pos : 0 < places) (pos' : 0 < places')
    (same : placed places n = placed places' n') : places = places' ∧ n = n' := by
  have stops (text : List Char) : ∀ c ∈ ('.' :: text).head?, c.isDigit = false := by
    rintro c ⟨⟩
    rfl
  obtain ⟨front, behind⟩ := Text.append_inj_of_class isDigit_of_mem_digits isDigit_of_mem_digits
    (stops _) (stops _) same
  have padded := (List.cons.inj behind).2
  have small (p k : Nat) : k % Nat.pow 10 p < 10 ^ p := Nat.mod_lt _ (Nat.pow_pos (by decide))
  have lengths := congrArg List.length padded
  rw [length_paddedDigits pos (small _ _), length_paddedDigits pos' (small _ _)] at lengths
  subst lengths
  have remainder := congrArg (Nat.ofDigitChars 10 · 0) padded
  simp only [ofDigitChars_paddedDigits] at remainder
  have quotient := digits_inj front
  refine ⟨rfl, ?_⟩
  rw [← Nat.div_add_mod n (Nat.pow 10 places), quotient, remainder, Nat.div_add_mod]

/-! ## The fewest places -/

/-- The search for a place goes on for some places.  It stops where there is a number, or at the
last one. -/
theorem firstPlace_cases (found? : Nat → Option Nat) (last : Nat → Nat) (left places : Nat) :
    places ≤ (firstPlace found? last left places).1 ∧
      (found? (firstPlace found? last left places).1 = some (firstPlace found? last left places).2 ∧
          (firstPlace found? last left places).1 < places + left ∨
        firstPlace found? last left places = (places + left, last (places + left))) := by
  induction left generalizing places with
  | zero => exact ⟨Nat.le_refl _, .inr rfl⟩
  | succ left ih =>
    rw [firstPlace]
    cases found : found? places with
    | some n => exact ⟨Nat.le_refl _, .inl ⟨found, by simp⟩⟩
    | none =>
      obtain ⟨more, stops⟩ := ih (places + 1)
      rw [Nat.add_right_comm, Nat.add_assoc] at stops
      exact ⟨Nat.le_of_succ_le more, stops⟩

/-- What the search for the fewest places gives passes the test. -/
theorem passes_of_passing? {passes : Nat → Bool} {below n : Nat} {isNearer : Bool}
    (found : passing? passes below isNearer = some n) : passes n = true := by
  unfold passing? at found
  split at found
  next here above =>
    cases found
    split
    · exact here
    · exact above
  next here _ =>
    cases found
    exact here
  next _ above =>
    cases found
    exact above
  next => cases found

/-- A neighbour that is taken reads back as the number. -/
theorem readsBack_of_neighbour? {places n : Nat} (found : neighbour? m places = some n) :
    readsBack m places n = true :=
  passes_of_passing? found

/-- At 1074 places every magnitude is exact, and so known from the number of units there. -/
theorem unitsOfMagnitude_of_exact {places : Nat} (last : places = 1074)
    (same : unitsOfMagnitude m * Nat.pow 10 places / unitsOfOne =
      unitsOfMagnitude m' * Nat.pow 10 places / unitsOfOne) :
    unitsOfMagnitude m = unitsOfMagnitude m' := by
  have one : unitsOfOne = Nat.pow 2 places := by
    unfold unitsOfOne
    congr 1
    exact last.symm
  have factors : Nat.pow 10 places = 5 ^ places * unitsOfOne := by
    rw [one, Nat.pow_eq, Nat.pow_eq, ← Nat.mul_pow]
  rw [factors, ← Nat.mul_assoc, ← Nat.mul_assoc, Nat.mul_div_cancel _ unitsOfOne_pos,
    Nat.mul_div_cancel _ unitsOfOne_pos] at same
  exact Nat.eq_of_mul_eq_mul_right (Nat.pow_pos (by decide)) same

/-- A finite magnitude is known from the fewest places that it is written with and the number of
units there. -/
theorem fewest_inj {left places : Nat} (last_place : places + left = 1074)
    (finite : m < infinityMagnitude) (finite' : m' < infinityMagnitude)
    (same : fewest m left places = fewest m' left places) : m = m' := by
  unfold fewest at same
  obtain ⟨-, stops⟩ := firstPlace_cases (neighbour? m)
    (fun p => unitsOfMagnitude m * Nat.pow 10 p / unitsOfOne) left places
  obtain ⟨-, stops'⟩ := firstPlace_cases (neighbour? m')
    (fun p => unitsOfMagnitude m' * Nat.pow 10 p / unitsOfOne) left places
  rw [← same] at stops'
  generalize firstPlace (neighbour? m) _ left places = found at stops stops'
  obtain ⟨reads, early⟩ | last := stops <;> obtain ⟨reads', early'⟩ | last' := stops'
  · -- The decimal reads back as both.
    have first := of_decide_eq_true (readsBack_of_neighbour? reads)
    have second := of_decide_eq_true (readsBack_of_neighbour? reads')
    exact first.symm.trans second
  · rw [last'] at early
    exact absurd early (Nat.lt_irrefl _)
  · rw [last] at early'
    exact absurd early' (Nat.lt_irrefl _)
  · have units := (Prod.mk.inj (last.symm.trans last')).2
    exact unitsOfMagnitude_inj finite finite' (unitsOfMagnitude_of_exact last_place units)

/-! ## Texts of magnitudes -/

/-- The text of a magnitude is made of digits, or of digits around a point. -/
theorem magnitudeText_cases (m : Nat) :
    (unitsOfMagnitude m % unitsOfOne = 0 ∧
        magnitudeText m = digits (unitsOfMagnitude m / unitsOfOne)) ∨
      ∃ places n, fewest m 1073 1 = (places, n) ∧ 0 < places ∧
        magnitudeText m = placed places n := by
  have positive := (firstPlace_cases (neighbour? m)
    (fun p => unitsOfMagnitude m * Nat.pow 10 p / unitsOfOne) 1073 1).1
  change 1 ≤ (fewest m 1073 1).1 at positive
  unfold magnitudeText
  split
  next whole => exact .inl ⟨whole, rfl⟩
  next =>
    generalize fewest m 1073 1 = found at positive
    obtain ⟨places, n⟩ := found
    exact .inr ⟨places, n, rfl, positive, rfl⟩

/-- A text with places has a point, and one without has none. -/
theorem point_mem_placed (places n : Nat) : '.' ∈ placed places n := by
  simp [placed]

theorem point_notMem_digits (n : Nat) : '.' ∉ digits n :=
  fun inside => absurd (isDigit_of_mem_digits _ inside) (by decide)

/-- A finite magnitude is known from its text. -/
theorem magnitudeText_inj (finite : m < infinityMagnitude) (finite' : m' < infinityMagnitude)
    (same : magnitudeText m = magnitudeText m') : m = m' := by
  obtain ⟨whole, text⟩ | ⟨places, n, found, pos, text⟩ := magnitudeText_cases m <;>
    obtain ⟨whole', text'⟩ | ⟨places', n', found', pos', text'⟩ := magnitudeText_cases m' <;>
    rw [text, text'] at same
  · have quotient := digits_inj same
    refine unitsOfMagnitude_inj finite finite' ?_
    rw [← Nat.div_add_mod (unitsOfMagnitude m) unitsOfOne, quotient, whole, ← whole',
      Nat.div_add_mod]
  · exact absurd (same ▸ point_mem_placed places' n') (point_notMem_digits _)
  · exact absurd (same ▸ point_mem_placed places n) (point_notMem_digits _)
  · obtain ⟨rfl, rfl⟩ := placed_inj pos pos' same
    have last_place : 1 + 1073 = 1074 := rfl
    exact fewest_inj last_place finite finite' (found.trans found'.symm)

/-! ## Texts of numbers -/

/-- The characters that numbers are written with. -/
def isNumeral (c : Char) : Bool :=
  c.isDigit || c ∈ ['.', '-', 'N', 'a', 'I', 'n', 'f', 'i', 't', 'y']

theorem isNumeral_of_isDigit {c : Char} (digit : c.isDigit = true) : isNumeral c = true := by
  rw [isNumeral, digit, Bool.true_or]

/-- A magnitude starts with a digit, and has no characters but those of numbers. -/
theorem magnitudeText_chars (m : Nat) :
    (∃ d ds, magnitudeText m = d :: ds ∧ d.isDigit = true) ∧
      ∀ c ∈ magnitudeText m, isNumeral c = true := by
  have first (n : Nat) : ∃ d ds, digits n = d :: ds ∧ d.isDigit = true := by
    obtain ⟨d, ds, split⟩ := List.exists_cons_of_ne_nil (l := digits n) Nat.toDigits_ne_nil
    exact ⟨d, ds, split, isDigit_of_mem_digits d (by rw [split]; exact .head _)⟩
  have numeral (n : Nat) : ∀ c ∈ digits n, isNumeral c = true :=
    fun c inside => isNumeral_of_isDigit (isDigit_of_mem_digits c inside)
  obtain ⟨-, text⟩ | ⟨places, n, -, -, text⟩ := magnitudeText_cases m
  · rw [text]
    exact ⟨first _, numeral _⟩
  · rw [text, placed]
    obtain ⟨d, ds, split, digit⟩ := first (n / Nat.pow 10 places)
    refine ⟨⟨d, _, congrArg (· ++ _) split, digit⟩, List.forall_mem_append.mpr ⟨numeral _, ?_⟩⟩
    refine List.forall_mem_cons.mpr ⟨rfl, fun c inside => ?_⟩
    exact isNumeral_of_isDigit (isDigit_of_mem_paddedDigits c inside)

/-- The text of a number without its sign. -/
def unsigned (m : Nat) : List Char :=
  if m = infinityMagnitude then ['I', 'n', 'f', 'i', 'n', 'i', 't', 'y'] else magnitudeText m

/-- A text without a sign starts with neither a minus nor the letter of `NaN`, and is made of
numerals. -/
theorem unsigned_chars (m : Nat) :
    (∃ d ds, unsigned m = d :: ds ∧ d ≠ '-' ∧ d ≠ 'N') ∧
      ∀ c ∈ unsigned m, isNumeral c = true := by
  unfold unsigned
  split
  · exact ⟨⟨_, _, rfl, by decide, by decide⟩, List.all_eq_true.mp rfl⟩
  · obtain ⟨⟨d, ds, split, digit⟩, numeral⟩ := magnitudeText_chars m
    refine ⟨⟨d, ds, split, ?_, ?_⟩, numeral⟩ <;>
      · rintro rfl
        exact absurd digit (by decide)

/-- A magnitude is known by its text. -/
theorem unsigned_inj (bound : m ≤ infinityMagnitude) (bound' : m' ≤ infinityMagnitude)
    (same : unsigned m = unsigned m') : m = m' := by
  have starts (n : Nat) : magnitudeText n ≠ ['I', 'n', 'f', 'i', 'n', 'i', 't', 'y'] := by
    obtain ⟨⟨d, ds, split, digit⟩, -⟩ := magnitudeText_chars n
    rw [split]
    rintro ⟨⟩
    exact absurd digit (by decide)
  unfold unsigned at same
  split at same <;> split at same
  next infinite infinite' => exact infinite.trans infinite'.symm
  next => exact absurd same.symm (starts m')
  next => exact absurd same (starts m)
  next finite finite' =>
    exact magnitudeText_inj (Nat.lt_of_le_of_ne bound finite) (Nat.lt_of_le_of_ne bound' finite')
      same

/-- A number is written with its sign in front, except that no zero has one. -/
theorem chars_eq (real : x.isNaN = false) :
    x.chars = (if x.isNegative && !x.isZero then ['-'] else []) ++ unsigned x.magnitude := by
  unfold chars unsigned isInfinite
  rw [real]
  by_cases infinite : x.magnitude = infinityMagnitude <;> simp [infinite]

/-- A text of a number has a character, and none but those of numbers. -/
theorem isNumeral_of_mem_chars (x : Number) :
    x.chars ≠ [] ∧ ∀ c ∈ x.chars, isNumeral c = true := by
  cases real : x.isNaN with
  | true =>
    rw [chars, real, if_pos rfl]
    exact ⟨by decide, List.all_eq_true.mp rfl⟩
  | false =>
    obtain ⟨⟨d, ds, split, -⟩, numeral⟩ := unsigned_chars x.magnitude
    rw [chars_eq real]
    refine ⟨by simp [split], List.forall_mem_append.mpr ⟨?_, numeral⟩⟩
    split
    · exact List.all_eq_true.mp rfl
    · exact fun c none_ => absurd none_ List.not_mem_nil

/-- Equal, or both no number. -/
def Same (x y : Number) : Prop := x.eq y = true ∨ x.isNaN = true ∧ y.isNaN = true

theorem magnitude_le (real : x.isNaN = false) : x.magnitude ≤ infinityMagnitude :=
  Nat.le_of_not_lt (of_decide_eq_false real)

/-- A magnitude and a sign that counts make a number, up to the sign of zero. -/
theorem eq_of_magnitude (real : x.isNaN = false) (real' : y.isNaN = false)
    (magnitude : x.magnitude = y.magnitude)
    (sign : (x.isNegative && !x.isZero) = (y.isNegative && !y.isZero)) : x.eq y = true := by
  have keys : x.key = y.key := by
    unfold key
    rw [isZero, isZero, magnitude] at sign
    rw [magnitude]
    by_cases zero : y.magnitude = 0
    · rw [zero]
      split <;> split <;> rfl
    · have signs : x.isNegative = y.isNegative := by simpa [zero] using sign
      rw [signs]
  simp [eq, real, real', keys]

/-- Two numbers have the same text just if they are equal or both no number. -/
theorem text_eq_iff : x.text = y.text ↔ x.Same y := by
  constructor
  · intro same
    have same : x.chars = y.chars := String.ofList_injective same
    have other {z : Number} (real : z.isNaN = false) : z.chars ≠ ['N', 'a', 'N'] := by
      obtain ⟨⟨d, ds, split, -, no_letter⟩, -⟩ := unsigned_chars z.magnitude
      rw [chars_eq real, split]
      split
      · exact fun same => absurd (List.cons.inj same).1 (by decide)
      · exact fun same => no_letter (List.cons.inj same).1
    have nan {z : Number} (is_nan : z.isNaN = true) : z.chars = ['N', 'a', 'N'] := by
      rw [chars, is_nan, if_pos rfl]
    cases real : x.isNaN <;> cases real' : y.isNaN
    · left
      rw [chars_eq real, chars_eq real'] at same
      obtain ⟨⟨d, ds, split, no_sign, -⟩, -⟩ := unsigned_chars x.magnitude
      obtain ⟨⟨d', ds', split', no_sign', -⟩, -⟩ := unsigned_chars y.magnitude
      have magnitudes (same : unsigned x.magnitude = unsigned y.magnitude) :=
        unsigned_inj (magnitude_le real) (magnitude_le real') same
      rcases left : x.isNegative && !x.isZero <;> rcases right : y.isNegative && !y.isZero <;>
        simp only [left, right, if_true, Bool.false_eq_true, if_false, List.nil_append] at same
      · exact eq_of_magnitude real real' (magnitudes same) (left.trans right.symm)
      · rw [split] at same
        exact absurd (List.cons.inj same).1 no_sign
      · rw [split'] at same
        exact absurd (List.cons.inj same).1.symm no_sign'
      · exact eq_of_magnitude real real' (magnitudes (List.cons.inj same).2)
          (left.trans right.symm)
    · exact absurd (same.trans (nan real')) (other real)
    · exact absurd (same.symm.trans (nan real)) (other real')
    · exact .inr ⟨real, real'⟩
  · rintro (equal | ⟨is_nan, is_nan'⟩)
    · exact text_eq_of_eq equal
    · rw [text, text, chars, chars, is_nan, is_nan', if_pos rfl, if_pos rfl]

end Scriptlet.Number
