import Mathlib.Algebra.Group.Nat.Defs
import Scriptlet.Number.Decimal

/-!
# Numbers that are natural numbers

A number denotes a natural number if it is finite and as many ones (`Number.Denotes`).  These are
the numbers that are natural numbers (`Number.toNat?_eq_some_iff`).  Both zeros denote zero.

A natural number up to `2 ^ 53` is rounded to itself (`Number.denotes_ofNat`).  Its units are a
power of two times a significand of 53 bits, so the place of the last one is as it is read off the
magnitude, and there is nothing to round.
-/

namespace Scriptlet.Number

variable {n : Number} {i j : Nat}

/-- A number is a given natural number. -/
structure Denotes (n : Number) (i : Nat) : Prop where
  isFinite : n.isFinite = true
  units : n.units = (i * unitsOfOne : Nat)

theorem unitsOfOne_pos : 0 < unitsOfOne := by decide +kernel

theorem fractions_pos : 0 < fractions := by decide

/-- Only zero has no units. -/
theorem unitsOfMagnitude_eq_zero_iff {m : Nat} : unitsOfMagnitude m = 0 ↔ m = 0 := by
  have power : Nat.pow 2 (decode m).2 ≠ 0 := Nat.ne_of_gt (Nat.two_pow_pos _)
  have pos := fractions_pos
  have whole := Nat.div_add_mod m fractions
  rw [unitsOfMagnitude, Nat.mul_eq_zero, or_iff_left power]
  by_cases subnormal : m / fractions = 0
  · rw [subnormal] at whole
    simp only [decode, subnormal, if_true]
    omega
  · have nonzero : m ≠ 0 := by
      rintro rfl
      exact subnormal (Nat.zero_div _)
    simp only [decode, subnormal, if_false]
    omega

/-- The numbers that are a natural number are those that denote it. -/
theorem toNat?_eq_some_iff : n.toNat? = some i ↔ n.Denotes i := by
  have pos := unitsOfOne_pos
  have zero : n.isZero = true ↔ unitsOfMagnitude n.magnitude = 0 := by
    rw [unitsOfMagnitude_eq_zero_iff, isZero, decide_eq_true_iff]
  have whole : n.toNat? = some i ↔
      n.isFinite = true ∧ unitsOfMagnitude n.magnitude % unitsOfOne = 0 ∧
        (n.isNegative = false ∨ n.isZero = true) ∧
        unitsOfMagnitude n.magnitude / unitsOfOne = i := by
    simp [toNat?, isIntegral, and_assoc]
  rw [whole]
  constructor
  · rintro ⟨finite, divides, sign, rfl⟩
    have all_ : unitsOfMagnitude n.magnitude / unitsOfOne * unitsOfOne =
        unitsOfMagnitude n.magnitude := Nat.div_mul_cancel (Nat.dvd_of_mod_eq_zero divides)
    refine ⟨finite, ?_⟩
    rw [all_, units]
    rcases sign with positive | none_
    · rw [positive, if_neg Bool.false_ne_true]
    · rw [zero.mp none_]
      split <;> rfl
  · rintro ⟨finite, same⟩
    have size : unitsOfMagnitude n.magnitude = i * unitsOfOne ∧
        (n.isNegative = false ∨ n.isZero = true) := by
      rw [zero]
      unfold units at same
      split at same
      · omega
      · exact ⟨by omega, .inl (Bool.eq_false_iff.mpr ‹_›)⟩
    refine ⟨finite, ?_, size.2, ?_⟩
    · rw [size.1, Nat.mul_mod_left]
    · rw [size.1, Nat.mul_div_cancel _ pos]

/-- A number denotes one natural number at most. -/
theorem Denotes.eq (first : n.Denotes i) (second : n.Denotes j) : i = j :=
  Option.some.inj ((toNat?_eq_some_iff.mpr first).symm.trans (toNat?_eq_some_iff.mpr second))

theorem toNat?_eq_none (nothing : ∀ i, ¬ n.Denotes i) : n.toNat? = none :=
  Option.eq_none_iff_forall_ne_some.mpr fun i found => nothing i (toNat?_eq_some_iff.mp found)

/-! ## Rounding -/

section

/-! A significand of 53 bits, of which the highest is set, with an exponent. -/

variable {q e : Nat} (low : fractions ≤ q) (high : q < 2 * fractions)

include low high

/-- The last place of the significand is the exponent. -/
theorem placeOfRatio_significand : placeOfRatio (q * 2 ^ e) 1 = e := by
  have log : (q * 2 ^ e).log2 = 52 + e := by
    have nonzero : q * 2 ^ e ≠ 0 :=
      Nat.mul_ne_zero (by have := fractions_pos; omega) (Nat.ne_of_gt (Nat.two_pow_pos e))
    refine (Nat.log2_eq_iff nonzero).mpr ⟨?_, ?_⟩
    · rw [Nat.pow_add]
      exact Nat.mul_le_mul_right _ low
    · have : (2 : Nat) ^ (52 + e + 1) = 2 * fractions * 2 ^ e := by
        rw [show 52 + e + 1 = 53 + e by omega, Nat.pow_add]
        rfl
      rw [this]
      exact Nat.mul_lt_mul_of_pos_right high (Nat.two_pow_pos e)
  have one : Nat.log2 1 = 0 := by decide
  simp only [placeOfRatio, log, one, Nat.one_mul, Nat.pow_eq]
  cases e with
  | zero => simp [high]
  | succ e =>
    have place : 52 + (e + 1) - 0 - 53 = e := by omega
    have twice : q * 2 ^ (e + 1) / 2 ^ e = 2 * q := by
      rw [Nat.pow_succ', ← Nat.mul_assoc, Nat.mul_div_cancel _ (Nat.two_pow_pos e), Nat.mul_comm]
    rw [place, twice, if_neg (by omega)]

/-- A magnitude with a significand has the units of the significand, at its exponent. -/
theorem unitsOfMagnitude_significand : unitsOfMagnitude (e * fractions + q) = q * 2 ^ e := by
  have quotient : (e * fractions + q) / fractions = e + 1 := by
    rw [Nat.add_comm, Nat.add_mul_div_right _ _ fractions_pos, Nat.add_comm e,
      Nat.add_left_inj, Nat.div_eq_iff fractions_pos]
    omega
  have remainder : (e * fractions + q) % fractions = q - fractions := by
    have whole := Nat.div_add_mod (e * fractions + q) fractions
    rw [quotient, Nat.mul_succ, Nat.mul_comm] at whole
    omega
  have significand : q - fractions + fractions = q := by omega
  simp only [unitsOfMagnitude, decode, quotient, remainder, if_neg (Nat.succ_ne_zero e),
    significand, Nat.add_sub_cancel, Nat.pow_eq]

/-- There is nothing to round. -/
theorem magnitudeOfUnits_significand (finite : e * fractions + q < infinityMagnitude) :
    magnitudeOfUnits (q * 2 ^ e) 1 = e * fractions + q := by
  have rounded : roundHalfEven (q * 2 ^ e) (1 * Nat.pow 2 e) = q := by
    have pos := Nat.two_pow_pos e
    simp [roundHalfEven, Nat.mul_div_cancel _ pos, pos]
  rw [magnitudeOfUnits, placeOfRatio_significand low high, rounded,
    Nat.min_eq_right (Nat.le_of_lt finite)]

end

/-- The units of a natural number up to `2 ^ 53`, as a significand with an exponent. -/
theorem exists_significand {k : Nat} (pos : 0 < k) (bound : k ≤ 2 ^ 53) :
    ∃ q e, fractions ≤ q ∧ q < 2 * fractions ∧ e ≤ 1075 ∧ k * unitsOfOne = q * 2 ^ e := by
  obtain small | rfl := Nat.lt_or_eq_of_le bound
  · -- The significand is shifted up until its highest bit is at the front.
    have log : k.log2 ≤ 52 := Nat.le_of_lt_succ ((Nat.log2_lt (Nat.ne_of_gt pos)).mpr small)
    have front : 2 ^ k.log2 * 2 ^ (52 - k.log2) = fractions := by
      rw [← Nat.pow_add, Nat.add_sub_cancel' log]
      rfl
    have units : 2 ^ (52 - k.log2) * 2 ^ (1074 - (52 - k.log2)) = unitsOfOne := by
      rw [← Nat.pow_add, Nat.add_sub_cancel' (by omega)]
      decide +kernel
    refine ⟨k * 2 ^ (52 - k.log2), 1074 - (52 - k.log2), ?_, ?_, by omega, ?_⟩
    · rw [← front]
      exact Nat.mul_le_mul_right _ (Nat.log2_self_le (Nat.ne_of_gt pos))
    · rw [← front, ← Nat.mul_assoc, ← Nat.pow_succ']
      exact Nat.mul_lt_mul_of_pos_right Nat.lt_log2_self (Nat.two_pow_pos _)
    · rw [Nat.mul_assoc, units]
  · refine ⟨fractions, 1075, Nat.le_refl _, by decide, Nat.le_refl _, ?_⟩
    decide +kernel

/-- A natural number up to `2 ^ 53` is a number. -/
theorem denotes_ofNat {k : Nat} (bound : k ≤ 2 ^ 53) : (ofNat k).Denotes k := by
  obtain rfl | pos := Nat.eq_zero_or_pos k
  · exact ⟨by decide +kernel, by decide +kernel⟩
  obtain ⟨q, e, low, high, exponent, units⟩ := exists_significand pos bound
  have finite : e * fractions + q < infinityMagnitude := by
    unfold fractions infinityMagnitude at *
    omega
  have small : e * fractions + q < signBit := Nat.lt_trans finite (by decide)
  have bits : (UInt64.ofNat (e * fractions + q)).toNat = e * fractions + q :=
    UInt64.toNat_ofNat_of_lt' (Nat.lt_trans small (by decide))
  have made : ofNat k = ⟨UInt64.ofNat (e * fractions + q)⟩ := by
    rw [ofNat, ofRatio, units, magnitudeOfUnits_significand low high finite]
    rfl
  have magnitude : (ofNat k).magnitude = e * fractions + q := by
    rw [made, Number.magnitude, bits, Nat.mod_eq_of_lt small]
  have positive : (ofNat k).isNegative = false := by
    rw [made, isNegative, bits]
    exact decide_eq_false (Nat.not_le_of_lt small)
  refine ⟨?_, ?_⟩
  · rw [isFinite, magnitude]
    exact decide_eq_true finite
  · rw [Number.units, positive, if_neg Bool.false_ne_true, magnitude,
      unitsOfMagnitude_significand low high, units]

end Scriptlet.Number
