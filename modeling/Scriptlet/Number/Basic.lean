/-!
# Numbers

The numbers of the language are the doubles of IEEE 754.  A number is held as
its 64 bits, so two numbers are told apart, decoded and ordered in the logic.
A finite double is a whole number of *units* of `2 ^ (-1074)`, and `units`
gives that integer.  Everything that is not arithmetic is read off it: which
numbers are integral, which index a container, and how they compare.

Addition, subtraction, multiplication and division are those of `Float`.  The
remainder is exact (`rem`): the units of the left number modulo the units of
the right one, with the sign of the left one.  `ofRatio` rounds a fraction to
the nearest number, a tie to the even one.  A bit pattern without its sign is
monotone in the number, so a carry of the rounding into the exponent needs no
case of its own.
-/

namespace Scriptlet

/-- A double, as its bits. -/
structure Number where
  /-- Sign, eleven bits of exponent and 52 bits of fraction. -/
  bits : UInt64
deriving DecidableEq, Repr, Inhabited

namespace Number

/-! ## Bits -/

/-- The value of the sign bit, the highest of 64. -/
def signBit : Nat := 0x8000000000000000

/-- The number of fractions, which have 52 bits. -/
def fractions : Nat := 0x10000000000000

/-- The bits without the sign. -/
def magnitude (x : Number) : Nat := x.bits.toNat % signBit

/-- Whether the sign bit is set. -/
def isNegative (x : Number) : Bool := decide (signBit ≤ x.bits.toNat)

/-- The magnitude of the infinities.  Finite numbers lie below it and those that
are no number above it. -/
def infinityMagnitude : Nat := 0x7ff0000000000000

/-- The number with a given sign and magnitude. -/
def ofMagnitude (negative : Bool) (m : Nat) : Number :=
  ⟨UInt64.ofNat (if negative then m + signBit else m)⟩

/-- Positive zero. -/
def zero : Number := ⟨0⟩

/-- One. -/
def one : Number := ⟨0x3ff0000000000000⟩

/-- Infinity with a given sign. -/
def infinity (negative : Bool) : Number := ofMagnitude negative infinityMagnitude

/-- The result of an operation that has none. -/
def nan : Number := ⟨0x7ff8000000000000⟩

/-- Whether this is the value that is no number. -/
def isNaN (x : Number) : Bool := decide (infinityMagnitude < x.magnitude)

/-- Whether this is one of the two infinities. -/
def isInfinite (x : Number) : Bool := decide (x.magnitude = infinityMagnitude)

/-- Whether this is a real number. -/
def isFinite (x : Number) : Bool := decide (x.magnitude < infinityMagnitude)

/-- The same number with the other sign. -/
def neg (x : Number) : Number := ⟨x.bits ^^^ 0x8000000000000000⟩

/-! ## Units -/

/-- The significand and the exponent of a magnitude: its units are
`significand * 2 ^ exponent`. -/
def decode (m : Nat) : Nat × Nat :=
  let e := m / fractions
  let f := m % fractions
  if e = 0 then (f, 0) else (f + fractions, e - 1)

/-- The units of a magnitude. -/
def unitsOfMagnitude (m : Nat) : Nat := (decode m).1 * Nat.pow 2 (decode m).2

/-- A finite number as a whole number of units of `2 ^ (-1074)`. -/
def units (x : Number) : Int :=
  if x.isNegative then - (unitsOfMagnitude x.magnitude : Int) else unitsOfMagnitude x.magnitude

/-- How many units make one. -/
def unitsOfOne : Nat := Nat.pow 2 1074

/-- Whether a finite number has no fraction. -/
def isIntegral (x : Number) : Bool :=
  x.isFinite && decide (unitsOfMagnitude x.magnitude % unitsOfOne = 0)

/-- Whether this is one of the two zeros. -/
def isZero (x : Number) : Bool := decide (x.magnitude = 0)

/-- The natural number that this number is, if it is one.  Minus zero is zero. -/
def toNat? (x : Number) : Option Nat :=
  if x.isIntegral && (!x.isNegative || x.isZero) then
    some (unitsOfMagnitude x.magnitude / unitsOfOne)
  else none

/-! ## Order -/

/-- Where a number stands among the numbers: the magnitude with its sign.  Both
zeros stand at zero. -/
def key (x : Number) : Int :=
  if x.isNegative then - (x.magnitude : Int) else x.magnitude

/-- Equality of numbers: nothing equals what is no number, and the zeros are
equal. -/
def eq (x y : Number) : Bool := !x.isNaN && !y.isNaN && decide (x.key = y.key)

/-- The strict order of numbers. -/
def lt (x y : Number) : Bool := !x.isNaN && !y.isNaN && decide (x.key < y.key)

/-- The order of numbers. -/
def le (x y : Number) : Bool := !x.isNaN && !y.isNaN && decide (x.key ≤ y.key)

theorem eq_comm (x y : Number) : x.eq y = y.eq x := by
  unfold eq
  cases x.isNaN <;> cases y.isNaN <;> simp [Eq.comm]

/-! ## Arithmetic -/

/-- The number as a machine float. -/
def toFloat (x : Number) : Float := Float.ofBits x.bits

/-- The number that a machine float holds. -/
def ofFloat (f : Float) : Number := ⟨f.toBits⟩

/-- The sum, rounded to nearest. -/
def add (x y : Number) : Number := ofFloat (x.toFloat + y.toFloat)

/-- The difference, rounded to nearest. -/
def sub (x y : Number) : Number := ofFloat (x.toFloat - y.toFloat)

/-- The product, rounded to nearest. -/
def mul (x y : Number) : Number := ofFloat (x.toFloat * y.toFloat)

/-- The quotient, rounded to nearest. -/
def div (x y : Number) : Number := ofFloat (x.toFloat / y.toFloat)

/-! ## Rounding -/

/-- A fraction rounded to a natural number, a tie to the even one. -/
def roundHalfEven (num den : Nat) : Nat :=
  let q := num / den
  let r := num % den
  if 2 * r < den then q
  else if den < 2 * r then q + 1
  else if q % 2 = 0 then q else q + 1

/-- The exponent of the last place of a fraction's significand, in units: the
significand has at most 53 bits there. -/
def placeOfRatio (num den : Nat) : Nat :=
  let e := num.log2 - den.log2 - 53
  if num / (den * Nat.pow 2 e) < 2 * fractions then e else e + 1

/-- The magnitude nearest to a fraction of units. -/
def magnitudeOfUnits (num den : Nat) : Nat :=
  let e := placeOfRatio num den
  min infinityMagnitude (e * fractions + roundHalfEven num (den * Nat.pow 2 e))

/-- The number nearest to a fraction, a tie to the even one. -/
def ofRatio (negative : Bool) (num den : Nat) : Number :=
  ofMagnitude negative (magnitudeOfUnits (num * unitsOfOne) den)

/-- The number nearest to a natural number. -/
def ofNat (n : Nat) : Number := ofRatio false n 1

/-! ## Remainder -/

/-- The remainder of a division toward zero.  It is exact and has the sign of
the left number.  There is none for an infinite left number or a zero right
one. -/
def rem (x y : Number) : Number :=
  if x.isNaN || y.isNaN || x.isInfinite || y.isZero then nan
  else if y.isInfinite then x
  else
    ofMagnitude x.isNegative
      (magnitudeOfUnits (unitsOfMagnitude x.magnitude % unitsOfMagnitude y.magnitude) 1)

end Number

end Scriptlet
