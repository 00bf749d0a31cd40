import Scriptlet.Number.Basic

/-!
# Decimal text of numbers

An integral number is written with all its digits, however many they are.  Any
other finite number is written with the fewest decimals that read back as it,
and never with an exponent.  The decimals are found by trying one place, two
places and so on (`Number.fewest`).  At each count of places only the two
neighbours of the number can read back, the one below and the one above.  If
both do, the nearer one is taken, and of two equally near ones the larger.

At 1074 places every number is exact, since its units are a whole number of
`2 ^ (-1074)`.  So the search ends there at the latest.
-/

namespace Scriptlet.Number

/-! ## Digits -/

/-- The digits of a natural number, most significant first. -/
def digits (n : Nat) : List Char := Nat.toDigits 10 n

/-- The digits of a natural number with zeros in front up to a width. -/
def paddedDigits (width n : Nat) : List Char :=
  List.replicate (width - (digits n).length) '0' ++ digits n

/-- A natural number of units in a given decimal place, as text. -/
def placed (places n : Nat) : List Char :=
  digits (n / Nat.pow 10 places) ++ '.' :: paddedDigits places (n % Nat.pow 10 places)

/-! ## The fewest places -/

/-- Whether `n / 10 ^ places` reads back as a magnitude. -/
def readsBack (m places n : Nat) : Bool :=
  decide (magnitudeOfUnits (n * unitsOfOne) (Nat.pow 10 places) = m)

/-- A number or the next one, whichever passes.  If both do, it depends on which is nearer. -/
def passing? (passes : Nat → Bool) (below : Nat) (isNearer : Bool) : Option Nat :=
  match passes below, passes (below + 1) with
  | true, true => some (if isNearer then below else below + 1)
  | true, false => some below
  | false, true => some (below + 1)
  | false, false => none

/-- The neighbour of a magnitude on the grid of a given decimal place that reads
back, if one does. -/
def neighbour? (m places : Nat) : Option Nat :=
  let scaled := unitsOfMagnitude m * Nat.pow 10 places
  passing? (readsBack m places) (scaled / unitsOfOne)
    (decide (2 * (scaled % unitsOfOne) < unitsOfOne))

/-- The first place from `places` on at which there is a number, with that number.  After `left`
more places the last number is taken as it is. -/
def firstPlace (found? : Nat → Option Nat) (last : Nat → Nat) : (left places : Nat) → Nat × Nat
  | 0, places => (places, last places)
  | left + 1, places =>
    match found? places with
    | some n => (places, n)
    | none => firstPlace found? last left (places + 1)

/-- The first place from `places` on at which a neighbour reads back, with that
neighbour.  After `left` more places the neighbour below is taken as it is. -/
def fewest (m left places : Nat) : Nat × Nat :=
  firstPlace (neighbour? m) (fun places => unitsOfMagnitude m * Nat.pow 10 places / unitsOfOne)
    left places

/-- The text of a finite magnitude. -/
def magnitudeText (m : Nat) : List Char :=
  if unitsOfMagnitude m % unitsOfOne = 0 then digits (unitsOfMagnitude m / unitsOfOne)
  else
    let (places, n) := fewest m 1073 1
    placed places n

/-- The text of a number.  Both zeros are written the same way. -/
def chars (x : Number) : List Char :=
  if x.isNaN then ['N', 'a', 'N']
  else
    let sign := if x.isNegative && !x.isZero then ['-'] else []
    if x.isInfinite then sign ++ ['I', 'n', 'f', 'i', 'n', 'i', 't', 'y']
    else sign ++ magnitudeText x.magnitude

/-- The text of a number. -/
def text (x : Number) : String := String.ofList x.chars

example : ((ofNat 1).div (ofNat 10)).text = "0.1" := by decide +kernel

end Scriptlet.Number
