import Scriptlet.Number.Basic

/-!
# Reading decimal numbers

A decimal number is a sign, digits with a point among them, and an exponent.
All but the digits may be missing, and so may the digits on one side of the
point.  The words `inf`, `infinity` and `nan`, in capitals or not, are numbers
too.  The value is the nearest number, a tie to the even one.

An exponent is not raised blindly.  A decimal whose first digit stands more
than 400 places before the point is infinite, and one that starts more than 400
places behind it is zero (`Decimal.toNumber`).
-/

namespace Scriptlet.Number

/-- Digits, and where the point stands among them: the value is
`significand * 10 ^ (exponent - places)`. -/
structure Decimal where
  /-- The digits before and after the point. -/
  digits : List Char
  /-- How many of them stand after the point. -/
  places : Nat
  /-- The written exponent. -/
  exponent : Int

/-- The natural number that digits denote. -/
def ofDigits (ds : List Char) : Nat := ds.foldl (fun n d => 10 * n + (d.toNat - '0'.toNat)) 0

/-- The number nearest to a decimal. -/
def Decimal.toNumber (negative : Bool) (d : Decimal) : Number :=
  let significand := ofDigits d.digits
  let scale := d.exponent - d.places
  let size := (Nat.toDigits 10 significand).length
  if significand = 0 then ofMagnitude negative 0
  else if 400 < size + scale then infinity negative
  else if size + scale < -400 then ofMagnitude negative 0
  else if 0 ≤ scale then ofRatio negative (significand * Nat.pow 10 scale.toNat) 1
  else ofRatio negative significand (Nat.pow 10 (-scale).toNat)

/-- A sign and the text after it. -/
def splitSign : List Char → Bool × List Char
  | '-' :: cs => (true, cs)
  | '+' :: cs => (false, cs)
  | cs => (false, cs)

/-- The exponent that ends a decimal, zero when nothing is left. -/
def exponent? : List Char → Option Int
  | [] => some 0
  | c :: cs =>
    if c = 'e' ∨ c = 'E' then
      let (negative, ds) := splitSign cs
      if ds.isEmpty || !ds.all Char.isDigit then none
      else some (if negative then -(ofDigits ds : Int) else ofDigits ds)
    else none

/-- A decimal without its sign. -/
def decimal? (cs : List Char) : Option Decimal :=
  let whole := cs.takeWhile Char.isDigit
  let rest := cs.dropWhile Char.isDigit
  let (fraction, rest) :=
    match rest with
    | '.' :: rest => (rest.takeWhile Char.isDigit, rest.dropWhile Char.isDigit)
    | rest => ([], rest)
  if whole.isEmpty && fraction.isEmpty then none
  else (exponent? rest).map fun e => ⟨whole ++ fraction, fraction.length, e⟩

/-- The number that a text denotes, if it denotes one. -/
def read? (cs : List Char) : Option Number :=
  let (negative, body) := splitSign cs
  let word := body.map Char.toLower
  if word = "inf".toList ∨ word = "infinity".toList then some (infinity negative)
  else if word = "nan".toList then some nan
  else (decimal? body).map (Decimal.toNumber negative)

end Scriptlet.Number
