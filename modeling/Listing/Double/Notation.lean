import Listing.Double.Shortest
import Listing.Double.Reading

/-!
# Writing a double

A double is written with its shortest digits. How the digits are laid out, with a point among them
or with an exponent, is a record, so that the layout can be spoken of apart from the digits.
-/

namespace Listing.Double

/-- How digits and an exponent are laid out. Exponents are those of the first digit. -/
structure Layout where
  /-- The least exponent that is written by zeros after the point. -/
  positionalFrom : Int
  /-- The exponents from this one on are written out. -/
  positionalBelow : Int
  /-- The least number of digits of a written exponent. -/
  exponentDigits : Nat

/-- Numbers from `0.0001` up to `10 ^ 16` have a point and at least one digit on either side of
it; others have an exponent with its sign and at least two digits. -/
def plainLayout : Layout := ⟨-4, 16, 2⟩

/-- A text with zeros in front, up to a width. -/
def padZeros (width : Nat) (t : Text) : Text :=
  List.replicate (width - t.length) '0' ++ t

/-- Digits with a point after the first `place` of them, zeros filling the gaps. -/
def positional (digits : Text) (place : Int) : Text :=
  if place ≤ 0 then "0." ++ List.replicate (-place).toNat '0' ++ digits
  else
    let whole := digits.take place.toNat
    let fraction := digits.drop place.toNat
    whole ++ List.replicate (place.toNat - digits.length) '0' ++ '.' ::
      (if fraction.isEmpty then ['0'] else fraction)

/-- Digits with a point after the first, if others follow, and an exponent. -/
def scientific (layout : Layout) (digits : Text) (exponent : Int) : Text :=
  let head :=
    match digits with
    | first :: rest@(_ :: _) => first :: '.' :: rest
    | _ => digits
  let sign := if exponent < 0 then '-' else '+'
  head ++ 'e' :: sign :: padZeros layout.exponentDigits (Numeral.ofNat exponent.natAbs)

/-- The digits of a coefficient, laid out for its exponent of ten. -/
def Layout.write (layout : Layout) (coefficient : Nat) (exponent : Int) : Text :=
  let digits := Numeral.ofNat coefficient
  let place : Int := digits.length + exponent
  if layout.positionalFrom ≤ place - 1 && place - 1 < layout.positionalBelow then
    positional digits place
  else scientific layout digits (place - 1)

/-- A magnitude in the plain layout. -/
def magnitudeText : Magnitude → Text
  | .nan => "nan"
  | .infinite => "inf"
  | .finite 0 _ => "0.0"
  | .finite significand power =>
    let (n, e) := shortest significand power
    plainLayout.write n e

/-- The text of a double; what is not a number has no sign. -/
def text (x : Double) : Text :=
  if x.isNegative && !x.isNaN then '-' :: magnitudeText x.magnitude else magnitudeText x.magnitude

example : text (.ofRatio false 1 10) = "0.1" := by decide +kernel
example : text (.ofRatio true 1000 1) = "-1000.0" := by decide +kernel
example : text (.ofRatio false (10 ^ 16) 1) = "1e+16" := by decide +kernel
example : text (.ofRatio false 3 200000) = "1.5e-05" := by decide +kernel

end Listing.Double
