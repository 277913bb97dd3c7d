import Listing.Double.Basic
import Listing.Numeral

/-!
# Reading a double

The notation of floating point numbers: an optional sign, then digits with at most one point among
or around them and an optional exponent, or one of the words for infinity and for what is not a
number, in any case. The number is read exactly and rounded once.
-/

namespace Listing

/-- A decimal number as written: `coefficient * 10 ^ exponent`, with its sign. -/
structure Decimal where
  negative : Bool
  coefficient : Nat
  exponent : Int
deriving DecidableEq, Repr

namespace Decimal

/-- The leading digits of a text, and what follows them. -/
def spanDigits (t : Text) : Text × Text :=
  (t.takeWhile Char.isDigit, t.dropWhile Char.isDigit)

/-- The exponent after the digits: nothing, or a letter and a signed run of digits. -/
def readExponent? : Text → Option Int
  | [] => some 0
  | c :: rest =>
    let (negative, digits) := Numeral.splitSign rest
    if (c = 'e' || c = 'E') && Numeral.isDigits digits then
      some (Numeral.signed negative (Numeral.value digits))
    else none

/-- Digits, of which at least one before or after the point, and an exponent; the sign was taken
off before. -/
def readUnsigned? (negative : Bool) (t : Text) : Option Decimal :=
  let (whole, rest) := spanDigits t
  let (fraction, rest) :=
    match rest with
    | '.' :: after => spanDigits after
    | _ => ([], rest)
  if whole.isEmpty && fraction.isEmpty then none
  else (readExponent? rest).map fun e =>
    ⟨negative, Numeral.value (whole ++ fraction), e - fraction.length⟩

/-- The double nearest to a decimal number. Numbers of more than 310 digits before the point are
infinite, and those with more than 330 zeros after it vanish, so that no power beyond these is
ever computed. -/
def toDouble (d : Decimal) : Double :=
  let place := (Numeral.ofNat d.coefficient).length + d.exponent
  if d.coefficient = 0 then .zero d.negative
  else if 310 < place then .infinity d.negative
  else if place < -330 then .zero d.negative
  else if 0 ≤ d.exponent then
    .ofRatio d.negative (d.coefficient * Nat.pow 10 d.exponent.toNat) 1
  else .ofRatio d.negative d.coefficient (Nat.pow 10 (-d.exponent).toNat)

end Decimal

namespace Double

/-- The words for infinity. -/
def infinityWords : List Text := ["inf", "infinity"]

/-- The double that a text denotes, if it is in the notation of floating point numbers. -/
def read? (t : Text) : Option Double :=
  let (negative, rest) := Numeral.splitSign t
  let word := rest.map Char.toLower
  if word ∈ infinityWords then some (.infinity negative)
  else if word = "nan" then some .nan
  else (Decimal.readUnsigned? negative rest).map Decimal.toDouble

example : read? "-2.5e0" = some ⟨0xC004000000000000⟩ := by decide
example : read? "1e999999" = some (.infinity false) := by decide
example : read? "." = none ∧ read? "1e" = none := by decide

end Double

end Listing
