import Listing.Double.Basic
import Listing.Numeral

/-!
# The shortest decimal of a double

A double stands for every real number that rounds to it: an interval around its value, ends
included when the significand is even. Its shortest decimal is the number with the fewest digits
in that interval, and of those with equally many digits the nearest to the value. If any number of
a decimal grid lies in the interval, so does one of the two grid neighbours of the value, so only
these are tried, for one digit, two digits, and so on; seventeen always suffice.
-/

namespace Listing.Double

/-- A quotient multiplied by a power of ten, as a quotient. -/
def scaleTen (num den : Nat) (power : Int) : Nat × Nat :=
  if 0 ≤ power then (num * Nat.pow 10 power.toNat, den)
  else (num, den * Nat.pow 10 (-power).toNat)

/-- The number of digits before the point of a positive quotient; below one, minus the number of
zeros that follow the point. -/
def decimalPlace (num den : Nat) : Int :=
  if den ≤ num then (Numeral.ofNat (num / den)).length
  else
    let zeros := (Numeral.ofNat (den / num)).length
    if den ≤ num * Nat.pow 10 (zeros - 1) then 2 - zeros else 1 - zeros

/-- A finite positive double with the interval it stands for, as numerators over one denominator.
-/
structure Interval where
  low : Nat
  value : Nat
  high : Nat
  den : Nat
  /-- Whether the ends belong to it. -/
  closed : Bool
deriving DecidableEq, Repr

namespace Interval

/-- The interval of `significand * 2 ^ power`. Below a power of two the doubles lie twice as
dense, so the lower half of the interval is half as long there. -/
def of (significand : Nat) (power : Int) : Interval :=
  let dense := significand = fractions ∧ -1074 < power
  let (unit, den) := scaleDown 1 4 (-power)
  { low := (4 * significand - if dense then 1 else 2) * unit
    value := 4 * significand * unit
    high := (4 * significand + 2) * unit
    den := den
    closed := significand % 2 = 0 }

/-- Whether `n * 10 ^ exponent` rounds to the double. -/
def contains (i : Interval) (n : Nat) (exponent : Int) : Bool :=
  let (num, den) := scaleTen n 1 exponent
  let here := num * i.den
  if i.closed then i.low * den ≤ here && here ≤ i.high * den
  else i.low * den < here && here < i.high * den

/-- The grid neighbour of the value on the grid of `10 ^ exponent` that rounds to the double and
is nearest to the value, an exact tie going to the even one. -/
def onGrid? (i : Interval) (exponent : Int) : Option Nat :=
  let (num, den) := scaleTen i.value i.den (-exponent)
  let below := num / den
  let rest := num % den
  let downFirst := 2 * rest < den || (2 * rest = den && below % 2 = 0)
  let candidates := if downFirst then [below, below + 1] else [below + 1, below]
  candidates.find? fun n => i.contains n exponent

end Interval

/-- The digits after which the search ends. -/
def enoughDigits : Nat := 17

/-- A number `coefficient * 10 ^ exponent` without trailing zeros in the coefficient; `fuel`
bounds their number. -/
def dropZeros : (fuel : Nat) → Nat → Int → Nat × Int
  | 0, n, e => (n, e)
  | fuel + 1, n, e => if n % 10 = 0 then dropZeros fuel (n / 10) (e + 1) else (n, e)

/-- The shortest decimal of a positive double: the coefficient and the exponent of ten. -/
def shortest (significand : Nat) (power : Int) : Nat × Int :=
  let i := Interval.of significand power
  let place := decimalPlace i.value i.den
  let tried := (List.range enoughDigits).findSome? fun k : Nat =>
    let exponent := place - (k + 1)
    (i.onGrid? exponent).map fun n => (n, exponent)
  match tried with
  | some (n, e) => dropZeros enoughDigits n e
  | none => (0, 0)

example : shortest 1 (-1074) = (5, -324) := by decide +kernel
example : shortest (2 ^ 52) (-52) = (1, 0) := by decide +kernel

end Listing.Double
