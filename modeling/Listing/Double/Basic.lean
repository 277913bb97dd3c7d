/-!
# Binary floating point numbers

A double is its sixty-four bits: a sign, and below it a magnitude code that grows with the
magnitude. Seen as numbers, the codes from one power of two to the next are the significands of
that power, so the code of a rational number is found by rounding it on the right grid, and a
carry into the next power of two needs no care.
-/

namespace Listing

/-- A floating point number of IEEE 754 *binary64*, by its bits. -/
structure Double where
  bits : UInt64
deriving DecidableEq, Repr

namespace Double

/-- The place of the sign bit. -/
def signPlace : Nat := 0x8000000000000000

/-- The number of fractions of one exponent. -/
def fractions : Nat := 0x10000000000000

/-- The magnitude code of an infinity, above all finite ones. -/
def infinityCode : Nat := 2047 * fractions

/-- The double of a sign and a magnitude code. -/
def ofCode (negative : Bool) (code : Nat) : Double :=
  ⟨UInt64.ofNat (if negative then signPlace + code else code)⟩

/-- The one value that stands for every result that is not a number. -/
def nan : Double := ofCode false (infinityCode + fractions / 2)

/-- An infinity of the given sign. -/
def infinity (negative : Bool) : Double := ofCode negative infinityCode

/-- A zero of the given sign. -/
def zero (negative : Bool) : Double := ofCode negative 0

/-! ### The fields of a double -/

/-- Whether the sign bit is set. -/
def isNegative (x : Double) : Bool :=
  signPlace ≤ x.bits.toNat

/-- The magnitude code. -/
def code (x : Double) : Nat :=
  x.bits.toNat % signPlace

/-- Whether the double is not a number. -/
def isNaN (x : Double) : Bool :=
  infinityCode < x.code

/-- What a double denotes, apart from its sign. -/
inductive Magnitude where
  | nan
  | infinite
  /-- The number `significand * 2 ^ power`. -/
  | finite (significand : Nat) (power : Int)
deriving DecidableEq, Repr

/-- What the double denotes, apart from its sign. -/
def magnitude (x : Double) : Magnitude :=
  if infinityCode < x.code then .nan
  else if x.code = infinityCode then .infinite
  else
    let exponent := x.code / fractions
    let fraction := x.code % fractions
    if exponent = 0 then .finite fraction (-1074)
    else .finite (fractions + fraction) (exponent - 1075)

/-! ### Rounding -/

/-- The whole number nearest to a quotient; a half goes to the even neighbour. -/
def roundHalfEven (num den : Nat) : Nat :=
  let quotient := num / den
  let rest := num % den
  if 2 * rest < den then quotient
  else if den < 2 * rest then quotient + 1
  else quotient + quotient % 2

/-- A quotient divided by a power of two, as a quotient. -/
def scaleDown (num den : Nat) (power : Int) : Nat × Nat :=
  if 0 ≤ power then (num, den <<< power.toNat) else (num <<< (-power).toNat, den)

/-- The greatest power of two that is at most a positive quotient. -/
def binaryExponent (num den : Nat) : Int :=
  let guess : Int := (num.log2 : Int) - den.log2
  let (n, d) := scaleDown num den guess
  if d ≤ n then guess else guess - 1

/-- The double nearest to a quotient, a half going to the even neighbour. -/
def ofRatio (negative : Bool) (num den : Nat) : Double :=
  if num = 0 then zero negative
  else
    let power := max (-1074) (binaryExponent num den - 52)
    let (n, d) := scaleDown num den power
    ofCode negative (min infinityCode ((power + 1074).toNat * fractions + roundHalfEven n d))

/-- The whole part of a finite double, its fraction dropped. -/
def truncate? (x : Double) : Option Int :=
  match x.magnitude with
  | .finite significand power =>
    let (n, d) := scaleDown significand 1 (-power)
    some (if x.isNegative then -((n / d : Nat) : Int) else (n / d : Nat))
  | _ => none

example : ofRatio false 1 3 = ⟨0x3FD5555555555555⟩ := by decide
example : ofRatio true 5 2 = ⟨0xC004000000000000⟩ := by decide
example : truncate? (ofRatio true 5 2) = some (-2) := by decide

end Double

end Listing
