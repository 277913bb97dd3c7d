import Listing.Text.Basic

/-!
# Numerals

Whole numbers in decimal notation. A reader refuses a numeral of more than `maxDigits` digits,
leading zeros included, because the time to convert one grows with the square of its length.
-/

namespace Listing.Numeral

/-- The longest run of digits that is converted to a number. -/
def maxDigits : Nat := 4300

/-- A non-empty run of ASCII digits. -/
def isDigits (t : Text) : Bool :=
  !t.isEmpty && t.all Char.isDigit

/-- The number that a run of digits denotes. -/
def value (t : Text) : Nat :=
  t.foldl (fun n c => 10 * n + (c.toNat - '0'.toNat)) 0

/-- The number that a run of digits denotes, unless the run is too long to be converted. -/
def value? (t : Text) : Option Nat :=
  if t.length ≤ maxDigits then some (value t) else none

/-- Takes a sign off a numeral: whether the number is negative, and what follows. -/
def splitSign : Text → Bool × Text
  | '-' :: rest => (true, rest)
  | '+' :: rest => (false, rest)
  | t => (false, t)

/-- The number of the given size and sign. -/
def signed (negative : Bool) (n : Nat) : Int :=
  if negative then -(n : Int) else n

/-- The digits of a number, without leading zeros. -/
def ofNat (n : Nat) : Text :=
  Nat.toDigits 10 n

/-- The numeral of a whole number. -/
def ofInt : Int → Text
  | .ofNat n => ofNat n
  | .negSucc n => '-' :: ofNat (n + 1)

@[simp] theorem value_nil : value [] = 0 := rfl

/-- A further digit multiplies by ten and adds its own value. -/
theorem value_append_digit (t : Text) (c : Char) :
    value (t ++ [c]) = 10 * value t + (c.toNat - '0'.toNat) := by
  simp [value, List.foldl_append]

example : value "0042" = 42 ∧ ofInt (-7) = "-7" := by decide

end Listing.Numeral
