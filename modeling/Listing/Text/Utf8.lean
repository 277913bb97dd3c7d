import Listing.Text.Basic

/-!
# UTF-8

The octets of a character, and a reader that takes octets one at a time. The reader never fails:
octets that are not the start of a character's octets, as far as they reach, become one
replacement character each time, and the octet that broke the sequence off is read afresh.
-/

namespace Listing.Text.Utf8

/-- What stands for octets that are no character. -/
def replacement : Char := '\ufffd'

/-! ### Writing -/

/-- A continuation octet, which holds six bits. -/
def continuation (n : Nat) : UInt8 :=
  UInt8.ofNat (0x80 + n % 64)

/-- The octets of a character. -/
def octets (c : Char) : List UInt8 :=
  let n := c.toNat
  if n < 0x80 then [UInt8.ofNat n]
  else if n < 0x800 then [UInt8.ofNat (0xC0 + n / 64), continuation n]
  else if n < 0x10000 then
    [UInt8.ofNat (0xE0 + n / 4096), continuation (n / 64), continuation n]
  else
    [UInt8.ofNat (0xF0 + n / 262144), continuation (n / 4096), continuation (n / 64),
      continuation n]

/-! ### Reading -/

/-- A character of which some octets were read: its bits so far, the bounds of the next octet, and
the number of octets still to come after that one. -/
structure Begun where
  bits : Nat
  low : Nat
  high : Nat
  later : Nat
deriving DecidableEq, Repr

/-- Where the reader stands: between characters, or within one. -/
abbrev State := Option Begun

/-- Reads an octet between characters. -/
def start (o : UInt8) : Text × State :=
  let n := o.toNat
  if n < 0x80 then ([Char.ofNat n], none)
  else if n < 0xC2 then ([replacement], none)
  else if n < 0xE0 then ([], some ⟨n - 0xC0, 0x80, 0xBF, 0⟩)
  else if n < 0xF0 then
    let low := if n = 0xE0 then 0xA0 else 0x80
    let high := if n = 0xED then 0x9F else 0xBF
    ([], some ⟨n - 0xE0, low, high, 1⟩)
  else if n < 0xF5 then
    let low := if n = 0xF0 then 0x90 else 0x80
    let high := if n = 0xF4 then 0x8F else 0xBF
    ([], some ⟨n - 0xF0, low, high, 2⟩)
  else ([replacement], none)

/-- Takes the six bits of a continuation octet into a begun character. -/
def Begun.extend (b : Begun) (n : Nat) : Text × State :=
  let bits := b.bits * 64 + (n - 0x80)
  match b.later with
  | 0 => ([Char.ofNat bits], none)
  | later + 1 => ([], some ⟨bits, 0x80, 0xBF, later⟩)

/-- Reads one octet: the characters that it completes, and where the reader stands after it. -/
def advance (s : State) (o : UInt8) : Text × State :=
  match s with
  | none => start o
  | some b =>
    if b.low ≤ o.toNat ∧ o.toNat ≤ b.high then b.extend o.toNat
    else (replacement :: (start o).1, (start o).2)

/-- What is left to write where the octets end. -/
def finish : State → Text
  | none => []
  | some _ => [replacement]

end Listing.Text.Utf8
