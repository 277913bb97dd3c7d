import Listing.Text.Quoted
import Listing.Text.Utf8

/-!
# Percent escapes

The spelling of a single value inside a URL query string. Writing keeps letters, digits and four
marks of ASCII and escapes every octet of any other character. Reading is that of form fields,
where a plus stands for a space, but a text without a percent sign stands for itself, pluses
included. Reading never fails: a percent sign without two hexadecimal digits after it is an
ordinary character, and octets that are no UTF-8 become replacement characters.
-/

namespace Listing.Text.Percent

/-! ### Writing -/

/-- The characters that are written as themselves. -/
def isKept (c : Char) : Bool :=
  c.isAlphanum || c == '_' || c == '.' || c == '-' || c == '~'

/-- A hexadecimal digit in upper case, for a value below sixteen. -/
def upperHexDigit (n : Nat) : Char :=
  (hexDigit n).toUpper

/-- The escape of one octet. -/
def escape (o : UInt8) : Text :=
  ['%', upperHexDigit (o.toNat / 16), upperHexDigit o.toNat]

/-- A character as itself or as the escapes of its octets. -/
def encodeChar (c : Char) : Text :=
  if isKept c then [c] else (Utf8.octets c).flatMap escape

/-- A value as it is written in a query string. -/
def encode (t : Text) : Text :=
  t.flatMap encodeChar

/-! ### Reading -/

/-- The value of a hexadecimal digit in either case. -/
def hexValue? (c : Char) : Option Nat :=
  if c.isDigit then some (c.toNat - 48)
  else if 'a' ≤ c ∧ c ≤ 'f' then some (c.toNat - 87)
  else if 'A' ≤ c ∧ c ≤ 'F' then some (c.toNat - 55)
  else none

/-- The octet that two hexadecimal digits denote. -/
def octet? (high low : Char) : Option UInt8 :=
  match hexValue? high, hexValue? low with
  | some h, some l => some (UInt8.ofNat (16 * h + l))
  | _, _ => none

/-- A piece of an escaped text: an octet, or a character beyond ASCII, which stands for itself. -/
inductive Piece where
  | octet (o : UInt8)
  | literal (c : Char)
deriving DecidableEq, Repr

/-- The piece that an unescaped character is. -/
def Piece.ofChar (c : Char) : Piece :=
  if c.toNat < 0x80 then .octet (UInt8.ofNat c.toNat) else .literal c

/-- Cuts a text into pieces, an escape being one octet. -/
def pieces : Text → List Piece
  | '%' :: high :: low :: rest =>
    match octet? high low with
    | some o => .octet o :: pieces rest
    | none => .octet 0x25 :: pieces (high :: low :: rest)
  | c :: rest => .ofChar c :: pieces rest
  | [] => []

/-- Reads pieces from where the reader of octets stands; a literal character ends a run of octets.
-/
def readFrom (s : Utf8.State) : List Piece → Text
  | [] => Utf8.finish s
  | .octet o :: rest => (Utf8.advance s o).1 ++ readFrom (Utf8.advance s o).2 rest
  | .literal c :: rest => Utf8.finish s ++ c :: readFrom none rest

/-- A plus stands for a space. -/
def plusToSpace (c : Char) : Char :=
  if c = '+' then ' ' else c

/-- The value that a text in a query string spells. -/
def decode (t : Text) : Text :=
  if t.contains '%' then readFrom none (pieces (t.map plusToSpace)) else t

example : encode "a b~é" = "a%20b~%C3%A9" := by decide
example : decode "a+b%2" = "a b%2" := by decide
example : decode "a+b" = "a+b" := by decide
example : decode "%F0%9F%98x%ed%a0%80" = "\ufffdx\ufffd\ufffd\ufffd" := by decide

end Listing.Text.Percent
