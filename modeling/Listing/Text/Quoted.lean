import Listing.Text.Printable

/-!
# Quoted text

How a text, or a run of octets, is shown between quotes in messages. The single quote is used
unless it would have to be escaped and the double quote would not. Within the quotes a backslash
and the quote itself are escaped by a backslash, tab and line breaks have their letters, and any
other character that does not print is written as its number in two, four or eight hexadecimal
digits. So quoted text is one line whatever the text is.
-/

namespace Listing.Text

/-- A hexadecimal digit in lower case, for a value below sixteen. -/
def hexDigit (n : Nat) : Char :=
  Nat.digitChar (n % 16)

/-- The last `width` hexadecimal digits of a number. -/
def hexDigits : (width : Nat) → Nat → Text
  | 0, _ => []
  | width + 1, n => hexDigits width (n / 16) ++ [hexDigit n]

namespace Quoted

/-- The quote a text is shown in: single, or double for a text that holds single quotes and no
double ones. -/
def mark (t : Text) : Char :=
  if t.contains '\'' && !t.contains '"' then '"' else '\''

/-- The number of a character that does not print, in the shortest of the three widths. -/
def escapeNumber (n : Nat) : Text :=
  if n < 0x100 then "\\x" ++ hexDigits 2 n
  else if n < 0x10000 then "\\u" ++ hexDigits 4 n
  else "\\U" ++ hexDigits 8 n

/-- A character between quotes `q`, where `prints` says which characters show as themselves. -/
def escape (prints : Char → Bool) (q c : Char) : Text :=
  if c = q || c = '\\' then ['\\', c]
  else if c = '\t' then ['\\', 't']
  else if c = '\n' then ['\\', 'n']
  else if c = '\r' then ['\\', 'r']
  else if prints c then [c]
  else escapeNumber c.toNat

/-- The text between its quotes. -/
def encode (prints : Char → Bool) (t : Text) : Text :=
  let q := mark t
  q :: t.flatMap (escape prints q) ++ [q]

end Quoted

/-- A text as it is shown in messages. -/
def quoted (t : Text) : Text :=
  Quoted.encode isPrintable t

/-- Octets as text, each as the character with its number. -/
def ofOctets (octets : List UInt8) : Text :=
  octets.map fun o => Char.ofNat o.toNat

/-- Octets as they are shown in messages: the printable ones of ASCII as their characters, after a
`b`. -/
def quotedOctets (octets : List UInt8) : Text :=
  'b' :: Quoted.encode (fun c => 0x20 ≤ c.toNat && c.toNat ≤ 0x7E) (ofOctets octets)

example : quoted "it's" = "\"it's\"" := by decide
example : quoted "a\\\n\u200b" = "'a\\\\\\n\\u200b'" := by decide
example : quotedOctets [0x61, 0x27, 0xFF] = "b\"a'\\xff\"" := by decide

end Listing.Text
