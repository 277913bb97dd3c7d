/-!
# Text, and what is blank in it

Text is a list of characters. This file holds the sets of characters that are trimmed from the ends
of a text, the trimming itself, and the joining of parts. `isBlank` is the set that is trimmed
everywhere in a request; `isSpace`, the Unicode property *White_Space*, trims the number in an
environment variable. They differ in the four information separators only. `isAsciiSpace` is what
is left of either in ASCII, without these separators.
-/

namespace Listing

/-- Text is a list of characters, so that readers and printers recurse on it directly. -/
abbrev Text := List Char

/-- A string literal stands for the list of its characters. -/
instance : Coe String Text := ⟨String.toList⟩

namespace Text

/-! ### Blank characters -/

/-- The characters of the Unicode property *White_Space*. -/
def isSpace (c : Char) : Bool :=
  let n := c.toNat
  (0x09 ≤ n && n ≤ 0x0D) || n == 0x20 || n == 0x85 || n == 0xA0 || n == 0x1680 ||
    (0x2000 ≤ n && n ≤ 0x200A) || n == 0x2028 || n == 0x2029 || n == 0x202F || n == 0x205F ||
    n == 0x3000

/-- White space and the four information separators `U+001C` to `U+001F`. -/
def isBlank (c : Char) : Bool :=
  isSpace c || (0x1C ≤ c.toNat && c.toNat ≤ 0x1F)

/-- The white space of ASCII. -/
def isAsciiSpace (c : Char) : Bool :=
  (0x09 ≤ c.toNat && c.toNat ≤ 0x0D) || c.toNat == 0x20

/-! ### Trimming -/

/-- The text without the characters satisfying `p` at either end. -/
def trimWith (p : Char → Bool) (t : Text) : Text :=
  ((t.dropWhile p).reverse.dropWhile p).reverse

/-- The text without the blanks at either end. -/
def trim (t : Text) : Text :=
  trimWith isBlank t

/-- A text is blank when it holds blanks only, the empty text included. -/
def blank (t : Text) : Bool :=
  t.all isBlank

/-! ### Joining -/

/-- The parts one after the other, with `separator` between neighbours. -/
def joined (separator : Text) (parts : List Text) : Text :=
  separator.intercalate parts

end Text

end Listing
