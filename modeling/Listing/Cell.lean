import Listing.Double.Notation
import Listing.Fields
import Listing.Text.Decimal
import Listing.Text.Quoted

/-!
# Cells and rows

What a database hands back: cells of a few simple types, in rows whose cells have column names.
-/

namespace Listing

/-- A cell of a row. -/
inductive Cell where
  | null
  | bool (b : Bool)
  | int (n : Int)
  | real (x : Double)
  | text (t : Text)
  | blob (octets : List UInt8)
deriving DecidableEq, Repr

/-- A row: its cells, in order, by the names of their columns. -/
abbrev Row := Fields Cell

namespace Cell

/-- The cell as bare text. -/
def plain : Cell → Text
  | null => "None"
  | bool true => "True"
  | bool false => "False"
  | int n => Numeral.ofInt n
  | real x => x.text
  | text t => t
  | blob octets => Text.quotedOctets octets

/-- The cell as it is shown in a row, text between quotes. -/
def shown : Cell → Text
  | text t => Text.quoted t
  | cell => cell.plain

end Cell

/-- A row between braces. -/
def Row.shown (row : Row) : Text :=
  '\x7b' :: Text.joined ", " (row.entries.map fun e =>
    Text.quoted e.1 ++ ": " ++ e.2.shown) ++ ['\x7d']

/-! ### Cells as counts -/

/-- Why a cell is no count. -/
inductive CountFault where
  /-- What is shown so is no numeral. -/
  | notNumeral (shown : Text)
  | tooManyDigits
  | notANumber
  | infinite
deriving DecidableEq, Repr

namespace CountFault

/-- The most characters of a quotation in a message, and the most octets that are quoted. -/
def quotedLength : Nat := 200

/-- What is wrong with the cell. -/
def message : CountFault → Text
  | notNumeral shown =>
    "invalid literal for int() with base 10: " ++ shown.take quotedLength
  | tooManyDigits => "too many digits"
  | notANumber => "cannot convert float NaN to integer"
  | infinite => "cannot convert float infinity to integer"

end CountFault

/-- The digits of a numeral that may have single underscores between digits: none if two
underscores meet or one is at an end. -/
def groupedDigits? : Text → Option (List Nat)
  | [] => none
  | [c] => (Text.decimalValue? c).map fun d => [d]
  | c :: '_' :: rest =>
    match Text.decimalValue? c, groupedDigits? rest with
    | some d, some ds => some (d :: ds)
    | _, _ => none
  | c :: rest =>
    match Text.decimalValue? c, groupedDigits? rest with
    | some d, some ds => some (d :: ds)
    | _, _ => none

/-- The whole number of a numeral: digits of any script, with a sign in front. A text that is none
is reported as it is `shown`. -/
def countOfNumeral (shown t : Text) : Except CountFault Int :=
  let (negative, digits) := Numeral.splitSign t
  let leading := digits.takeWhile fun c => Text.isDecimal c || c = '_'
  match groupedDigits? leading with
  | none => .error (.notNumeral shown)
  | some ds =>
    if Numeral.maxDigits < ds.length then .error .tooManyDigits
    else if leading.length < digits.length then .error (.notNumeral shown)
    else .ok (Numeral.signed negative (ds.foldl (fun n d => 10 * n + d) 0))

/-- The whole number in a text, which may have white space around it. -/
def countOfText (t : Text) : Except CountFault Int :=
  countOfNumeral (Text.quoted t) (Text.trimWith Text.isSpace t)

/-- The whole number in the octets of an ASCII text. No octet beyond ASCII is a digit, so none of
another script is let in. -/
def countOfOctets (octets : List UInt8) : Except CountFault Int :=
  countOfNumeral (Text.quotedOctets (octets.take CountFault.quotedLength))
    (Text.trimWith Text.isAsciiSpace (Text.ofOctets octets))

/-- The count that a cell holds; a null counts nothing. -/
def Cell.count : Cell → Except CountFault Int
  | null => .ok 0
  | bool b => .ok (if b then 1 else 0)
  | int n => .ok n
  | real x =>
    match x.truncate? with
    | some n => .ok n
    | none => .error (if x.isNaN then .notANumber else .infinite)
  | text t => countOfText t
  | blob octets => countOfOctets octets

/-- The count in the first cell of an answer; no answer and an empty one count nothing. -/
def countOfAnswer : Option (List Cell) → Except CountFault Int
  | some (cell :: _) => cell.count
  | some [] | none => .ok 0

example : (countOfText " +1_0\u0663 ").toOption = some 103 := by decide
example : (countOfText "1__0").toOption = none := by decide
example : (countOfOctets [0x0B, 0x2D, 0x34, 0x32, 0x20]).toOption = some (-42) := by decide
example : (countOfOctets [0x31, 0xA0]).toOption = none := by decide

end Listing
