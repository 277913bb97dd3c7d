import Listing.Filter
import Listing.Double.Notation

/-!
# Values bound to a statement

The values of a filter are text; bound to a placeholder of a statement they take a type. The word
`null` is the null value. In a pattern comparison any other value is text between wildcards. In
every other comparison a numeral is an integer, if it fits into 64 bits, else the notation of a
floating point number makes a real, and what is left is text.
-/

namespace Listing.Sql

/-- A value bound to a placeholder. -/
inductive Value where
  | null
  | integer (n : Int)
  | real (x : Double)
  | text (t : Text)
  | blob (octets : List UInt8)
deriving DecidableEq, Repr

/-- Why a text or a number cannot be bound. -/
inductive ValueFault where
  /-- A numeral has more digits than are ever converted. -/
  | tooManyDigits
  /-- A whole number does not fit into 64 bits. -/
  | outOfRange (n : Int)
deriving DecidableEq, Repr

namespace Value

/-- The text that stands for the null value. -/
def nullWord : Text := "null"

/-- Whether a whole number fits into a signed 64-bit integer. -/
def fits (n : Int) : Bool :=
  -0x8000000000000000 ≤ n && n < 0x8000000000000000

/-- The integer value of a number that fits. -/
def ofInt (n : Int) : Except ValueFault Value :=
  if fits n then .ok (.integer n) else .error (.outOfRange n)

/-- A real if the text is in the notation of floating point numbers, else text. -/
def ofNotation (t : Text) : Value :=
  match Double.read? t with
  | some x => .real x
  | none => .text t

/-- Types a text: integer, then real, then text. -/
def infer (t : Text) : Except ValueFault Value :=
  let (negative, digits) := Numeral.splitSign t
  if Numeral.isDigits digits then
    match Numeral.value? digits with
    | none => .error .tooManyDigits
    | some size =>
      let n := Numeral.signed negative size
      .ok (if fits n then .integer n else ofNotation t)
  else .ok (ofNotation t)

/-- The wildcards around a value of a pattern comparison. -/
def wildcards? : Comparison → Option (Text × Text)
  | .contains => some ("%", "%")
  | .startsWith => some ("", "%")
  | .endsWith => some ("%", "")
  | _ => none

/-- The value that one value of a filter is bound as. -/
def bind (c : Comparison) (t : Text) : Except ValueFault Value :=
  if t = nullWord then .ok .null
  else
    match wildcards? c with
    | some (before, after) => .ok (.text (before ++ t ++ after))
    | none => infer t

/-- The value as it is shown to people. -/
def shown : Value → Text
  | null => "Null"
  | integer n => "Integer(" ++ Numeral.ofInt n ++ ")"
  | real x => "Real(" ++ x.text ++ ")"
  | text t => "Text(" ++ Text.quoted t ++ ")"
  | blob octets => "Blob(" ++ Text.quotedOctets octets ++ ")"

example : (infer "-007").toOption = some (.integer (-7)) := by decide
example : (infer "9223372036854775808").toOption = some (.real (.ofRatio false (2 ^ 63) 1)) := by
  decide
example : (infer " 1").toOption = some (.text " 1") := by decide

end Value

/-- What the database driver is handed for a value. -/
inductive Binding where
  | null
  | int (n : Int)
  | float (x : Double)
  | text (t : Text)
  | octets (bytes : List UInt8)
deriving DecidableEq, Repr

/-- The binding of the storage class that the value has. -/
def Value.binding : Value → Binding
  | null => .null
  | integer n => .int n
  | real x => .float x
  | text t => .text t
  | blob octets => .octets octets

end Listing.Sql
