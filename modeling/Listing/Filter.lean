import Listing.Comparison
import Listing.Text.Percent

/-!
# Filters

A filter compares one field with a list of values. In a query string it is written
`comparison:value,value,...`, with every value percent-escaped, so that the colon and the commas
of the notation are the only ones.
-/

namespace Listing

/-- A comparison and the values that it is made with. -/
structure Filter where
  comparison : Comparison
  values : List Text := []
deriving DecidableEq, Repr

namespace Filter

/-- The filter of a comparison and values, of which the blank ones are dropped. -/
def of (comparison : Comparison) (values : List Text) : Filter :=
  ⟨comparison, values.filter fun v => !Text.blank v⟩

/-- The filter with a further value, unless that is blank. -/
def append (f : Filter) (value : Text) : Filter :=
  of f.comparison (f.values ++ [value])

/-- The values of a filter as written: separated by commas, each trimmed and then unescaped. -/
def readValues (t : Text) : List Text :=
  (t.splitOn ',').map fun v => Text.Percent.decode (Text.trim v)

/-- Reads a filter: one colon, a comparison before it and values after it. -/
def read (t : Text) : Except Malformed Filter :=
  match (Text.trim t).splitOn ':' with
  | [word, values] =>
    if Text.blank word then .error (.filter t)
    else (Comparison.read (Text.trim word)).map fun c => of c (readValues values)
  | _ => .error (.filter t)

/-- The filter as it is written in a query string. -/
def text (f : Filter) : Text :=
  f.comparison.word ++ ':' :: Text.joined "," (f.values.map Text.Percent.encode)

example : (read " between : 1, %202 ,,").toOption = some ⟨.between, ["1", " 2"]⟩ := by decide

end Filter

end Listing
