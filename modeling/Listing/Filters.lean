import Listing.Fields
import Listing.Filter

/-!
# The filters of a request

Filters by field name, in the order of their first write. Three names have a meaning of their own
in a query string and can hold no filter.
-/

namespace Listing

/-- Filters by the name of their field. -/
abbrev Filters := Fields Filter

namespace Filters

/-- The names that no field with a filter may have. -/
def reserved : List Text := ["order", "limit", "offset"]

/-- Writes the filter of a field, unless its name is reserved. -/
def insert (m : Filters) (name : Text) (f : Filter) : Except Malformed Filters :=
  if reserved.contains name then .error (.filter name) else .ok (m.set name f)

/-- Writes the filter that compares a field with values. -/
def compare (m : Filters) (name : Text) (c : Comparison) (values : List Text) :
    Except Malformed Filters :=
  insert m name (.of c values)

/-- The filters after writing every pair in turn; one reserved name spoils them all. -/
def ofList (pairs : List (Text × Filter)) : Except Malformed Filters :=
  pairs.foldlM (fun m e => insert m e.1 e.2) Fields.empty

/-- The filters as tokens of a query string, those without values left out. -/
def tokens (m : Filters) : List Text :=
  (m.entries.filter fun e => !e.2.values.isEmpty).map fun e => e.1 ++ '=' :: e.2.text

/-- The filters as they are written in a query string. -/
def text (m : Filters) : Text :=
  Text.joined "&" m.tokens

end Filters

end Listing
