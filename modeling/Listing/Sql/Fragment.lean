import Listing.Sql.Condition
import Listing.Request.Basic

/-!
# The SQL of a request

A request is compiled to the part of a statement that follows the table, and the values for its
placeholders in the order of the text: those of the filters, then the two numbers of the page.
Field names are written as they are; who runs the statement has to know them.
-/

namespace Listing.Sql

/-- The conditions of filters, in order. -/
def conditions (m : Filters) : List Condition :=
  m.entries.filterMap fun e => condition? e.1 e.2

/-- All conditions of filters, joined to one. -/
def whereText (m : Filters) : Text :=
  Text.joined " AND " ((conditions m).map Condition.text)

/-- The keyword for a direction. -/
def keyword : Direction → Text
  | .ascending => "ASC"
  | .descending => "DESC"

/-- The sort fields with their directions, blank names left out. -/
def orderText (m : Sorting) : Text :=
  Text.joined ", " <| (m.entries.filter fun e => !Text.blank e.1).map fun e =>
    e.1 ++ ' ' :: keyword e.2

/-- A clause: a keyword and its text, or nothing if that is empty. -/
def clause (start t : Text) : List Text :=
  if t.isEmpty then [] else [start ++ ' ' :: t]

/-- The clause for the page. -/
def pageText : Text := "LIMIT ? OFFSET ?"

/-- The part of a statement that follows the table. -/
def text (r : Request) : Text :=
  Text.joined " " <|
    clause "WHERE" (whereText r.filters) ++ clause "ORDER BY" (orderText r.sorting) ++ [pageText]

/-- The values of one filter. -/
def valuesOf (f : Filter) : Except ValueFault (List Value) :=
  (boundTexts f).mapM (Value.bind f.comparison)

/-- The values for the placeholders of the filters. -/
def filterValues (m : Filters) : Except ValueFault (List Value) :=
  (m.entries.mapM fun e => valuesOf e.2).map List.flatten

/-- The values for the placeholders of the page. -/
def pageValues (limit offset : Nat) : Except ValueFault (List Value) :=
  [limit, offset].mapM fun n : Nat => Value.ofInt n

/-- The values for all placeholders. -/
def values (r : Request) : Except ValueFault (List Value) := do
  let filtered ← filterValues r.filters
  let paged ← pageValues r.limit r.offset
  return filtered ++ paged

/-- The number of all values of the filters and of the two numbers of the page. -/
def announcedCount (r : Request) : Nat :=
  (r.filters.entries.flatMap fun e => e.2.values).length + 2

/-- A compiled request: the part of a statement that follows the table, and its values. -/
structure Fragment where
  text : Text
  values : List Value
deriving DecidableEq, Repr

/-- Compiles a request. -/
def compile (r : Request) : Except ValueFault Fragment :=
  (values r).map fun vs => ⟨text r, vs⟩

end Listing.Sql
