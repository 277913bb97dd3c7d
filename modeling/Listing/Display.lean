import Listing.Filters
import Listing.Sorting

/-!
# Filters and orders as they are shown to programmers

Both maps are shown as the list of their entries, in order, with the names of all parts.
-/

namespace Listing

/-- The parts of a list between brackets. -/
def bracketed (parts : List Text) : Text :=
  '[' :: Text.joined ", " parts ++ [']']

/-- A choice out of a fixed set: the set, the name of the choice, and its word. -/
def shownChoice (set identifier word : Text) : Text :=
  '<' :: set ++ '.' :: identifier ++ ": " ++ Text.quoted word ++ [('>' : Char)]

/-- An entry of a map, with its value shown as given. -/
def shownEntry (name value : Text) : Text :=
  '(' :: Text.quoted name ++ ", " ++ value ++ [')']

/-- A filter with the names of its parts. -/
def Filter.shown (f : Filter) : Text :=
  "Parameter(similarity=" ++ shownChoice "Similarity" f.comparison.identifier f.comparison.word ++
    ", values=" ++ bracketed (f.values.map Text.quoted) ++ ")"

/-- The filters of a request with their names. -/
def Filters.shown (m : Filters) : Text :=
  "Parameters(" ++ bracketed (m.entries.map fun e => shownEntry e.1 e.2.shown) ++ ")"

/-- An order with its names. -/
def Sorting.shown (m : Sorting) : Text :=
  "SortFields(" ++ bracketed (m.entries.map fun e =>
    shownEntry e.1 (shownChoice "SortOrder" e.2.identifier e.2.word)) ++ ")"

end Listing
