import Listing.Text.Quoted

/-!
# Malformed input

The ways in which a part of a request breaks its grammar, each with the text that broke it.
-/

namespace Listing

/-- Why a part of a request cannot be read. -/
inductive Malformed where
  /-- A word that is no sort direction. -/
  | direction (word : Text)
  /-- An item of an order that is not a name and a direction. -/
  | sortItem (item : Text)
  /-- A word that is no comparison. -/
  | comparison (word : Text)
  /-- A filter that is not a comparison and its values, or a field name that no filter may have.
  -/
  | filter (text : Text)
  /-- A token of a query string that is not a key and a value. -/
  | pair (token : Text)
deriving DecidableEq, Repr

namespace Malformed

/-- The name under which messages report the cause. -/
def name : Malformed → Text
  | direction _ => "InvalidSortOrder"
  | sortItem _ => "InvalidSortField"
  | comparison _ => "InvalidSimilarity"
  | filter _ => "InvalidParameter"
  | pair _ => "InvalidSearchParameters"

/-- The text that broke the grammar. -/
def subject : Malformed → Text
  | direction t | sortItem t | comparison t | filter t | pair t => t

/-- The message: the name of the cause and the quoted text. -/
def message (m : Malformed) : Text :=
  m.name ++ ": " ++ Text.quoted m.subject

end Malformed

end Listing
