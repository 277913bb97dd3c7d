import Listing.Direction
import Listing.Fields
import Listing.Text.Percent

/-!
# Sort orders

The fields by which a listing is sorted, in order of precedence, each with a direction. In a query
string an order is written `name:direction,name:direction,...`, with every name percent-escaped.
-/

namespace Listing

/-- Sort directions by field name, the first field taking precedence. -/
abbrev Sorting := Fields Direction

namespace Sorting

/-- Reads one item of an order: one colon, a name before it and a direction after it. -/
def readItem (item : Text) : Except Malformed (Text × Direction) :=
  match ((Text.trim item).splitOn ':').map Text.trim with
  | [name, word] =>
    if name.isEmpty || word.isEmpty then .error (.sortItem item)
    else (Direction.read word).map fun d => (Text.Percent.decode name, d)
  | _ => .error (.sortItem item)

/-- The items of an order as written, trimmed, the blank ones left out. -/
def items (t : Text) : List Text :=
  ((t.splitOn ',').map Text.trim).filter fun item => !item.isEmpty

/-- Reads an order; one item that cannot be read spoils it all, and a later item of a name
replaces an earlier one. -/
def read (t : Text) : Except Malformed Sorting :=
  ((items t).mapM readItem).map Fields.ofList

/-- The order as it is written in a query string, blank names left out. -/
def text (m : Sorting) : Text :=
  Text.joined "," <| (m.entries.filter fun e => !Text.blank e.1).map fun e =>
    Text.Percent.encode e.1 ++ ':' :: e.2.word

example : ((read "a%20b:desc, ,c:asc,a%20b:asc").toOption.map Fields.entries) =
    some [("a b".toList, .ascending), ("c".toList, .ascending)] := by decide

end Sorting

end Listing
