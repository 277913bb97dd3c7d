import Listing.Run
import Listing.Sql.Fragment

/-!
# Running a request against a table

A request is run as one or both of two statements: one counts the rows that the filters select,
the other fetches a page of them. The table is trusted. The fields of the request are not: before
anything else each of them has to be on the list of allowed fields, because their names become
part of the statement.
-/

namespace Listing.Store

/-- What databases do: each may be opened by its path, and then answers statements, or refuses
either with a message. -/
structure Backend where
  /-- Opens the database at a path. -/
  opens : Text → Except Text Unit := fun _ => .ok ()
  /-- The first row of the answer, if there is one. -/
  first : Statement → Except Text (Option (List Cell))
  /-- All rows of the answer. -/
  all : Statement → Except Text (List Row)

/-- Refuses a request that speaks of a field that is not allowed, and names the first such field.
-/
def checkAllowed (r : Request) (allowed : List Text) : Except Failure Unit :=
  match r.fieldNames.find? fun name => !allowed.contains name with
  | some name => .error (.disallowed name)
  | none => .ok ()

/-- The text of the statement that counts rows. -/
def countText (table : Text) (m : Filters) : Text :=
  Text.joined " " (("SELECT COUNT(*) FROM " ++ table) :: Sql.clause "WHERE" (Sql.whereText m))

/-- The text of the statement that fetches rows. -/
def rowsText (table : Text) (fragment : Sql.Fragment) : Text :=
  "SELECT * FROM " ++ table ++ ' ' :: fragment.text

/-- Counts the rows that the filters of a request select. -/
def fetchCount (db : Backend) (table : Text) (r : Request) (allowed : List Text) : Run Int := do
  Run.lift id (checkAllowed r allowed)
  let values ← Run.lift .value (Sql.filterValues r.filters)
  let statement : Statement := ⟨countText table r.filters, values.map Sql.Value.binding⟩
  Run.emit (.executed statement)
  let answer ← Run.lift .database (db.first statement)
  Run.lift .count (countOfAnswer answer)

/-- Fetches the page of rows that a request asks for. -/
def fetchRows (db : Backend) (table : Text) (r : Request) (allowed : List Text) :
    Run (List Row) := do
  Run.lift id (checkAllowed r allowed)
  let fragment ← Run.lift .value (Sql.compile r)
  let statement : Statement := ⟨rowsText table fragment, fragment.values.map Sql.Value.binding⟩
  Run.log .debug .fetching <|
    "fetch_rows sql=" ++ statement.text ++ " placeholders=" ++ Numeral.ofNat fragment.values.length
  Run.emit (.executed statement)
  Run.lift .database (db.all statement)

end Listing.Store
