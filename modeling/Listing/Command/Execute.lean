import Listing.Command.Arguments
import Listing.Request.Printing
import Listing.Request.Reading
import Listing.Store.Fetch
import Listing.Store.Location

/-!
# Executing the command

The command shows what a query string asks for: it prints the request in its plain form, its SQL
and the values for the placeholders, one line each. Given a table, it then counts the selected
rows and prints the page, one row a line. The page is never larger than the settings allow.
-/

namespace Listing.Command

/-- The three lines about a request: its plain form, its SQL, and its values. -/
def describe (r : Request) : Except Sql.ValueFault (List Text) :=
  (Sql.compile r).map fun fragment =>
    ["http: " ++ r.text, "sql: " ++ fragment.text,
      "values: " ++ Text.joined ", " (fragment.values.map Sql.Value.shown)]

/-- Prints lines. -/
def printAll (lines : List Text) : Run Unit :=
  ⟨lines.map .printed, .ok ()⟩

/-- Reads a request, its notes going to the log. -/
def readRequest (search : Text) : Run Request :=
  let reading := Request.read search
  { events := reading.notes.map fun note => .logged ⟨.debug, .reading, note.text⟩
    outcome := reading.outcome.mapError .request }

/-- The fields in a list separated by commas. -/
def allowedFields (t : Text) : List Text :=
  ((t.splitOn ',').map Text.trim).filter fun name => !name.isEmpty

/-- The database that the arguments name, or else the settings. -/
def databaseUrl (arguments : Arguments) (settings : Settings) : Option Text :=
  if arguments.database.isEmpty then settings.database else some arguments.database

/-- Opens the database at a path. -/
def connect (db : Store.Backend) (path : Text) : Run Unit :=
  match db.opens path with
  | .ok () => Run.emit (.opened path)
  | .error message => ⟨[.unopened path], .error (.database message)⟩

/-- Counts and fetches over one connection, which is closed at the end. -/
def fetch (db : Store.Backend) (path table : Text) (r : Request) (allowed : List Text) :
    Run (Int × List Row) := do
  connect db path
  Run.closing do
    let total ← Store.fetchCount db table r allowed
    let rows ← Store.fetchRows db table r allowed
    return (total, rows)

/-- The part of the command that runs a request against a table. -/
def query (db : Store.Backend) (env : Environment) (arguments : Arguments) (settings : Settings)
    (r : Request) : Run Unit := do
  let allow ← Run.lift id (arguments.allow.elim (.error .noAllowList) .ok)
  let path ← Run.lift id (Store.locate (databaseUrl arguments settings) env)
  let (total, rows) ← fetch db path arguments.table r (allowedFields allow)
  printAll (("total: " ++ Numeral.ofInt total) :: rows.map Row.shown)

/-- The work of the command under given settings. -/
def perform (db : Store.Backend) (env : Environment) (arguments : Arguments)
    (settings : Settings) : Run Unit := do
  let asked ← readRequest arguments.search
  let r ← Run.lift (.page .limit) (asked.clamp settings.maxLimit)
  let lines ← Run.lift .value (describe r)
  printAll lines
  if arguments.table.isEmpty then return ()
  query db env arguments settings r

/-- The message of a failure that is the fault of the request, and not of its surroundings. -/
def rejection? : Failure → Option Text
  | .request (.malformed cause) => some cause.message
  | .disallowed name => some (Failure.disallowedMessage name)
  | _ => none

/-- The exit code of a run: zero for success, and two, with a complaint, for a request that was
rejected. -/
def exitCode (x : Run Unit) : Run Nat :=
  match x.outcome with
  | .ok () => ⟨x.events, .ok 0⟩
  | .error failure =>
    match rejection? failure with
    | some message =>
      ⟨x.events ++ [.logged ⟨.info, .command, "rejected query reason=" ++ message⟩,
        .complained ("error: " ++ message)], .ok 2⟩
    | none => ⟨x.events, .error failure⟩

/-- Runs the command with arguments that were read. The log shows the entries that the settings
ask for. -/
def execute (db : Store.Backend) (env : Environment) (arguments : Arguments) : Run Nat := do
  let settings ← Run.lift .settings (Settings.load env)
  (exitCode (perform db env arguments settings)).atLeast settings.logLevel

end Listing.Command
