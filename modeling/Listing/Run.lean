import Listing.Failure
import Listing.Log

/-!
# Runs

A run is what a piece of work does that can be seen from outside, event by event, and how it ends.
Work that follows upon other work is done only if that succeeds, and its events come after the
others.
-/

namespace Listing

/-- A statement with the bindings of its placeholders. -/
structure Statement where
  text : Text
  bindings : List Sql.Binding
deriving DecidableEq, Repr

/-- Something that can be seen from outside. -/
inductive Event where
  /-- An entry of the log. -/
  | logged (entry : LogEntry)
  /-- A line of the output. -/
  | printed (line : Text)
  /-- A line of the error output that is no log entry. -/
  | complained (line : Text)
  /-- A database was opened. -/
  | opened (path : Text)
  /-- A database was to be opened, and could not be. -/
  | unopened (path : Text)
  /-- A statement was handed to the database. -/
  | executed (statement : Statement)
  /-- The database was closed. -/
  | closed
deriving DecidableEq, Repr

/-- The events of a piece of work, and its result or the failure that ended it. -/
structure Run (α : Type) where
  events : List Event
  outcome : Except Failure α

namespace Run

variable {α β : Type}

/-- Nothing to be seen. -/
def pure (a : α) : Run α :=
  ⟨[], .ok a⟩

/-- Work that goes on with the result of other work. -/
def bind (x : Run α) (f : α → Run β) : Run β :=
  match x.outcome with
  | .ok a => ⟨x.events ++ (f a).events, (f a).outcome⟩
  | .error e => ⟨x.events, .error e⟩

instance : Monad Run where
  pure := Run.pure
  bind := Run.bind

/-- One event. -/
def emit (e : Event) : Run Unit :=
  ⟨[e], .ok ()⟩

/-- A result that may be a fault, with the failure that the fault is. -/
def lift {ε : Type} (failure : ε → Failure) : Except ε α → Run α
  | .ok a => ⟨[], .ok a⟩
  | .error e => ⟨[], .error (failure e)⟩

/-- An entry of the log. -/
def log (level : Level) (source : Source) (message : Text) : Run Unit :=
  emit (.logged ⟨level, source, message⟩)

/-- Work after which the database is closed, however the work ends. -/
def closing (x : Run α) : Run α :=
  ⟨x.events ++ [.closed], x.outcome⟩

/-- A run without the log entries below a threshold. -/
def atLeast (threshold : Level) (x : Run α) : Run α :=
  ⟨x.events.filter fun
    | .logged entry => threshold.weight ≤ entry.level.weight
    | _ => true, x.outcome⟩

/-! ### What is seen of a run -/

/-- The log entries, in order. -/
def logEntries (x : Run α) : List LogEntry :=
  x.events.filterMap fun
    | .logged entry => some entry
    | _ => none

/-- The lines of the output. -/
def output (x : Run α) : List Text :=
  x.events.filterMap fun
    | .printed line => some line
    | _ => none

/-- The lines of the error output, log entries among them. -/
def errorOutput (x : Run α) : List Text :=
  x.events.filterMap fun
    | .logged entry => some entry.line
    | .complained line => some line
    | _ => none

/-- The statements handed to the database. -/
def statements (x : Run α) : List Statement :=
  x.events.filterMap fun
    | .executed statement => some statement
    | _ => none

/-- The path of the database that was to be opened, if any, whether or not it could be. -/
def path? (x : Run α) : Option Text :=
  x.events.findSome? fun
    | .opened path | .unopened path => some path
    | _ => none

/-- Whether the database was closed. -/
def isClosed (x : Run α) : Bool :=
  x.events.contains .closed

@[simp] theorem bind_ok (events : List Event) (a : α) (f : α → Run β) :
    ((⟨events, .ok a⟩ : Run α) >>= f) = ⟨events ++ (f a).events, (f a).outcome⟩ := rfl

@[simp] theorem bind_error (events : List Event) (e : Failure) (f : α → Run β) :
    ((⟨events, .error e⟩ : Run α) >>= f) = ⟨events, .error e⟩ := rfl

end Run

end Listing
