import Listing.Text.Uppercase

/-!
# Log entries

An entry of the log has a level, the part of the program that made it, and a message.
-/

namespace Listing

/-- How urgent a log entry is. -/
inductive Level where
  | notSet
  | debug
  | info
  | warning
  | error
  | critical
deriving DecidableEq, Repr

namespace Level

/-- The weight of a level; an entry passes a threshold of at most its own weight. -/
def weight : Level → Nat
  | notSet => 0
  | debug => 10
  | info => 20
  | warning => 30
  | error => 40
  | critical => 50

/-- The name of a level. -/
def name : Level → Text
  | notSet => "NOTSET"
  | debug => "DEBUG"
  | info => "INFO"
  | warning => "WARNING"
  | error => "ERROR"
  | critical => "CRITICAL"

/-- Every name of a level; two levels have a second, shorter one. -/
def names : List (Text × Level) :=
  [("CRITICAL", critical), ("FATAL", critical), ("ERROR", error), ("WARN", warning),
    ("WARNING", warning), ("INFO", info), ("DEBUG", debug), ("NOTSET", notSet)]

/-- The level with this name. -/
def ofName? (t : Text) : Option Level :=
  (names.find? fun e => e.1 == t).map Prod.snd

end Level

/-- The parts of the program that keep a log. -/
inductive Source where
  | reading
  | fetching
  | command
deriving DecidableEq, Repr

/-- The name of a part of the program in the log. -/
def Source.name : Source → Text
  | reading => "src.query.model"
  | fetching => "src.db.query"
  | command => "src.cli"

/-- An entry of the log. -/
structure LogEntry where
  level : Level
  source : Source
  message : Text
deriving DecidableEq, Repr

/-- The entry as a line of the log. -/
def LogEntry.line (e : LogEntry) : Text :=
  e.level.name ++ ' ' :: e.source.name ++ ' ' :: e.message

end Listing
