import Listing.Text.Basic

/-!
# Environment variables
-/

namespace Listing

/-- The environment, as variables with their values. -/
abbrev Environment := List (Text × Text)

/-- The variables that are read. -/
inductive Variable where
  | databaseUrl
  | logLevel
  | maxLimit
deriving DecidableEq, Repr

/-- The name of a variable. -/
def Variable.name : Variable → Text
  | databaseUrl => "DATABASE_URL"
  | logLevel => "LOG_LEVEL"
  | maxLimit => "QUERY_MAX_LIMIT"

namespace Environment

/-- The value of a variable under exactly its name. -/
def get? (env : Environment) (v : Variable) : Option Text :=
  (env.find? fun e => e.1 == v.name).map Prod.snd

/-- The value of a variable under its name in any case; of several, the last. -/
def getAnyCase? (env : Environment) (v : Variable) : Option Text :=
  (env.reverse.find? fun e => e.1.map Char.toUpper == v.name).map Prod.snd

end Environment

end Listing
