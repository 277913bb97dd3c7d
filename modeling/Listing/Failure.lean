import Listing.Cell
import Listing.Config.Settings
import Listing.Request.Token
import Listing.Sql.Value

/-!
# Failures

Everything that can end a piece of work, with its cause.
-/

namespace Listing

/-- Why a piece of work ended early. -/
inductive Failure where
  /-- The query string cannot be read. -/
  | request (fault : Fault)
  /-- A number is no number of a page. -/
  | page (key : PageKey) (fault : PageFault)
  /-- A value cannot be bound. -/
  | value (fault : Sql.ValueFault)
  /-- The request speaks of a field that it may not speak of. -/
  | disallowed (name : Text)
  /-- The database could not be opened, or refused a statement. -/
  | database (message : Text)
  /-- The database answered a count with something else. -/
  | count (fault : CountFault)
  /-- Variables of the environment cannot be used. -/
  | settings (faults : List (Variable × SettingFault))
  /-- No database is named. -/
  | noDatabase
  /-- The allowed fields are needed, and the option for them has no value. -/
  | noAllowList
deriving DecidableEq, Repr

namespace Failure

/-- The message about a field that a request may not speak of. -/
def disallowedMessage (name : Text) : Text :=
  "DisallowedField: " ++ Text.quoted name

/-- What went wrong, in words. -/
def message : Failure → Text
  | request (.malformed cause) => cause.message
  | request .tooManyDigits | value .tooManyDigits => "too many digits"
  | page key .negative => key.word ++ " is negative"
  | page key .tooLarge => key.word ++ " is too large"
  | value (.outOfRange n) => "integer out of 64-bit range: " ++ Numeral.ofInt n
  | disallowed name => disallowedMessage name
  | database message => message
  | count fault => fault.message
  | settings faults =>
    "Invalid environment configuration: " ++ Text.joined ", " (faults.map fun e => e.1.name)
  | noAllowList => "the option for the allowed fields has no value"
  | noDatabase => "DATABASE_URL is required (set it in .env or environment)"

end Failure

end Listing
