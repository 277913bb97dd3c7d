import Listing.Config.Environment
import Listing.Log
import Listing.Text.Quoted

/-!
# The threshold of the log

The level that is asked for, else that of the environment, else `INFO`. Unlike the settings, the
threshold goes by every name of a level, and the variable has to be named exactly.
-/

namespace Listing

/-- The name of the level under which entries are not shown, in upper case. -/
def thresholdName (asked : Option Text) (env : Environment) : Text :=
  let given (t : Option Text) : Option Text := t.filter fun t => !t.isEmpty
  Text.uppercase (((given asked).or (given (env.get? .logLevel))).getD "INFO")

/-- The level under which entries are not shown, or a name that is none. -/
def threshold (asked : Option Text) (env : Environment) : Except Text Level :=
  let name := thresholdName asked env
  match Level.ofName? name with
  | some level => .ok level
  | none => .error name

/-- The message about a name that is no level. -/
def unknownLevelMessage (name : Text) : Text :=
  "Unknown level: " ++ Text.quoted name

end Listing
