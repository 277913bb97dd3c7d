import Listing.Config.Environment
import Listing.Failure

/-!
# Where the database is

A database is named by a path, with or without a scheme in front. Where no name is given at all,
the environment has to give one; an empty name that is given counts as given.
-/

namespace Listing.Store

/-- The scheme that may stand in front of a path. -/
def scheme : Text := "sqlite://"

/-- The path in the name of a database. -/
def path (url : Text) : Text :=
  if scheme.isPrefixOf url then url.drop scheme.length else url

/-- The name of the database that the environment gives, which has to be there and not empty. -/
def requiredUrl (env : Environment) : Except Failure Text :=
  match env.get? .databaseUrl with
  | some url => if url.isEmpty then .error .noDatabase else .ok url
  | none => .error .noDatabase

/-- The path of the named database, or of the one that the environment names. -/
def locate (url : Option Text) (env : Environment) : Except Failure Text :=
  match url with
  | some url => .ok (path url)
  | none => (requiredUrl env).map path

end Listing.Store
