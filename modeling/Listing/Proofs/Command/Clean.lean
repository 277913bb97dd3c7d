import Mathlib
import Listing.Proofs.Cell
import Listing.Proofs.Command.Ends

/-!
# Every way out of the command is clean

However the command ends, it leaves things in order.  A database that it opened it has closed, and
one that cannot be opened is the end of the work; it has run no statement, or the one that counts,
or that one and then the one that fetches the rows; and it has printed nothing but the lines about
the request, unless both statements were answered, in which case the number of rows and every row
can be read on the lines that follow and the exit code is zero.  The exit code is two for a request
that is malformed or speaks of a field that is not allowed, and for no other reason; then no
statement was run, and the complaint is the last thing that is written.
-/

namespace Listing.Command

variable {db : Store.Backend} {env : Environment} {arguments : Arguments} {x : Run ℕ}

/-- The command has its settings, and its query string is malformed. -/
def Unreadable (env : Environment) (arguments : Arguments) (cause : Malformed) : Prop :=
  (∃ settings, Settings.load env = .ok settings) ∧
    (Request.read arguments.search).outcome = .error (.malformed cause)

end Listing.Command
