import Listing.Text.Basic
import Listing.Text.Printable
import Listing.Text.Uppercase
import Listing.Text.Decimal
import Listing.Text.Quoted
import Listing.Text.Utf8
import Listing.Text.Percent
import Listing.Numeral
import Listing.Double.Basic
import Listing.Double.Reading
import Listing.Double.Shortest
import Listing.Double.Notation
import Listing.Malformed
import Listing.Comparison
import Listing.Direction
import Listing.Fields
import Listing.Filter
import Listing.Filters
import Listing.Sorting
import Listing.Request.Basic
import Listing.Request.Token
import Listing.Request.Note
import Listing.Request.Reading
import Listing.Request.Printing
import Listing.Sql.Value
import Listing.Sql.Condition
import Listing.Sql.Fragment
import Listing.Display
import Listing.Log
import Listing.Cell
import Listing.Config.Environment
import Listing.Config.Settings
import Listing.Config.Threshold
import Listing.Failure
import Listing.Run
import Listing.Store.Location
import Listing.Store.Fetch
import Listing.Command.Arguments
import Listing.Command.Execute
import Listing.Main
import Listing.Proofs.Elementwise
import Listing.Proofs.Text.Trimming
import Listing.Proofs.Text.Splitting
import Listing.Proofs.Text.Percent
import Listing.Proofs.Text.Spelling
import Listing.Proofs.Text.Lines
import Listing.Proofs.Text.Quoted
import Listing.Proofs.Text.Pattern
import Listing.Proofs.Text.Cells
import Listing.Proofs.Numeral
import Listing.Proofs.Run
import Listing.Proofs.Fields
import Listing.Proofs.Request.Built
import Listing.Proofs.Sorting
import Listing.Proofs.Writes
import Listing.Proofs.Request.Grammar
import Listing.Proofs.Request.Spelling
import Listing.Proofs.Request.RoundTrip
import Listing.Proofs.Sql.Values
import Listing.Proofs.Double
import Listing.Proofs.Double.Notation
import Listing.Proofs.Double.Rounding
import Listing.Proofs.Double.Shortest
import Listing.Proofs.Double.Writing
import Listing.Proofs.Cell
import Listing.Proofs.Sql.Announcing
import Listing.Proofs.Sql.Typing
import Listing.Proofs.Sql.Shown
import Listing.Proofs.Sql.Conditions
import Listing.Proofs.Sql.Placeholders
import Listing.Proofs.Sql.Grammar
import Listing.Proofs.Sql.Lexing
import Listing.Proofs.Sql.Reading
import Listing.Proofs.Request.Asking
import Listing.Proofs.Request.Range
import Listing.Proofs.Request.Rereading
import Listing.Proofs.Request.Faults
import Listing.Proofs.Request.Merging
import Listing.Proofs.Request.Page
import Listing.Proofs.Config.Settings
import Listing.Proofs.Store.Fetching
import Listing.Proofs.Store.Shape
import Listing.Proofs.Command.Statements
import Listing.Proofs.Store.Gate
import Listing.Proofs.Sql.Alternatives
import Listing.Proofs.Store.Counting
import Listing.Proofs.Command.Ends
import Listing.Proofs.Command.Clean
import Listing.Proofs.Command.Paging
import Listing.Proofs.Request.Editing
import Listing.Proofs.Request.Checks
import Listing.Proofs.Request.Rearranging
import Listing.Proofs.Request.Latest
import Listing.Proofs.Request.Noise
import Listing.Proofs.Request.Shorthand
import Listing.Proofs.Sql.Compiling
import Listing.Proofs.Sql.Nulls
import Listing.Proofs.Sql.Restricting
import Listing.Proofs.Sql.Patterns
import Listing.Proofs.Request.Noting
import Listing.Proofs.Command.Lines
import Listing.Proofs.Command.Locating
