import Listing.Request.Token

/-!
# Notes on what a query string asked for in vain

Reading a query string is lenient in three places, and each leaves a note: an order that cannot be
read is ignored, a number of the page that cannot be read becomes the default, and a plain value
for a field that is already compared in another way is discarded.
-/

namespace Listing

/-- What was asked for in vain, and why. -/
inductive Note where
  | ignoredOrder (text : Text) (cause : Malformed)
  | defaultedPage (key : PageKey) (text : Text)
  | discardedValue (name value : Text) (comparison : Comparison)
deriving DecidableEq, Repr

namespace Note

/-- The note as a line of a log. -/
def text : Note → Text
  | ignoredOrder t cause => "ignoring order " ++ Text.quoted t ++ ": " ++ cause.message
  | defaultedPage key t =>
    key.word ++ "=" ++ Text.quoted t ++ " is not an unsigned integer; using " ++
      Numeral.ofNat key.default
  | discardedValue name value comparison =>
    "discarding bare " ++ name ++ "=" ++ Text.quoted value ++ "; already filtered by " ++
      comparison.word

end Note

namespace Request

/-- The note that a token leaves when it is applied to a request. -/
def note? (r : Request) : Token → Option Note
  | .order t =>
    match Sorting.read t with
    | .ok _ => none
    | .error cause => some (.ignoredOrder t cause)
  | .page key t => if (Token.pageNumber? t).isSome then none else some (.defaultedPage key t)
  | .value name v =>
    match r.filters.get? name with
    | none => none
    | some f => if f.comparison = .equals then none else some (.discardedValue name v f.comparison)
  | .nothing | .filter _ _ => none

end Request

end Listing
