import Listing.Request.Basic
import Listing.Numeral

/-!
# Writing a request as a query string

The filters come first, then the order if it names any field, then both numbers of the page.
-/

namespace Listing.Request

/-- A number of the page as a token. -/
def pageToken (key : PageKey) (n : Nat) : Text :=
  key.word ++ '=' :: Numeral.ofNat n

/-- The order as a token; an order without fields is left out. -/
def orderTokens (s : Sorting) : List Text :=
  let t := Sorting.text s
  if t.isEmpty then [] else ["order=" ++ t]

/-- The request as tokens of a query string. -/
def tokens (r : Request) : List Text :=
  Filters.tokens r.filters ++ orderTokens r.sorting ++
    [pageToken .limit r.limit, pageToken .offset r.offset]

/-- The request as a query string. -/
def text (r : Request) : Text :=
  Text.joined "&" r.tokens

/-- The query string of a request that asks for nothing in particular. -/
def defaultText : Text :=
  text {}

end Listing.Request
