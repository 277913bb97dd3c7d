import Listing.Request.Basic
import Listing.Numeral

/-!
# The tokens of a query string

A query string is a list of tokens, and each token is read by itself, whatever stands around it. A
token that can be read is applied to the request that the earlier tokens made; this always
succeeds, but a token whose value is of no use there leaves a note.
-/

namespace Listing

/-- Why a query string cannot be read. -/
inductive Fault where
  | malformed (cause : Malformed)
  /-- A number of the page has more digits than are ever converted. -/
  | tooManyDigits
deriving DecidableEq, Repr

/-- What a token of a query string asks for. -/
inductive Token where
  /-- Nothing: the token is blank, or it has no value. -/
  | nothing
  /-- Sorting by an order, which may turn out to be unreadable. -/
  | order (text : Text)
  /-- A number of the page, which may turn out to be none. -/
  | page (key : PageKey) (text : Text)
  /-- A filter that replaces any earlier one of its field. -/
  | filter (name : Text) (filter : Filter)
  /-- A value that a field has to equal, beside those asked for before. -/
  | value (name : Text) (value : Text)
deriving DecidableEq, Repr

namespace Token

/-- Reads the value of a number of the page: only a run of digits beyond all bounds is refused. -/
def readPage (key : PageKey) (value : Text) : Except Fault Token :=
  if Numeral.isDigits value && (Numeral.value? value).isNone then .error .tooManyDigits
  else .ok (.page key value)

/-- Reads the value of a field: a filter if it has a colon, else a plain value. -/
def readField (name value : Text) : Except Fault Token :=
  if value.contains ':' then
    match Filter.read value with
    | .error cause => .error (.malformed cause)
    | .ok f => .ok (if f.values.isEmpty then .nothing else .filter name f)
  else
    let plain := Text.Percent.decode value
    .ok (if Text.blank plain then .nothing else .value name plain)

/-- Reads a key and its value, both trimmed, the value not empty. -/
def readPair (key value : Text) : Except Fault Token :=
  if key = "order" then
    if value.contains ':' then .ok (.order value) else .error (.malformed (.sortItem value))
  else if key = PageKey.limit.word then readPage .limit value
  else if key = PageKey.offset.word then readPage .offset value
  else readField key value

/-- Reads a token: one equals sign, a key before it and a value after it. -/
def read (t : Text) : Except Fault Token :=
  if Text.blank t then .ok .nothing
  else
    match t.splitOn '=' with
    | [key, rest] =>
      if Text.blank key then .error (.malformed (.pair t))
      else if Text.blank rest then .ok .nothing
      else readPair (Text.trim key) (Text.trim rest)
    | _ => .error (.malformed (.pair t))

/-- The number of a page that a text denotes, if it is a run of digits and in range. -/
def pageNumber? (t : Text) : Option Nat :=
  if Numeral.isDigits t && Numeral.value t ≤ maxPage then some (Numeral.value t) else none

end Token

namespace Request

/-- Asks for one more value that a field has to equal. A field with another comparison keeps its
filter. -/
def addValue (r : Request) (name value : Text) : Request :=
  match r.filters.get? name with
  | none => { r with filters := r.filters.set name (.of .equals [value]) }
  | some f =>
    if f.comparison = .equals then { r with filters := r.filters.set name (f.append value) } else r

/-- The request after one more token. An order that cannot be read changes nothing; a number of
the page that cannot be read becomes the default. -/
def apply (r : Request) : Token → Request
  | .nothing => r
  | .order t =>
    match Sorting.read t with
    | .ok sorting => { r with sorting := sorting }
    | .error _ => r
  | .page key t => r.setPage key ((Token.pageNumber? t).getD key.default)
  | .filter name f => { r with filters := r.filters.set name f }
  | .value name v => r.addValue name v

end Request

end Listing
