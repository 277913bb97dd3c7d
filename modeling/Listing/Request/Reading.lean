import Listing.Request.Note

/-!
# Reading a request from a query string

The tokens of a query string are read and applied from left to right. The first token that cannot
be read ends the reading; the notes up to there remain.
-/

namespace Listing

/-- What comes of reading a query string: the notes in order, and the request or the first fault.
-/
structure Reading where
  notes : List Note
  outcome : Except Fault Request

namespace Request

/-- The tokens of a query string, with or without the question mark in front. -/
def splitTokens (search : Text) : List Text :=
  let t :=
    match Text.trim search with
    | '?' :: rest => Text.trim rest
    | t => t
  t.splitOn '&'

/-- Reads tokens one after the other and applies each to the request so far. -/
def readTokens (r : Request) : List Text → Reading
  | [] => ⟨[], .ok r⟩
  | t :: rest =>
    match Token.read t with
    | .error fault => ⟨[], .error fault⟩
    | .ok token =>
      let later := readTokens (r.apply token) rest
      ⟨(r.note? token).toList ++ later.notes, later.outcome⟩

/-- Reads a request from a query string. -/
def read (search : Text) : Reading :=
  readTokens {} (splitTokens search)

end Request

end Listing
