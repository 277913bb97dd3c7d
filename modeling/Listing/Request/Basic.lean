import Listing.Filters
import Listing.Sorting

/-!
# Requests for a listing

A request says which rows of a table are wanted (filters), in which order, and which page of them:
at most `limit` rows after the first `offset`. The numbers of a page are signed 64-bit integers
that are not negative; whoever sets one hands in any whole number and learns why it was refused.
-/

namespace Listing

/-- The two numbers of a page. -/
inductive PageKey where
  | limit
  | offset
deriving DecidableEq, Repr

namespace PageKey

/-- The name of the number in a query string. -/
def word : PageKey → Text
  | limit => "limit"
  | offset => "offset"

/-- The number of a request that names none. -/
def default : PageKey → Nat
  | limit => 50
  | offset => 0

end PageKey

/-- The greatest number of a page. -/
def maxPage : Nat := 0x7FFFFFFFFFFFFFFF

/-- Why a whole number is no number of a page. -/
inductive PageFault where
  | negative
  | tooLarge
deriving DecidableEq, Repr

/-- The number of a page that a whole number is. -/
def checkPage (n : Int) : Except PageFault Nat :=
  if n < 0 then .error .negative
  else if maxPage < n then .error .tooLarge
  else .ok n.toNat

/-- A request for a page of a filtered and sorted listing. -/
structure Request where
  filters : Filters := {}
  sorting : Sorting := {}
  limit : Nat := PageKey.limit.default
  offset : Nat := PageKey.offset.default
deriving DecidableEq, Repr

namespace Request

/-- The request with one number of its page replaced. -/
def setPage (r : Request) (key : PageKey) (n : Nat) : Request :=
  match key with
  | .limit => { r with limit := n }
  | .offset => { r with offset := n }

/-- Sets a number of the page, if it is one. -/
def setPage? (r : Request) (key : PageKey) (n : Int) : Except PageFault Request :=
  (checkPage n).map (r.setPage key)

/-- The faults of two numbers for a page, each with its key, limit before offset. -/
def pageFaults (limit offset : Int) : List (PageKey × PageFault) :=
  let fault (key : PageKey) (n : Int) : List (PageKey × PageFault) :=
    match checkPage n with
    | .error f => [(key, f)]
    | .ok _ => []
  fault .limit limit ++ fault .offset offset

/-- A request with the given filters and order for a page, if both numbers of the page are in
range. -/
def ofParts (filters : Filters) (sorting : Sorting) (limit offset : Int) :
    Except (List (PageKey × PageFault)) Request :=
  match pageFaults limit offset with
  | [] => .ok ⟨filters, sorting, limit.toNat, offset.toNat⟩
  | faults => .error faults

/-- The request with only the filters on the named fields. -/
def keep (r : Request) (names : List Text) : Request :=
  { r with filters := r.filters.keep names }

/-- The request without the filters on the named fields. -/
def drop (r : Request) (names : List Text) : Request :=
  { r with filters := r.filters.drop names }

/-- The request for a page of at most `cap` rows. -/
def clamp (r : Request) (cap : Int) : Except PageFault Request :=
  r.setPage? .limit (min r.limit cap)

/-- The names of all fields that the request speaks of, filters before sort fields. -/
def fieldNames (r : Request) : List Text :=
  r.filters.names ++ r.sorting.names

/-- Two numbers make a page exactly when both are in range. -/
theorem pageFaults_eq_nil {limit offset : Int} :
    pageFaults limit offset = [] ↔
      (0 ≤ limit ∧ limit ≤ maxPage) ∧ (0 ≤ offset ∧ offset ≤ maxPage) := by
  have h (n : Int) : (∃ f, checkPage n = .error f) ∨
      (0 ≤ n ∧ n ≤ maxPage ∧ checkPage n = .ok n.toNat) := by
    unfold checkPage
    split
    · exact Or.inl ⟨_, rfl⟩
    · split
      · exact Or.inl ⟨_, rfl⟩
      · exact Or.inr ⟨by omega, by omega, rfl⟩
  have range {n : Int} {f : PageFault} (hf : checkPage n = .error f) : ¬(0 ≤ n ∧ n ≤ maxPage) := by
    unfold checkPage at hf
    split at hf
    · omega
    · split at hf
      · omega
      · cases hf
  rcases h limit with ⟨f, hl⟩ | ⟨h1, h2, hl⟩
  · have := range hl
    simp only [pageFaults, hl]
    constructor
    · intro h'
      cases h'
    · intro h'
      exact absurd h'.1 this
  · rcases h offset with ⟨f, ho⟩ | ⟨h3, h4, ho⟩
    · have := range ho
      simp only [pageFaults, hl, ho]
      constructor
      · intro h'
        cases h'
      · intro h'
        exact absurd h'.2 this
    · simp [pageFaults, hl, ho, h1, h2, h3, h4]

end Request

end Listing
