import Mathlib
import Listing.Proofs.Request.Asking
import Listing.Proofs.Request.Editing

/-!
# Reading never runs into a check

Whoever edits a request writes its filters under names that are checked, and numbers of the page
that are checked.  Reading writes without these checks, since none of them can fail there: a token
asks for no filter under a reserved name, and a number of the page that is out of range has already
become the default.  So reading with all checks in place comes to the same.
-/

namespace Listing.Editing

/-- The request with a filter on a field, unless the name is reserved. -/
def insertFilter (r : Request) (name : Text) (f : Filter) : Except Refusal Request :=
  withFilters r (r.filters.insert name f)

/-- The request after one more token, where whatever is written is checked. -/
def applyChecked (r : Request) : Token → Except Refusal Request
  | .nothing => .ok r
  | .order t =>
    match withSorting r (Sorting.read t) with
    | .ok r' => .ok r'
    | .error _ => .ok r
  | .page key t =>
    (r.setPage? key ((Token.pageNumber? t).getD key.default)).mapError
      fun fault => .page [(key, fault)]
  | .filter name f => insertFilter r name f
  | .value name v =>
    match r.filters.get? name with
    | none => insertFilter r name (.of .equals [v])
    | some f => if f.comparison = .equals then insertFilter r name (f.append v) else .ok r

/-- The request after more tokens, where whatever is written is checked. -/
def readChecked (r : Request) : List Text → Except Refusal Request
  | [] => .ok r
  | t :: rest => do
    let token ← (Token.read t).mapError .unreadable
    let r' ← applyChecked r token
    readChecked r' rest

lemma insertFilter_eq_ok {name : Text} (h : name ∉ Filters.reserved) (r : Request) (f : Filter) :
    insertFilter r name f = .ok { r with filters := r.filters.set name f } := by
  rw [insertFilter, Filters.insert_eq_ok_iff.2 ⟨h, rfl⟩]
  rfl

/-- **One token** that was read is applied by checked writes, and none of them is refused. -/
lemma applyChecked_of_read {t : Text} {token : Token} (h : Token.read t = .ok token)
    (r : Request) : applyChecked r token = .ok (r.apply token) := by
  cases Token.read_eq_ok_iff_asks.1 h with
  | blank | noValue | noFilter | blankValue => rfl
  | @order value =>
    rw [applyChecked, Request.apply, withSorting]
    cases Sorting.read value <;> rfl
  | @page value key =>
    have hrange : (Token.pageNumber? value).getD key.default ≤ maxPage := by
      cases hnumber : Token.pageNumber? value with
      | none => cases key <;> decide
      | some n => exact Token.pageNumber?_le hnumber
    rw [applyChecked, Request.setPage?_eq_ok_iff.2 ⟨⟨by omega, by exact_mod_cast hrange⟩, rfl⟩]
    rfl
  | filter _ hkey => exact insertFilter_eq_ok hkey r _
  | @value key value _ hkey =>
    rw [applyChecked, Request.apply, Request.addValue]
    cases r.filters.get? key with
    | none => exact insertFilter_eq_ok hkey r _
    | some f =>
      dsimp only
      split
      · exact insertFilter_eq_ok hkey r _
      · rfl

/-- **A run of tokens** comes to the same with all checks. -/
theorem readChecked_eq (r : Request) (ts : List Text) :
    readChecked r ts = (r.readTokens ts).outcome.mapError .unreadable := by
  induction ts generalizing r with
  | nil => rfl
  | cons t ts ih =>
    rw [readChecked, Request.readTokens]
    cases hread : Token.read t with
    | error fault => rfl
    | ok token =>
      change (applyChecked r token >>= fun r' => readChecked r' ts) = _
      rw [applyChecked_of_read hread]
      exact ih (r.apply token)

end Listing.Editing
