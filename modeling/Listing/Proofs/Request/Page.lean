import Mathlib
import Listing.Request.Basic

/-!
# The numbers of a page

A number of the page is set if it is in range and refused otherwise.  A page that is cut down stays
in range whatever the cap is, unless that is negative: the lesser of a limit and a cap is never too
large.
-/

namespace Listing

lemma checkPage_eq_ok_iff {n : ℤ} {m : ℕ} :
    checkPage n = .ok m ↔ (0 ≤ n ∧ n ≤ maxPage) ∧ n.toNat = m := by
  rw [checkPage]
  split
  · next h => simp [h]
  · next h =>
    split
    · next h' => simp [h']
    · next h' => simp [not_lt.1 h, not_lt.1 h']

/-- A number is refused exactly if it is out of range. -/
lemma checkPage_eq_error_iff {n : ℤ} :
    (∃ fault, checkPage n = .error fault) ↔ n < 0 ∨ maxPage < n := by
  rw [checkPage]
  split
  · next h => simp [h]
  · next h =>
    split
    · next h' => simp [h']
    · next h' => simp [h, h']

namespace Request

variable {r r' : Request}

lemma setPage?_eq_ok_iff {key : PageKey} {n : ℤ} :
    r.setPage? key n = .ok r' ↔ (0 ≤ n ∧ n ≤ maxPage) ∧ r.setPage key n.toNat = r' := by
  rw [setPage?]
  cases h : checkPage n with
  | error fault =>
    have hrange : ¬(0 ≤ n ∧ n ≤ maxPage) := by
      have := checkPage_eq_error_iff.1 ⟨fault, h⟩
      omega
    simp [Except.map, hrange]
  | ok m =>
    obtain ⟨hrange, rfl⟩ := checkPage_eq_ok_iff.1 h
    simp [Except.map, hrange]

lemma setPage?_eq_error_iff {key : PageKey} {n : ℤ} :
    (∃ fault, r.setPage? key n = .error fault) ↔ n < 0 ∨ maxPage < n := by
  rw [← checkPage_eq_error_iff, setPage?]
  cases checkPage n <;> simp [Except.map]

/-- **A page that is cut down** has the lesser of both numbers as its limit and is otherwise the
same. -/
lemma clamp_eq_ok_iff (h : r.limit ≤ maxPage) {cap : ℤ} :
    r.clamp cap = .ok r' ↔ 0 ≤ cap ∧ { r with limit := min r.limit cap.toNat } = r' := by
  have hrange : (0 ≤ min (r.limit : ℤ) cap ∧ min (r.limit : ℤ) cap ≤ maxPage) ↔ 0 ≤ cap := by
    omega
  have hmin : (min (r.limit : ℤ) cap).toNat = min r.limit cap.toNat := by omega
  rw [clamp, setPage?_eq_ok_iff, hrange, hmin, setPage]

/-- Only a negative cap is refused. -/
lemma clamp_eq_error_iff (h : r.limit ≤ maxPage) {cap : ℤ} :
    (∃ fault, r.clamp cap = .error fault) ↔ cap < 0 := by
  rw [clamp, setPage?_eq_error_iff]
  omega

end Request

end Listing
