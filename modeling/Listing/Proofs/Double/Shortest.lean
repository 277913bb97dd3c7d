import Mathlib
import Listing.Double.Shortest
import Listing.Proofs.Double.Rounding

/-!
# The shortest decimal of a double rounds to it

The search tries the two neighbours of a double on one decimal grid after the other, and takes the
first number that is in the interval of the double.  On the grid with seventeen digits the step is
shorter than the interval is wide on either side of the value, so one of the neighbours is in the
interval and the search does not fail.  What it finds, with its zeros at the end dropped, rounds to
the double.
-/

namespace Listing.Double

variable {s : ℕ} {p : ℤ}

lemma ten_zpow_pos (e : ℤ) : (0 : ℚ) < 10 ^ e :=
  zpow_pos (by norm_num) e

/-- A quotient that is scaled by a power of ten is multiplied by it. -/
lemma scaleTen_spec {num den n d : ℕ} {power : ℤ} (hden : 0 < den)
    (h : scaleTen num den power = (n, d)) : 0 < d ∧ (n : ℚ) / d = num / den * 10 ^ power := by
  rw [scaleTen] at h
  split at h
  · next hpower =>
    obtain ⟨k, rfl⟩ := Int.eq_ofNat_of_zero_le hpower
    obtain ⟨rfl, rfl⟩ := Prod.mk.inj h
    rw [Int.toNat_natCast, zpow_natCast, Nat.pow_eq, Nat.cast_mul, Nat.cast_pow, Nat.cast_ofNat,
      mul_div_right_comm]
    exact ⟨hden, rfl⟩
  · next hpower =>
    obtain ⟨k, hk⟩ : ∃ k : ℕ, -power = k := Int.eq_ofNat_of_zero_le (by omega)
    obtain rfl : power = -k := by omega
    obtain ⟨rfl, rfl⟩ := Prod.mk.inj h
    rw [neg_neg, Int.toNat_natCast, zpow_neg, zpow_natCast, Nat.pow_eq, Nat.cast_mul, Nat.cast_pow,
      Nat.cast_ofNat, ← div_eq_mul_inv, div_div]
    exact ⟨by positivity, rfl⟩

/-! ### The interval -/

/-- The interval in quarters of a unit is the one of the numbers that round to the double. -/
lemma interval_spec (hs : 0 < s) (p : ℤ) :
    0 < (Interval.of s p).den ∧
      ((Interval.of s p).low : ℚ) / (Interval.of s p).den = (s - margin s p) * 2 ^ p ∧
      ((Interval.of s p).value : ℚ) / (Interval.of s p).den = s * 2 ^ p ∧
      ((Interval.of s p).high : ℚ) / (Interval.of s p).den = (s + 1 / 2) * 2 ^ p ∧
      ((Interval.of s p).closed = true ↔ s % 2 = 0) := by
  obtain ⟨⟨unit, den⟩, hscaled⟩ : ∃ scaled, scaleDown 1 4 (-p) = scaled := ⟨_, rfl⟩
  obtain ⟨hden, hunit⟩ := scaleDown_spec (by omega) hscaled
  have hquarter : (unit : ℚ) / den = 2 ^ p / 4 := by
    rw [hunit, zpow_neg, div_inv_eq_mul]
    push_cast
    ring
  have hmargin : ((4 * s - (if s = fractions ∧ -1074 < p then 1 else 2) : ℕ) : ℚ) =
      4 * (s - margin s p) := by
    rw [margin, Nat.cast_sub (by split <;> omega)]
    split <;> push_cast <;> ring
  simp only [Interval.of, hscaled, decide_eq_true_eq]
  refine ⟨hden, ?_, ?_, ?_, trivial⟩
  · rw [Nat.cast_mul, hmargin, mul_div_assoc, hquarter]
    ring
  · rw [Nat.cast_mul, mul_div_assoc, hquarter]
    push_cast
    ring
  · rw [Nat.cast_mul, mul_div_assoc, hquarter]
    push_cast
    ring

/-- The search asks for the numbers that round to the double. -/
lemma contains_iff (hs : 0 < s) {n : ℕ} {e : ℤ} :
    (Interval.of s p).contains n e = true ↔ Rounds s p (n * 10 ^ e) := by
  obtain ⟨hden, hlow, -, hhigh, hclosed⟩ := interval_spec hs p
  obtain ⟨⟨num, d⟩, hscaled⟩ : ∃ scaled, scaleTen n 1 e = scaled := ⟨_, rfl⟩
  obtain ⟨hd, hvalue⟩ := scaleTen_spec (by omega) hscaled
  have hdq : (0 : ℚ) < d := by exact_mod_cast hd
  have hdenq : (0 : ℚ) < (Interval.of s p).den := by exact_mod_cast hden
  rw [Nat.cast_one, div_one] at hvalue
  rw [Interval.contains, ← hvalue]
  simp only [hscaled]
  have hle {a b : ℕ} : a * d ≤ b * (Interval.of s p).den ↔
      (a / (Interval.of s p).den : ℚ) ≤ b / d := by
    rw [div_le_div_iff₀ hdenq hdq]
    exact_mod_cast Iff.rfl
  have hle' {a b : ℕ} : b * (Interval.of s p).den ≤ a * d ↔
      (b / d : ℚ) ≤ a / (Interval.of s p).den := by
    rw [div_le_div_iff₀ hdq hdenq]
    exact_mod_cast Iff.rfl
  split
  · next h =>
    have heven := hclosed.1 h
    simp only [Bool.and_eq_true, decide_eq_true_eq, hle, hle', hlow, hhigh]
    exact ⟨fun ⟨hlow, hhigh⟩ => ⟨hlow, hhigh, fun hodd => by omega⟩, fun h => ⟨h.low, h.high⟩⟩
  · next h =>
    have hodd : s % 2 = 1 := by
      have := mt hclosed.2 h
      omega
    simp only [Bool.and_eq_true, decide_eq_true_eq, ← not_le, hle, hle', hlow, hhigh]
    simp only [not_le]
    exact ⟨fun ⟨hlow, hhigh⟩ => ⟨hlow.le, hhigh.le, fun _ => ⟨hlow, hhigh⟩⟩, fun h => h.inside hodd⟩

/-! ### The neighbours of the value -/

/-- What lies strictly between the ends rounds to the double. -/
lemma rounds_of_lt {r : ℚ} (hlow : (s - margin s p) * 2 ^ p < r) (hhigh : r < (s + 1 / 2) * 2 ^ p) :
    Rounds s p r :=
  ⟨hlow.le, hhigh.le, fun _ => ⟨hlow, hhigh⟩⟩

/-- If the step of a grid is small enough, one of the two neighbours of the value on the grid rounds
to the double. -/
lemma rounds_or_rounds (hs : Regular s p) {step below : ℚ} (hstep : step * 10 ^ 16 ≤ s * 2 ^ p)
    (hpos : 0 < step) (hbelow : below ≤ s * 2 ^ p) (habove : s * 2 ^ p < below + step) :
    Rounds s p below ∨ Rounds s p (below + step) := by
  have hunit := two_zpow_pos p
  have hs' : (s : ℚ) < 2 * fractions := by exact_mod_cast hs.lt
  rw [cast_fractions] at hs'
  have hvalue : (s : ℚ) * 2 ^ p < 2 * 2 ^ 52 * 2 ^ p := mul_lt_mul_of_pos_right hs' hunit
  by_cases hdense : s = fractions ∧ -1074 < p
  · -- below a power of two only the neighbour above is sure
    have hmargin : margin s p = 1 / 4 := if_pos hdense
    have hvalue' : (s : ℚ) * 2 ^ p = 2 ^ 52 * 2 ^ p := by rw [hdense.1, cast_fractions]
    refine .inr (rounds_of_lt ?_ ?_)
    · rw [hmargin]
      linarith
    · rw [add_mul]
      linarith
  · have hmargin : margin s p = 1 / 2 := if_neg hdense
    by_cases hnear : (s - 1 / 2) * 2 ^ p < below
    · refine .inl (rounds_of_lt ?_ ?_)
      · rwa [hmargin]
      · linarith
    · refine .inr (rounds_of_lt ?_ ?_)
      · rw [hmargin]
        linarith
      · linarith

lemma exists_onGrid? (hs : Regular s p) {e : ℤ} (h : (10 : ℚ) ^ (e + 16) ≤ s * 2 ^ p) :
    ∃ n, (Interval.of s p).onGrid? e = some n := by
  obtain ⟨hden, -, hvalue, -, -⟩ := interval_spec hs.pos p
  obtain ⟨⟨num, d⟩, hscaled⟩ :
    ∃ scaled, scaleTen (Interval.of s p).value (Interval.of s p).den (-e) = scaled := ⟨_, rfl⟩
  obtain ⟨hd, hquotient⟩ := scaleTen_spec hden hscaled
  have hstep := ten_zpow_pos e
  have hdq : (0 : ℚ) < d := by exact_mod_cast hd
  have hmul : (num / d : ℚ) * 10 ^ e = s * 2 ^ p := by
    rw [hquotient, hvalue, zpow_neg, mul_assoc, inv_mul_cancel₀ hstep.ne', mul_one]
  have hbelow : ((num / d : ℕ) : ℚ) * 10 ^ e ≤ s * 2 ^ p := by
    rw [← hmul]
    exact mul_le_mul_of_nonneg_right Nat.cast_div_le hstep.le
  have habove : (s : ℚ) * 2 ^ p < (num / d : ℕ) * 10 ^ e + 10 ^ e := by
    have hlt : (num / d : ℚ) < (num / d : ℕ) + 1 := by
      rw [← Nat.floor_div_eq_div (K := ℚ)]
      exact Nat.lt_floor_add_one _
    rw [← hmul, ← add_one_mul]
    exact mul_lt_mul_of_pos_right hlt hstep
  have hfine : (10 : ℚ) ^ e * 10 ^ 16 ≤ s * 2 ^ p := by
    rw [zpow_add₀ (by norm_num)] at h
    exact_mod_cast h
  have hcandidate : ∃ n ∈ [num / d, num / d + 1], (Interval.of s p).contains n e = true := by
    rcases rounds_or_rounds hs hfine hstep hbelow habove with h | h
    · exact ⟨num / d, by simp, (contains_iff hs.pos).2 h⟩
    · refine ⟨num / d + 1, by simp, (contains_iff hs.pos).2 ?_⟩
      rwa [Nat.cast_add_one, add_one_mul]
  rw [← Option.isSome_iff_exists, Interval.onGrid?]
  simp only [hscaled]
  rw [List.find?_isSome]
  split
  · exact hcandidate
  · simpa [or_comm] using hcandidate

lemma rounds_of_onGrid? (hs : 0 < s) {n : ℕ} {e : ℤ} (h : (Interval.of s p).onGrid? e = some n) :
    Rounds s p (n * 10 ^ e) := by
  have hcontains := List.find?_some (p := fun n => (Interval.of s p).contains n e) h
  exact (contains_iff hs).1 hcontains

/-! ### The search -/

/-- The first digit of a quotient stands where the search starts, or further up. -/
lemma decimalPlace_spec {num den : ℕ} (hnum : 0 < num) (hden : 0 < den) :
    (10 : ℚ) ^ (decimalPlace num den - 1) ≤ num / den := by
  have hnumq : (0 : ℚ) < num := by exact_mod_cast hnum
  have hdenq : (0 : ℚ) < den := by exact_mod_cast hden
  rw [decimalPlace]
  split
  · next hle =>
    -- the whole part has the place
    have hwhole := Numeral.pow_length_ofNat_le (Nat.div_pos hle hden)
    have hlength := Numeral.length_ofNat_pos (num / den)
    calc (10 : ℚ) ^ (((Numeral.ofNat (num / den)).length : ℤ) - 1)
        = ((10 ^ ((Numeral.ofNat (num / den)).length - 1) : ℕ) : ℚ) := by
          rw [← Nat.cast_pred hlength, zpow_natCast]
          norm_num
      _ ≤ (num / den : ℕ) := Nat.cast_le.2 hwhole
      _ ≤ num / den := Nat.cast_div_le
  · next hlt =>
    -- the whole part of the inverse counts the zeros
    set zeros := (Numeral.ofNat (den / num)).length with hzeros
    have hlength : 0 < zeros := Numeral.length_ofNat_pos (den / num)
    dsimp only
    split
    · next hle =>
      have hexponent : (2 - zeros - 1 : ℤ) = -((zeros - 1 : ℕ) : ℤ) := by omega
      rw [hexponent, zpow_neg, zpow_natCast, inv_le_comm₀ (by positivity) (by positivity), inv_div,
        div_le_iff₀ hnumq]
      rw [Nat.pow_eq] at hle
      rw [mul_comm]
      exact_mod_cast hle
    · next hgt =>
      have hexponent : (1 - zeros - 1 : ℤ) = -(zeros : ℤ) := by omega
      have hinverse : den < 10 ^ zeros * num :=
        (Nat.div_lt_iff_lt_mul hnum).1 (Numeral.lt_pow_length_ofNat (den / num))
      rw [hexponent, zpow_neg, zpow_natCast, inv_le_comm₀ (by positivity) (by positivity), inv_div,
        div_le_iff₀ hnumq]
      exact_mod_cast hinverse.le

/-- Zeros at the end of a coefficient can go into the exponent. -/
lemma dropZeros_value (fuel n : ℕ) (e : ℤ) :
    ((dropZeros fuel n e).1 : ℚ) * 10 ^ (dropZeros fuel n e).2 = n * 10 ^ e := by
  induction fuel generalizing n e with
  | zero => rfl
  | succ fuel ih =>
    rw [dropZeros]
    split
    · next h =>
      have hn : (n : ℚ) = (n / 10 : ℕ) * 10 := by
        exact_mod_cast (Nat.div_mul_cancel (Nat.dvd_of_mod_eq_zero h)).symm
      rw [ih, zpow_add_one₀ (by norm_num), hn]
      ring
    · rfl

/-- **The shortest decimal** of a double rounds to it. -/
lemma rounds_shortest (hs : Regular s p) :
    Rounds s p ((shortest s p).1 * 10 ^ (shortest s p).2) := by
  obtain ⟨hden, -, hvalue, -, -⟩ := interval_spec hs.pos p
  have hdenq : (0 : ℚ) < (Interval.of s p).den := by exact_mod_cast hden
  have hnum : 0 < (Interval.of s p).value := by
    have hpos : (0 : ℚ) < (Interval.of s p).value / (Interval.of s p).den := by
      rw [hvalue]
      exact mul_pos (by exact_mod_cast hs.pos) (two_zpow_pos p)
    exact_mod_cast (div_pos_iff_of_pos_right hdenq).1 hpos
  have hplace := decimalPlace_spec hnum hden
  rw [shortest]
  set place := decimalPlace (Interval.of s p).value (Interval.of s p).den
  dsimp only
  split
  · next n e htried =>
    obtain ⟨k, -, hk⟩ := List.exists_of_findSome?_eq_some htried
    obtain ⟨n', hn', hpair⟩ := Option.map_eq_some_iff.1 hk
    obtain ⟨rfl, rfl⟩ := Prod.mk.inj hpair
    rw [dropZeros_value]
    exact rounds_of_onGrid? hs.pos hn'
  · next htried =>
    -- the grid with seventeen digits is fine enough
    have hfine : (10 : ℚ) ^ (place - 17 + 16) ≤ s * 2 ^ p := by
      have hsum : place - 17 + 16 = place - 1 := by ring
      rw [hsum, ← hvalue]
      exact hplace
    obtain ⟨n, hn⟩ := exists_onGrid? hs hfine
    have hnone := List.findSome?_eq_none_iff.1 htried 16 (by decide)
    rw [Option.map_eq_none_iff] at hnone
    have hexponent : place - (((16 : ℕ) : ℤ) + 1) = place - 17 := by norm_num
    rw [hexponent, hn] at hnone
    cases hnone

end Listing.Double
