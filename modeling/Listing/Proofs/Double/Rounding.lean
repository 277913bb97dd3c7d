import Mathlib
import Listing.Proofs.Double

/-!
# What rounds to a double

A positive finite double is a significand times a power of two.  `Rounds` says which numbers are
nearest to it: those that are at most half a unit away, or a quarter of one where the doubles below
lie twice as dense; the ends of this interval belong to it if the significand is even.  Rounding
takes every number of the interval to the double, also if it comes from below a power of two, where
the grid is finer than the one that the double itself is on.
-/

namespace Listing.Double

/-- The significand and the power of two of a positive finite double. -/
structure Regular (s : ℕ) (p : ℤ) : Prop where
  pos : 0 < s
  lt : s < 2 * fractions
  le_power : -1074 ≤ p
  power_le : p ≤ 971
  /-- Only the least power has significands without the leading digit. -/
  leading : p = -1074 ∨ fractions ≤ s

/-- How far below a significand the numbers lie that round to it, in units of its power of two. -/
def margin (s : ℕ) (p : ℤ) : ℚ :=
  if s = fractions ∧ -1074 < p then 1 / 4 else 1 / 2

/-- The numbers that round to `s * 2 ^ p`. -/
structure Rounds (s : ℕ) (p : ℤ) (r : ℚ) : Prop where
  low : (s - margin s p) * 2 ^ p ≤ r
  high : r ≤ (s + 1 / 2) * 2 ^ p
  /-- The ends round to an even neighbour. -/
  inside : s % 2 = 1 → (s - margin s p) * 2 ^ p < r ∧ r < (s + 1 / 2) * 2 ^ p

variable {s : ℕ} {p : ℤ} {r : ℚ}

lemma two_zpow_pos (p : ℤ) : (0 : ℚ) < 2 ^ p :=
  zpow_pos (by norm_num) p

lemma cast_fractions : (fractions : ℚ) = 2 ^ 52 := by
  norm_num [fractions]

lemma fractions_mul_zpow (p : ℤ) : (fractions : ℚ) * 2 ^ p = 2 ^ (p + 52) := by
  rw [zpow_add₀ (by norm_num), mul_comm, cast_fractions, zpow_ofNat]

/-- A number between two powers tells which exponent is less. -/
lemma exponent_lt {b : ℚ} {m n : ℤ} (hb : 1 < b) (hlow : b ^ m ≤ r) (hhigh : r < b ^ n) : m < n :=
  (zpow_lt_zpow_iff_right₀ hb).1 (hlow.trans_lt hhigh)

lemma margin_le (s : ℕ) (p : ℤ) : margin s p ≤ 1 / 2 := by
  rw [margin]
  split <;> norm_num

lemma Regular.one_le (h : Regular s p) : (1 : ℚ) ≤ s := by
  exact_mod_cast h.pos

/-! ### Powers of two around a double -/

lemma Rounds.two_zpow_le (h : Rounds s p r) {k : ℤ} (hk : (2 : ℚ) ^ k ≤ s - margin s p) :
    (2 : ℚ) ^ (p + k) ≤ r := by
  calc (2 : ℚ) ^ (p + k) = 2 ^ k * 2 ^ p := by rw [← zpow_add₀ (by norm_num), add_comm]
    _ ≤ (s - margin s p) * 2 ^ p := mul_le_mul_of_nonneg_right hk (two_zpow_pos p).le
    _ ≤ r := h.low

lemma Rounds.lt_two_zpow (h : Rounds s p r) (hs : Regular s p) : r < 2 ^ (p + 53) := by
  have hs' : (s : ℚ) + 1 ≤ 2 * fractions := by exact_mod_cast hs.lt
  have hunit := two_zpow_pos p
  calc r ≤ (s + 1 / 2) * 2 ^ p := h.high
    _ < 2 * fractions * 2 ^ p := mul_lt_mul_of_pos_right (by linarith) hunit
    _ = 2 ^ (p + 53) := by
        rw [mul_assoc, fractions_mul_zpow, ← zpow_one_add₀ (by norm_num)]
        congr 1
        ring

/-- Half a unit is below everything that rounds to a double. -/
lemma Rounds.half_le (h : Rounds s p r) (hs : Regular s p) : (2 : ℚ) ^ (p - 1) ≤ r := by
  refine h.two_zpow_le (k := -1) ?_
  have hmargin := margin_le s p
  have hone := hs.one_le
  rw [zpow_neg_one]
  linarith

/-- Above the power of two, what rounds to a double has all of its digits. -/
lemma Rounds.two_zpow_le_of_lt (h : Rounds s p r) (hs : fractions < s) :
    (2 : ℚ) ^ (p + 52) ≤ r := by
  refine h.two_zpow_le ?_
  have hs' : (fractions : ℚ) + 1 ≤ s := by exact_mod_cast hs
  have hmargin := margin_le s p
  rw [cast_fractions] at hs'
  rw [zpow_ofNat]
  linarith

/-- At the power of two, it has at least one digit less. -/
lemma Rounds.two_zpow_le_of_fractions (h : Rounds fractions p r) : (2 : ℚ) ^ (p + 51) ≤ r := by
  refine h.two_zpow_le ?_
  have hmargin := margin_le fractions p
  rw [cast_fractions, zpow_ofNat]
  linarith

lemma Rounds.pos (h : Rounds s p r) (hs : Regular s p) : 0 < r :=
  (two_zpow_pos _).trans_le (h.half_le hs)

/-! ### Quotients and powers of two -/

/-- A quotient that is scaled down is divided by the power of two. -/
lemma scaleDown_spec {num den n d : ℕ} {power : ℤ} (hden : 0 < den)
    (h : scaleDown num den power = (n, d)) : 0 < d ∧ (n : ℚ) / d = num / den / 2 ^ power := by
  rw [scaleDown] at h
  split at h
  · next hpower =>
    obtain ⟨k, rfl⟩ := Int.eq_ofNat_of_zero_le hpower
    obtain ⟨rfl, rfl⟩ := Prod.mk.inj h
    rw [Int.toNat_natCast, Nat.shiftLeft_eq, zpow_natCast, Nat.cast_mul, Nat.cast_pow,
      Nat.cast_ofNat, div_div]
    exact ⟨by positivity, rfl⟩
  · next hpower =>
    obtain ⟨k, hk⟩ : ∃ k : ℕ, -power = k := Int.eq_ofNat_of_zero_le (by omega)
    obtain rfl : power = -k := by omega
    obtain ⟨rfl, rfl⟩ := Prod.mk.inj h
    rw [neg_neg, Int.toNat_natCast, Nat.shiftLeft_eq, zpow_neg, zpow_natCast, Nat.cast_mul,
      Nat.cast_pow, Nat.cast_ofNat, div_inv_eq_mul, mul_div_right_comm]
    exact ⟨hden, rfl⟩

/-- The logarithms of numerator and denominator leave two powers of two to choose from. -/
lemma log2_bounds {num den : ℕ} (hnum : 0 < num) (hden : 0 < den) :
    (2 : ℚ) ^ ((num.log2 : ℤ) - den.log2 - 1) ≤ num / den ∧
      (num / den : ℚ) < 2 ^ ((num.log2 : ℤ) - den.log2 + 1) := by
  have hd : (0 : ℚ) < den := by exact_mod_cast hden
  have hnumlow : (2 : ℚ) ^ (num.log2 : ℤ) ≤ num := by
    exact_mod_cast Nat.log2_self_le hnum.ne'
  have hnumhigh : (num : ℚ) < 2 ^ ((num.log2 : ℤ) + 1) := by
    exact_mod_cast Nat.lt_log2_self (n := num)
  have hdenlow : (2 : ℚ) ^ (den.log2 : ℤ) ≤ den := by
    exact_mod_cast Nat.log2_self_le hden.ne'
  have hdenhigh : (den : ℚ) < 2 ^ ((den.log2 : ℤ) + 1) := by
    exact_mod_cast Nat.lt_log2_self (n := den)
  constructor
  · rw [le_div_iff₀ hd]
    calc (2 : ℚ) ^ ((num.log2 : ℤ) - den.log2 - 1) * den
        ≤ 2 ^ ((num.log2 : ℤ) - den.log2 - 1) * 2 ^ ((den.log2 : ℤ) + 1) :=
          mul_le_mul_of_nonneg_left hdenhigh.le (two_zpow_pos _).le
      _ = 2 ^ (num.log2 : ℤ) := by
          rw [← zpow_add₀ (by norm_num)]
          congr 1
          omega
      _ ≤ num := hnumlow
  · rw [div_lt_iff₀ hd]
    calc (num : ℚ) < 2 ^ ((num.log2 : ℤ) + 1) := hnumhigh
      _ = 2 ^ ((num.log2 : ℤ) - den.log2 + 1) * 2 ^ (den.log2 : ℤ) := by
          rw [← zpow_add₀ (by norm_num)]
          congr 1
          omega
      _ ≤ 2 ^ ((num.log2 : ℤ) - den.log2 + 1) * den :=
          mul_le_mul_of_nonneg_left hdenlow (two_zpow_pos _).le

/-- A quotient is between the power of two that is found for it and the next one. -/
lemma binaryExponent_spec {num den : ℕ} (hnum : 0 < num) (hden : 0 < den) :
    (2 : ℚ) ^ binaryExponent num den ≤ num / den ∧
      (num / den : ℚ) < 2 ^ (binaryExponent num den + 1) := by
  obtain ⟨hlow, hhigh⟩ := log2_bounds hnum hden
  set guess : ℤ := (num.log2 : ℤ) - den.log2 with hguess
  obtain ⟨⟨n, d⟩, hscaled⟩ : ∃ scaled, scaleDown num den guess = scaled := ⟨_, rfl⟩
  obtain ⟨hdpos, hvalue⟩ := scaleDown_spec hden hscaled
  have hdq : (0 : ℚ) < d := by exact_mod_cast hdpos
  have hchoice : d ≤ n ↔ (2 : ℚ) ^ guess ≤ num / den := by
    rw [← one_le_div₀ (two_zpow_pos guess), ← hvalue, one_le_div₀ hdq, Nat.cast_le]
  have hexponent : binaryExponent num den = if d ≤ n then guess else guess - 1 := by
    rw [binaryExponent]
    simp only [← hguess, hscaled]
  rw [hexponent]
  split
  · next h => exact ⟨hchoice.1 h, hhigh⟩
  · next h =>
    rw [Int.sub_add_cancel]
    exact ⟨hlow, not_le.1 (mt hchoice.2 h)⟩

/-! ### The nearest whole number -/

/-- Rounding a quotient finds the whole number that is at most a half away, the even one of two. -/
lemma roundHalfEven_eq {n d k : ℕ} (hd : 0 < d) (hlow : (k : ℚ) - 1 / 2 ≤ n / d)
    (hhigh : (n / d : ℚ) ≤ k + 1 / 2)
    (hodd : k % 2 = 1 → (k : ℚ) - 1 / 2 < n / d ∧ (n / d : ℚ) < k + 1 / 2) :
    roundHalfEven n d = k := by
  have hdq : (0 : ℚ) < d := by exact_mod_cast hd
  have hlow' : 2 * k * d ≤ 2 * n + d := by
    rw [le_div_iff₀ hdq] at hlow
    exact_mod_cast (by linarith : (2 * k * d : ℚ) ≤ 2 * n + d)
  have hhigh' : 2 * n ≤ 2 * k * d + d := by
    rw [div_le_iff₀ hdq] at hhigh
    exact_mod_cast (by linarith : (2 * n : ℚ) ≤ 2 * k * d + d)
  have hodd' : k % 2 = 1 → 2 * k * d < 2 * n + d ∧ 2 * n < 2 * k * d + d := by
    intro hk
    obtain ⟨hlow, hhigh⟩ := hodd hk
    rw [lt_div_iff₀ hdq] at hlow
    rw [div_lt_iff₀ hdq] at hhigh
    exact ⟨by exact_mod_cast (by linarith : (2 * k * d : ℚ) < 2 * n + d),
      by exact_mod_cast (by linarith : (2 * n : ℚ) < 2 * k * d + d)⟩
  have hn := Nat.div_add_mod n d
  have hrest := Nat.mod_lt n hd
  rw [roundHalfEven]
  set q := n / d
  set m := n % d
  rw [← hn] at hlow' hhigh' hodd'
  have hcases : k = q ∨ k = q + 1 := by
    have hle : k ≤ q + 1 := by
      by_contra hgt
      have hmul : (q + 2) * d ≤ k * d := Nat.mul_le_mul_right d (by omega)
      nlinarith
    have hge : q ≤ k := by
      by_contra hlt
      have hmul : (k + 1) * d ≤ q * d := Nat.mul_le_mul_right d (by omega)
      nlinarith
    omega
  rcases hcases with rfl | rfl
  · have hmul : 2 * q * d = 2 * (d * q) := by ring
    rw [hmul] at hlow' hhigh' hodd'
    split_ifs <;> omega
  · have hmul : 2 * (q + 1) * d = 2 * (d * q) + 2 * d := by ring
    rw [hmul] at hlow' hhigh' hodd'
    split_ifs <;> omega

/-! ### Rounding -/

/-- The grid on which a number is rounded is the one of the double it rounds to, or the next finer
one, if it lies below the power of two that the double is. -/
lemma power_cases {e : ℤ} (hs : Regular s p) (h : Rounds s p r) (hlow : (2 : ℚ) ^ e ≤ r)
    (hhigh : r < 2 ^ (e + 1)) :
    max (-1074) (e - 52) = p ∨
      (s = fractions ∧ max (-1074) (e - 52) = p - 1 ∧ r < s * 2 ^ p) := by
  have hleast := hs.le_power
  have hceiling : e < p + 53 := exponent_lt one_lt_two hlow (h.lt_two_zpow hs)
  have hfloor {k : ℤ} (hk : (2 : ℚ) ^ (p + k) ≤ r) : p + k < e + 1 :=
    exponent_lt one_lt_two hk hhigh
  rcases hs.leading with rfl | hleading
  · exact .inl (by omega)
  rcases hleading.lt_or_eq with hlt | rfl
  · -- away from the power of two, the grid is the double's own
    have hown := hfloor (h.two_zpow_le_of_lt hlt)
    exact .inl (by omega)
  rcases lt_or_ge r (fractions * 2 ^ p) with hbelow | habove
  · have hfiner := hfloor h.two_zpow_le_of_fractions
    have hup : e < p + 52 := exponent_lt one_lt_two hlow (by rwa [← fractions_mul_zpow])
    by_cases hp : p = -1074
    · exact .inl (by omega)
    · exact .inr ⟨rfl, by omega, hbelow⟩
  · rw [fractions_mul_zpow] at habove
    have hown := hfloor habove
    exact .inl (by omega)

/-- A quotient is rounded on the grid of its own power of two. -/
lemma ofRatio_eq (negative : Bool) {num den k : ℕ} {power : ℤ} (hnum : 0 < num) (hden : 0 < den)
    (hpower : max (-1074) (binaryExponent num den - 52) = power)
    (hlow : ((k : ℚ) - 1 / 2) * 2 ^ power ≤ num / den)
    (hhigh : (num / den : ℚ) ≤ (k + 1 / 2) * 2 ^ power)
    (hodd : k % 2 = 1 → ((k : ℚ) - 1 / 2) * 2 ^ power < num / den ∧
      (num / den : ℚ) < (k + 1 / 2) * 2 ^ power) :
    ofRatio negative num den =
      ofCode negative (min infinityCode ((power + 1074).toNat * fractions + k)) := by
  obtain ⟨⟨n, d⟩, hscaled⟩ : ∃ scaled, scaleDown num den power = scaled := ⟨_, rfl⟩
  obtain ⟨hd, hvalue⟩ := scaleDown_spec hden hscaled
  have hunit := two_zpow_pos power
  rw [← le_div_iff₀ hunit, ← hvalue] at hlow
  rw [← div_le_iff₀ hunit, ← hvalue] at hhigh
  rw [← lt_div_iff₀ hunit, ← div_lt_iff₀ hunit, ← hvalue] at hodd
  rw [ofRatio, if_neg hnum.ne']
  simp only [hpower, hscaled, roundHalfEven_eq hd hlow hhigh hodd]

lemma Regular.code_le (hs : Regular s p) : (p + 1074).toNat * fractions + s ≤ infinityCode := by
  have hp := hs.power_le
  have hlt := hs.lt
  have hmul : (p + 1074).toNat * fractions ≤ 2045 * fractions :=
    Nat.mul_le_mul_right _ (by omega)
  rw [infinityCode]
  omega

/-- A significand that has become too large carries into the power of two. -/
lemma code_carry (hp : -1074 < p) :
    (p - 1 + 1074).toNat * fractions + 2 * fractions =
      (p + 1074).toNat * fractions + fractions := by
  have hsucc : (p + 1074).toNat = (p - 1 + 1074).toNat + 1 := by omega
  rw [hsucc]
  ring

/-- **Rounding** takes what rounds to a double to that double. -/
lemma ofRatio_of_rounds (negative : Bool) {num den : ℕ} (hden : 0 < den) (hs : Regular s p)
    (h : Rounds s p (num / den)) :
    ofRatio negative num den = ofCode negative ((p + 1074).toNat * fractions + s) := by
  have hnum : 0 < num := by
    have hpos := h.pos hs
    rw [Nat.pos_iff_ne_zero]
    rintro rfl
    simp at hpos
  obtain ⟨hlow, hhigh⟩ := binaryExponent_spec hnum hden
  rcases power_cases hs h hlow hhigh with hpower | ⟨rfl, hpower, hbelow⟩
  · have hwider : ((s : ℚ) - 1 / 2) * 2 ^ p ≤ (s - margin s p) * 2 ^ p := by
      have hmargin := margin_le s p
      exact mul_le_mul_of_nonneg_right (by linarith) (two_zpow_pos p).le
    have hinside (hodd : s % 2 = 1) := h.inside hodd
    rw [ofRatio_eq negative hnum hden hpower (hwider.trans h.low) h.high
      fun hodd => ⟨hwider.trans_lt (hinside hodd).1, (hinside hodd).2⟩,
      Nat.min_eq_right hs.code_le]
  · -- on the finer grid the double is the next power of two, and the significand carries
    have hp : -1074 < p := by
      have := le_max_left (-1074) (binaryExponent num den - 52)
      omega
    have hlow := h.low
    have hquarter : margin fractions p = 1 / 4 := if_pos ⟨rfl, hp⟩
    have hhalf : (2 : ℚ) ^ p = 2 * 2 ^ (p - 1) := by
      rw [zpow_sub_one₀ (by norm_num)]
      ring
    rw [hquarter, hhalf] at hlow
    rw [hhalf] at hbelow
    have hunit := two_zpow_pos (p - 1)
    rw [ofRatio_eq negative hnum hden hpower (k := 2 * fractions) (by push_cast; linarith)
      (by push_cast; linarith) (by omega), code_carry hp, Nat.min_eq_right hs.code_le]

end Listing.Double
