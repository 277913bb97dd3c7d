import Mathlib
import Listing.Double.Notation
import Listing.Proofs.Double
import Listing.Proofs.Double.Notation
import Listing.Proofs.Double.Shortest

/-!
# A double is read back as it is written

Whatever the layout, the digits of a coefficient and its exponent are read as the same number, and
the shortest decimal of a double is rounded to the double when it is read.  So the text of a double
denotes this double, sign and all; only of the doubles that are not a number it does not tell which
one is meant.  The text always has a character that no numeral of a whole number has, so that a
double can be told apart from an integer.
-/

namespace Listing

namespace Numeral

lemma value_append (s t : Text) : value (s ++ t) = value s * 10 ^ t.length + value t := by
  induction t using List.reverseRecOn with
  | nil => simp
  | append_singleton t c ih =>
    rw [← List.append_assoc, value_append_digit, ih, value_append_digit, List.length_append,
      List.length_singleton, pow_succ]
    ring

@[simp] lemma value_replicate_zero (k : ℕ) : value (List.replicate k '0') = 0 := by
  induction k with
  | zero => rfl
  | succ k ih =>
    rw [List.replicate_succ', value_append_digit, ih]
    rfl

end Numeral

namespace Decimal

/-- The number that a decimal denotes, its sign apart. -/
def size (d : Decimal) : ℚ :=
  d.coefficient * 10 ^ d.exponent

end Decimal

namespace Double

open Decimal (readUnsigned? readExponent?)

/-! ### The layout of digits -/

lemma forall_isDigit_zeros (k : ℕ) : ∀ c ∈ List.replicate k '0', c.isDigit = true := by
  intro c hc
  rw [List.eq_of_mem_replicate hc]
  rfl

/-- Digits are read so under any sign: as a number of this size, and with the sign. -/
def ReadAs (t : Text) (r : ℚ) : Prop :=
  ∀ negative, ∃ d, readUnsigned? negative t = some d ∧ d.negative = negative ∧ d.size = r

lemma readAs_point {w f : Text} (hw : Numeral.isDigits w = true) (hf : ∀ c ∈ f, c.isDigit = true) :
    ReadAs (w ++ '.' :: f) (Numeral.value (w ++ f) * 10 ^ (-f.length : ℤ)) := by
  obtain ⟨hne, hw⟩ := Numeral.isDigits_iff.1 hw
  intro negative
  have hend : ∀ c ∈ ([] : Text).head?, c.isDigit = false := by simp
  have h := Decimal.readUnsigned?_point negative hw hf hend
  rw [List.append_nil, if_neg (by simp [hne])] at h
  exact ⟨_, h, rfl, by simp [Decimal.size]⟩

/-- An exponent multiplies what stands before it. -/
lemma readExponent?_written (exponent : ℤ) (width : ℕ) :
    readExponent? ('e' :: (if exponent < 0 then '-' else '+') ::
      padZeros width (Numeral.ofNat exponent.natAbs)) = some exponent := by
  have hdigits : Numeral.isDigits (padZeros width (Numeral.ofNat exponent.natAbs)) = true := by
    rw [padZeros, Numeral.isDigits_iff]
    exact ⟨by simp [Numeral.ofNat_ne_nil], List.forall_mem_append.2
      ⟨forall_isDigit_zeros _, fun _ => Numeral.isDigit_of_mem_ofNat⟩⟩
  have hvalue : Numeral.value (padZeros width (Numeral.ofNat exponent.natAbs)) =
      exponent.natAbs := by
    rw [padZeros, Numeral.value_append, Numeral.value_replicate_zero, Numeral.value_ofNat]
    simp
  rcases lt_or_ge exponent 0 with hneg | hpos
  · rw [if_pos hneg]
    simp only [readExponent?, Numeral.splitSign, hdigits, hvalue, Numeral.signed]
    simpa using (by omega : -(exponent.natAbs : ℤ) = exponent)
  · rw [if_neg (not_lt.2 hpos)]
    simp only [readExponent?, Numeral.splitSign, hdigits, hvalue, Numeral.signed]
    simpa using (by omega : (exponent.natAbs : ℤ) = exponent)

/-- Digits with an exponent behind them are read as the number times a power of ten. -/
lemma readAs_exponent {w f : Text} (hw : Numeral.isDigits w = true)
    (hf : ∀ c ∈ f, c.isDigit = true) (exponent : ℤ) (width : ℕ) :
    ReadAs (w ++ (if f.isEmpty then [] else '.' :: f) ++
        'e' :: (if exponent < 0 then '-' else '+') ::
          padZeros width (Numeral.ofNat exponent.natAbs))
      (Numeral.value (w ++ f) * 10 ^ (exponent - f.length)) := by
  obtain ⟨hne, hw⟩ := Numeral.isDigits_iff.1 hw
  intro negative
  set rest : Text := 'e' :: (if exponent < 0 then '-' else '+') ::
    padZeros width (Numeral.ofNat exponent.natAbs) with hrest
  have hread : readExponent? rest = some exponent := readExponent?_written exponent width
  have hhead : ∀ c ∈ rest.head?, c.isDigit = false ∧ c ≠ '.' := by simp [hrest]
  cases f with
  | nil =>
    have h := Decimal.readUnsigned?_whole negative hw hhead
    rw [if_neg (by simp [hne]), hread] at h
    exact ⟨_, by simpa using h, rfl, by simp [Decimal.size]⟩
  | cons c f =>
    have h := Decimal.readUnsigned?_point negative hw hf fun c hc => (hhead c hc).1
    rw [if_neg (by simp), hread] at h
    exact ⟨_, by simpa using h, rfl, by simp [Decimal.size]⟩

/-- With zeros between the point and the digits. -/
lemma readAs_zeros_digits {digits : Text} (hall : ∀ c ∈ digits, c.isDigit = true) (k : ℕ) :
    ReadAs ("0." ++ List.replicate k '0' ++ digits)
      (Numeral.value digits * 10 ^ (-k - digits.length : ℤ)) := by
  have h := readAs_point (w := "0") (by decide)
    (List.forall_mem_append.2 ⟨forall_isDigit_zeros k, hall⟩)
  have hvalue : Numeral.value ("0" ++ (List.replicate k '0' ++ digits)) =
      Numeral.value digits := by
    rw [Numeral.value_append, Numeral.value_append, Numeral.value_replicate_zero]
    simp [Numeral.value]
  have hlength : (-((List.replicate k '0' ++ digits).length : ℤ)) = -k - digits.length := by
    rw [List.length_append, List.length_replicate]
    omega
  rw [hvalue, hlength] at h
  rwa [List.append_assoc]

/-- With the point among the digits. -/
lemma readAs_take_drop {digits : Text} (hall : ∀ c ∈ digits, c.isDigit = true) {k : ℕ}
    (hpos : 0 < k) (hlt : k < digits.length) :
    ReadAs (digits.take k ++ '.' :: digits.drop k)
      (Numeral.value digits * 10 ^ (k - digits.length : ℤ)) := by
  have hne : digits.take k ≠ [] := by
    rw [← List.length_pos_iff, List.length_take]
    omega
  have h := readAs_point
    (Numeral.isDigits_iff.2 ⟨hne, fun c hc => hall c (List.mem_of_mem_take hc)⟩)
    (f := digits.drop k) fun c hc => hall c (List.mem_of_mem_drop hc)
  have hlength : (-((digits.drop k).length : ℤ)) = k - digits.length := by
    rw [List.length_drop]
    omega
  rwa [List.take_append_drop, hlength] at h

/-- With zeros between the digits and the point, and one behind it. -/
lemma readAs_digits_zeros {digits : Text} (hdigits : Numeral.isDigits digits = true) (k : ℕ) :
    ReadAs (digits ++ List.replicate k '0' ++ ['.', '0'])
      (Numeral.value digits * 10 ^ (k : ℤ)) := by
  obtain ⟨hne, hall⟩ := Numeral.isDigits_iff.1 hdigits
  have hw : Numeral.isDigits (digits ++ List.replicate k '0') = true :=
    Numeral.isDigits_iff.2
      ⟨by simp [hne], List.forall_mem_append.2 ⟨hall, forall_isDigit_zeros k⟩⟩
  have h := readAs_point hw (f := ['0']) (by simp)
  have hsize : (Numeral.value (digits ++ List.replicate k '0' ++ ['0']) : ℚ) *
      10 ^ (-(['0'].length : ℤ)) = Numeral.value digits * 10 ^ (k : ℤ) := by
    rw [Numeral.value_append_digit, Numeral.value_append, Numeral.value_replicate_zero,
      List.length_replicate, zpow_natCast]
    simp
    ring
  rwa [hsize] at h

lemma readAs_positional {digits : Text} (hdigits : Numeral.isDigits digits = true) (place : ℤ) :
    ReadAs (positional digits place) (Numeral.value digits * 10 ^ (place - digits.length)) := by
  have hall := (Numeral.isDigits_iff.1 hdigits).2
  rw [positional]
  split
  · next hplace =>
    obtain ⟨k, hk⟩ : ∃ k : ℕ, -place = k := Int.eq_ofNat_of_zero_le (by omega)
    obtain rfl : place = -k := by omega
    rw [neg_neg, Int.toNat_natCast]
    exact readAs_zeros_digits hall k
  · next hplace =>
    obtain ⟨k, rfl⟩ : ∃ k : ℕ, place = k := Int.eq_ofNat_of_zero_le (by omega)
    simp only [Int.toNat_natCast]
    rcases lt_or_ge k digits.length with hlt | hge
    · have hdrop : digits.drop k ≠ [] := by simpa using hlt
      have hzeros : k - digits.length = 0 := by omega
      have h := readAs_take_drop hall (by omega) hlt
      simpa [hdrop, hzeros] using h
    · have h := readAs_digits_zeros hdigits (k - digits.length)
      rw [Nat.cast_sub hge] at h
      simpa [List.take_of_length_le hge, List.drop_of_length_le hge] using h

lemma readAs_scientific (layout : Layout) {digits : Text}
    (hdigits : Numeral.isDigits digits = true) (exponent : ℤ) :
    ReadAs (scientific layout digits exponent)
      (Numeral.value digits * 10 ^ (exponent + 1 - digits.length)) := by
  obtain ⟨hne, hall⟩ := Numeral.isDigits_iff.1 hdigits
  obtain ⟨first, rest, rfl⟩ := List.exists_cons_of_ne_nil hne
  obtain ⟨hfirst, hrest⟩ := List.forall_mem_cons.1 hall
  have h := readAs_exponent (w := [first]) (by simp [Numeral.isDigits, hfirst]) hrest exponent
    layout.exponentDigits
  have hlength : exponent - rest.length = exponent + 1 - (first :: rest).length := by
    rw [List.length_cons]
    omega
  rw [List.singleton_append, hlength] at h
  cases rest with
  | nil => simpa [scientific] using h
  | cons c rest => simpa [scientific] using h

/-- **Any layout** of digits is read as the number that is laid out. -/
lemma readAs_write (layout : Layout) (n : ℕ) (e : ℤ) : ReadAs (layout.write n e) (n * 10 ^ e) := by
  have hdigits := Numeral.isDigits_ofNat n
  rw [Layout.write]
  split
  · have h := readAs_positional hdigits ((Numeral.ofNat n).length + e)
    rwa [Numeral.value_ofNat, add_sub_cancel_left] at h
  · have h := readAs_scientific layout hdigits ((Numeral.ofNat n).length + e - 1)
    rwa [Numeral.value_ofNat, sub_add_cancel, add_sub_cancel_left] at h

/-! ### Rounding what was read -/

/-- The first digit of a decimal is at its place. -/
lemma place_bounds {d : Decimal} (h : 0 < d.coefficient) :
    (10 : ℚ) ^ (((Numeral.ofNat d.coefficient).length : ℤ) + d.exponent - 1) ≤ d.size ∧
      d.size < 10 ^ (((Numeral.ofNat d.coefficient).length : ℤ) + d.exponent) := by
  have hlow := Numeral.pow_length_ofNat_le h
  have hhigh := Numeral.lt_pow_length_ofNat d.coefficient
  have hlength := Numeral.length_ofNat_pos d.coefficient
  have hpos := ten_zpow_pos d.exponent
  have hexponent : ((Numeral.ofNat d.coefficient).length : ℤ) + d.exponent - 1 =
      (((Numeral.ofNat d.coefficient).length - 1 : ℕ) : ℤ) + d.exponent := by omega
  rw [hexponent, zpow_add₀ (by norm_num), zpow_add₀ (by norm_num), zpow_natCast, zpow_natCast,
    Decimal.size]
  exact ⟨mul_le_mul_of_nonneg_right (by exact_mod_cast hlow) hpos.le,
    mul_lt_mul_of_pos_right (by exact_mod_cast hhigh) hpos⟩

/-- What rounds to a double is between the bounds beyond which nothing is computed. -/
lemma Rounds.bounds {s : ℕ} {p : ℤ} {r : ℚ} (hs : Regular s p) (h : Rounds s p r) :
    (10 : ℚ) ^ (-330 : ℤ) ≤ r ∧ r < 10 ^ (310 : ℤ) := by
  have hleast := hs.le_power
  have hgreatest := hs.power_le
  have htiny : (2 : ℚ) ^ 1075 ≤ 10 ^ 330 := by
    exact_mod_cast (by decide +kernel : 2 ^ 1075 ≤ 10 ^ 330)
  have hhuge : (2 : ℚ) ^ 1024 < 10 ^ 310 := by
    exact_mod_cast (by decide +kernel : 2 ^ 1024 < 10 ^ 310)
  constructor
  · calc (10 : ℚ) ^ (-330 : ℤ) = (10 ^ 330)⁻¹ := zpow_neg _ _
      _ ≤ (2 ^ 1075)⁻¹ := inv_anti₀ (by positivity) htiny
      _ = 2 ^ (-1075 : ℤ) := (zpow_neg (2 : ℚ) 1075).symm
      _ ≤ 2 ^ (p - 1) := zpow_le_zpow_right₀ (by norm_num) (by omega)
      _ ≤ r := h.half_le hs
  · calc r < 2 ^ (p + 53) := h.lt_two_zpow hs
      _ ≤ 2 ^ (1024 : ℤ) := zpow_le_zpow_right₀ (by norm_num) (by omega)
      _ < 10 ^ (310 : ℤ) := hhuge

/-- A decimal that rounds to a double is read as the double. -/
lemma toDouble_of_rounds {d : Decimal} {s : ℕ} {p : ℤ} (hs : Regular s p) (h : Rounds s p d.size) :
    d.toDouble = ofCode d.negative ((p + 1074).toNat * fractions + s) := by
  have hpos := h.pos hs
  have hcoefficient : 0 < d.coefficient := by
    rw [Nat.pos_iff_ne_zero]
    intro hzero
    rw [Decimal.size, hzero] at hpos
    simp at hpos
  obtain ⟨hlow, hhigh⟩ := place_bounds hcoefficient
  obtain ⟨hleast, hgreatest⟩ := h.bounds hs
  have hbelow := exponent_lt (by norm_num) hlow hgreatest
  have habove := exponent_lt (by norm_num) hleast hhigh
  rw [Decimal.toDouble, if_neg hcoefficient.ne', if_neg (by omega), if_neg (by omega)]
  split
  · next hexponent =>
    refine ofRatio_of_rounds d.negative Nat.one_pos hs ?_
    obtain ⟨k, hk⟩ := Int.eq_ofNat_of_zero_le hexponent
    rw [Decimal.size, hk, zpow_natCast] at h
    rw [hk, Int.toNat_natCast, Nat.pow_eq]
    push_cast
    rwa [div_one]
  · next hexponent =>
    obtain ⟨k, hk⟩ : ∃ k : ℕ, -d.exponent = k := Int.eq_ofNat_of_zero_le (by omega)
    have hk' : d.exponent = -k := by omega
    rw [hk, Int.toNat_natCast, Nat.pow_eq]
    refine ofRatio_of_rounds d.negative (by positivity) hs ?_
    rw [Decimal.size, hk', zpow_neg, zpow_natCast, ← div_eq_mul_inv] at h
    push_cast
    exact h

/-! ### The fields of a double -/

/-- A double is its sign and its code. -/
lemma ofCode_code (x : Double) : ofCode x.isNegative x.code = x := by
  obtain ⟨bits⟩ := x
  have hsize := bits.toNat_lt
  rw [ofCode, isNegative, code]
  congr 1
  rw [← UInt64.toNat_inj, UInt64.toNat_ofNat']
  dsimp only
  by_cases hsign : signPlace ≤ bits.toNat
  · rw [if_pos (decide_eq_true hsign)]
    rw [signPlace] at hsign ⊢
    omega
  · rw [if_neg (mt of_decide_eq_true hsign)]
    rw [signPlace] at hsign ⊢
    omega

/-- The magnitude of a finite double that is not zero. -/
lemma regular_of_magnitude {x : Double} {s : ℕ} {p : ℤ} (h : x.magnitude = .finite s p)
    (hs : 0 < s) : Regular s p ∧ (p + 1074).toNat * fractions + s = x.code := by
  rw [magnitude] at h
  split at h
  · cases h
  · next hnan =>
    split at h
    · cases h
    · next hinfinite =>
      have hlt : x.code < infinityCode := by omega
      have hrest := Nat.mod_lt x.code (by decide : 0 < fractions)
      have hcode := Nat.div_add_mod x.code fractions
      have hexponent : x.code / fractions < 2047 := by
        rw [Nat.div_lt_iff_lt_mul (by decide)]
        exact hlt
      dsimp only at h
      generalize x.code / fractions = exponent at h hcode hexponent
      generalize x.code % fractions = fraction at h hcode hrest
      split at h
      · next hzero =>
        obtain ⟨rfl, rfl⟩ := Magnitude.finite.inj h
        refine ⟨⟨hs, by omega, le_rfl, by omega, .inl rfl⟩, ?_⟩
        rw [hzero] at hcode
        simpa using hcode
      · next hpos =>
        obtain ⟨rfl, rfl⟩ := Magnitude.finite.inj h
        obtain ⟨k, rfl⟩ := Nat.exists_eq_succ_of_ne_zero hpos
        have hpower : ((k.succ : ℤ) - 1075 + 1074).toNat = k := by omega
        refine ⟨⟨hs, by omega, by omega, by omega, .inr (by omega)⟩, ?_⟩
        rw [hpower, ← hcode, Nat.mul_succ, Nat.mul_comm]
        ring

/-! ### Texts -/

/-- The double, where one value stands for all that are not numbers. -/
def canonical (x : Double) : Double :=
  if x.isNaN then nan else x

lemma exists_isDigit_of_mantissa {m : Text} (h : Decimal.Mantissa m) :
    ∃ c ∈ m, c.isDigit = true := by
  cases h with
  | whole hw hne =>
    obtain ⟨c, hc⟩ := List.exists_mem_of_ne_nil _ hne
    exact ⟨c, hc, hw c hc⟩
  | point hw hf hne =>
    rcases hne with hne | hne
    · obtain ⟨c, hc⟩ := List.exists_mem_of_ne_nil _ hne
      exact ⟨c, by simp [hc], hw c hc⟩
    · obtain ⟨c, hc⟩ := List.exists_mem_of_ne_nil _ hne
      exact ⟨c, by simp [hc], hf c hc⟩

lemma not_isAlpha_of_isDigit {c : Char} (h : c.isDigit = true) : c.isAlpha = false := by
  grind [Char.isDigit, Char.isAlpha, Char.isUpper, Char.isLower]

/-- A decimal number with a sign is rounded with this sign. -/
lemma read?_of_readUnsigned? {negative : Bool} {t : Text} {d : Decimal}
    (h : readUnsigned? negative t = some d) :
    read? (if negative then '-' :: t else t) = some d.toDouble := by
  obtain ⟨m, e, rfl, hm, he⟩ := (Decimal.exists_readUnsigned?_iff negative).1 ⟨d, h⟩
  have hsplit : Numeral.splitSign (if negative then '-' :: (m ++ e) else m ++ e) =
      (negative, m ++ e) := by
    cases negative with
    | true => rfl
    | false => exact Numeral.splitSign_of_head? (Unsigned.decimal hm he).head?
  have hword : (m ++ e).map Char.toLower ∉ words := by
    intro hword
    obtain ⟨c, hc, hdigit⟩ := exists_isDigit_of_mantissa hm
    have halpha := isAlpha_of_word hword c (List.mem_append_left _ hc)
    rw [not_isAlpha_of_isDigit hdigit] at halpha
    cases halpha
  rw [mem_words_iff, not_or] at hword
  rw [read?, hsplit]
  simp only
  rw [if_neg hword.1, if_neg hword.2, h]
  rfl

lemma isNaN_iff {x : Double} : x.isNaN = true ↔ x.magnitude = .nan := by
  rw [isNaN, decide_eq_true_iff, magnitude]
  split
  · next h => simp [h]
  · next h =>
    refine iff_of_false h ?_
    split
    · simp
    · dsimp only
      split <;> simp

lemma code_of_infinite {x : Double} (h : x.magnitude = .infinite) : x.code = infinityCode := by
  rw [magnitude] at h
  split at h
  · cases h
  · split at h
    · assumption
    · dsimp only at h
      split at h <;> cases h

/-- Of the finite doubles only the zeros have no digits. -/
lemma code_of_zero {x : Double} {p : ℤ} (h : x.magnitude = .finite 0 p) : x.code = 0 := by
  rw [magnitude] at h
  split at h
  · cases h
  · split at h
    · cases h
    · have hcode := Nat.div_add_mod x.code fractions
      dsimp only at h
      split at h
      · next hzero =>
        rw [hzero, (Magnitude.finite.inj h).1] at hcode
        simpa using hcode.symm
      · have hpositive : 0 < fractions := by decide
        have hsum := (Magnitude.finite.inj h).1
        omega

lemma magnitudeText_zero (p : ℤ) : magnitudeText (.finite 0 p) = "0.0" :=
  rfl

lemma magnitudeText_of_pos {s : ℕ} (hs : 0 < s) (p : ℤ) :
    magnitudeText (.finite s p) = plainLayout.write (shortest s p).1 (shortest s p).2 := by
  obtain ⟨k, rfl⟩ := Nat.exists_eq_succ_of_ne_zero hs.ne'
  rfl

/-- **A double is read back** as it is written. -/
theorem read?_text (x : Double) : read? x.text = some x.canonical := by
  have hcode := ofCode_code x
  by_cases hnan : x.isNaN = true
  · rw [text, canonical, hnan, if_pos rfl, isNaN_iff.1 hnan, Bool.not_true, Bool.and_false]
    decide
  · have hsign : (x.isNegative && !x.isNaN) = x.isNegative := by simp [hnan]
    rw [canonical, if_neg hnan, text, hsign]
    cases hmagnitude : x.magnitude with
    | nan => exact absurd (isNaN_iff.2 hmagnitude) hnan
    | infinite =>
      rw [code_of_infinite hmagnitude] at hcode
      rw [← hcode]
      cases x.isNegative <;> decide
    | finite s p =>
      rcases Nat.eq_zero_or_pos s with rfl | hs
      · rw [code_of_zero hmagnitude] at hcode
        rw [magnitudeText_zero, ← hcode]
        cases x.isNegative <;> decide
      · obtain ⟨hregular, hfields⟩ := regular_of_magnitude hmagnitude hs
        obtain ⟨d, hread, hnegative, hsize⟩ :=
          readAs_write plainLayout (shortest s p).1 (shortest s p).2 x.isNegative
        have hrounds : Rounds s p d.size := by
          rw [hsize]
          exact rounds_shortest hregular
        have hback := read?_of_readUnsigned? hread
        rw [toDouble_of_rounds hregular hrounds, hnegative, hfields, hcode] at hback
        rwa [magnitudeText_of_pos hs]

/-! ### What is read -/

lemma canonical_of_isNaN {x : Double} (h : x.isNaN = false) : x.canonical = x :=
  if_neg (by simp [h])

/-- Only one of the doubles that are no numbers is ever read. -/
lemma canonical_of_read? {t : Text} {x : Double} (h : read? t = some x) : x.canonical = x := by
  rw [read?] at h
  simp only at h
  split at h
  · obtain rfl := Option.some.inj h
    exact canonical_of_isNaN (isNaN_infinity _)
  · split at h
    · obtain rfl := Option.some.inj h
      decide
    · obtain ⟨d, -, rfl⟩ := Option.map_eq_some_iff.1 h
      exact canonical_of_isNaN (isNaN_toDouble d)

/-! ### Doubles and whole numbers -/

/-- The characters of which the text of a double has one, and no numeral of a whole number. -/
def marks : List Char := ['.', 'e', 'n']

lemma exists_mark_of_write (layout : Layout) (n : ℕ) (e : ℤ) :
    ∃ c ∈ layout.write n e, c ∈ marks := by
  rw [Layout.write]
  split
  · refine ⟨'.', ?_, by decide⟩
    rw [positional]
    split <;> simp
  · exact ⟨'e', by simp [scientific], by decide⟩

lemma exists_mark_of_magnitude (m : Magnitude) : ∃ c ∈ magnitudeText m, c ∈ marks := by
  cases m with
  | nan => exact ⟨'n', by decide, by decide⟩
  | infinite => exact ⟨'n', by decide, by decide⟩
  | finite s p =>
    rcases Nat.eq_zero_or_pos s with rfl | hs
    · exact ⟨'.', by rw [magnitudeText_zero]; decide, by decide⟩
    · rw [magnitudeText_of_pos hs]
      exact exists_mark_of_write _ _ _

/-- The text of a double is no numeral of a whole number. -/
theorem not_spells_text (x : Double) (n : ℤ) : ¬Numeral.Spells x.text n := by
  obtain ⟨c, hc, hmark⟩ := exists_mark_of_magnitude x.magnitude
  have hmem : c ∈ x.text := by
    rw [text]
    split
    · exact List.mem_cons_of_mem _ hc
    · exact hc
  intro h
  have hnot : ∀ c ∈ marks, c.isDigit = false ∧ c ≠ '+' ∧ c ≠ '-' := by simp [marks]
  obtain ⟨hdigit, hplus, hminus⟩ := hnot c hmark
  rcases Numeral.mem_of_spells h c hmem with h | h | h
  · rw [h] at hdigit
    cases hdigit
  · exact hplus h
  · exact hminus h

end Double

end Listing
