import Mathlib
import Listing.Text.Percent
import Listing.Proofs.Text.Trimming

/-!
# Percent escapes

What is read of octets, and what is written in their place.  The reader of octets, standing between
two characters, gives back the character whose octets come next and stands between two characters
again.  A text is written with letters, digits, four marks and percent signs only, so with none of
the separators of a query string and no blank.  Reading loses characters, but never all of them.
-/

namespace Listing.Text

/-! ### The octets of a character -/

namespace Utf8

lemma toNat_continuation (n : Nat) : (continuation n).toNat = 0x80 + n % 64 := by
  rw [continuation, UInt8.toNat_ofNat']
  omega

lemma advance_of_mem {b : Begun} {o : UInt8} (hlow : b.low ≤ o.toNat) (hhigh : o.toNat ≤ b.high) :
    advance (some b) o = b.extend o.toNat := by
  simp only [advance, hlow, hhigh, and_self, if_true]

/-- The last octet of a character completes it. -/
lemma advance_continuation_last {n bits low high : Nat} (hlow : low ≤ 0x80 + n % 64)
    (hhigh : 0x80 + n % 64 ≤ high) :
    advance (some ⟨bits, low, high, 0⟩) (continuation n)
      = ([Char.ofNat (bits * 64 + n % 64)], none) := by
  rw [advance_of_mem (by rwa [toNat_continuation]) (by rwa [toNat_continuation]),
    toNat_continuation]
  simp [Begun.extend]

/-- An octet within a character adds its six bits; those after it are not bounded further. -/
lemma advance_continuation {n bits low high later : Nat} (hlow : low ≤ 0x80 + n % 64)
    (hhigh : 0x80 + n % 64 ≤ high) :
    advance (some ⟨bits, low, high, later + 1⟩) (continuation n)
      = ([], some ⟨bits * 64 + n % 64, 0x80, 0xBF, later⟩) := by
  rw [advance_of_mem (by rwa [toNat_continuation]) (by rwa [toNat_continuation]),
    toNat_continuation]
  simp [Begun.extend]

lemma start_two {n : Nat} (h₁ : 0x80 ≤ n) (h₂ : n < 0x800) :
    start (UInt8.ofNat (0xC0 + n / 64)) = ([], some ⟨n / 64, 0x80, 0xBF, 0⟩) := by
  have ho : (UInt8.ofNat (0xC0 + n / 64)).toNat = 0xC0 + n / 64 := by
    rw [UInt8.toNat_ofNat']
    omega
  simp only [start, ho]
  rw [if_neg (by omega), if_neg (by omega), if_pos (by omega)]
  simp

lemma start_three {n : Nat} (h₁ : 0x800 ≤ n) (h₂ : n < 0x10000) :
    start (UInt8.ofNat (0xE0 + n / 4096))
      = ([], some ⟨n / 4096, if n / 4096 = 0 then 0xA0 else 0x80,
          if n / 4096 = 13 then 0x9F else 0xBF, 1⟩) := by
  have ho : (UInt8.ofNat (0xE0 + n / 4096)).toNat = 0xE0 + n / 4096 := by
    rw [UInt8.toNat_ofNat']
    omega
  simp only [start, ho]
  rw [if_neg (by omega), if_neg (by omega), if_neg (by omega), if_pos (by omega)]
  have hlow : 0xE0 + n / 4096 = 0xE0 ↔ n / 4096 = 0 := by omega
  have hhigh : 0xE0 + n / 4096 = 0xED ↔ n / 4096 = 13 := by omega
  simp only [hlow, hhigh, Nat.add_sub_cancel_left]

lemma start_four {n : Nat} (h₁ : 0x10000 ≤ n) (h₂ : n < 0x110000) :
    start (UInt8.ofNat (0xF0 + n / 262144))
      = ([], some ⟨n / 262144, if n / 262144 = 0 then 0x90 else 0x80,
          if n / 262144 = 4 then 0x8F else 0xBF, 2⟩) := by
  have ho : (UInt8.ofNat (0xF0 + n / 262144)).toNat = 0xF0 + n / 262144 := by
    rw [UInt8.toNat_ofNat']
    omega
  simp only [start, ho]
  rw [if_neg (by omega), if_neg (by omega), if_neg (by omega), if_neg (by omega),
    if_pos (by omega)]
  have hlow : 0xF0 + n / 262144 = 0xF0 ↔ n / 262144 = 0 := by omega
  have hhigh : 0xF0 + n / 262144 = 0xF4 ↔ n / 262144 = 4 := by omega
  simp only [hlow, hhigh, Nat.add_sub_cancel_left]

/-- The code points that are no surrogates. -/
lemma toNat_valid (c : Char) : c.toNat < 0xD800 ∨ 0xDFFF < c.toNat ∧ c.toNat < 0x110000 :=
  c.valid

end Utf8

namespace Percent

open Utf8

lemma readFrom_octet (s : State) (o : UInt8) (rest : List Piece) :
    readFrom s (.octet o :: rest) = (advance s o).1 ++ readFrom (advance s o).2 rest := rfl

/-- **The octets of a character are read as that character**, and the reader stands between two
characters again. -/
lemma readFrom_octets (c : Char) (rest : List Piece) :
    readFrom none ((octets c).map Piece.octet ++ rest) = c :: readFrom none rest := by
  have hvalid := toNat_valid c
  have hc : Char.ofNat c.toNat = c := Char.ofNat_toNat c
  set n := c.toNat with hn
  by_cases h1 : n < 0x80
  · have ho : (UInt8.ofNat n).toNat = n := by
      rw [UInt8.toNat_ofNat']
      omega
    have hstart : start (UInt8.ofNat n) = ([c], none) := by
      simp only [start, ho]
      rw [if_pos h1, hc]
    simp only [octets, ← hn, if_pos h1, List.map_cons, List.map_nil, List.cons_append,
      List.nil_append, readFrom_octet, advance, hstart]
  by_cases h2 : n < 0x800
  · simp only [octets, ← hn, if_neg h1, if_pos h2, List.map_cons, List.map_nil, List.cons_append,
      List.nil_append, readFrom_octet]
    rw [show advance none (UInt8.ofNat (0xC0 + n / 64)) = _ from
        start_two (Nat.le_of_not_lt h1) h2,
      advance_continuation_last (by omega) (by omega),
      show n / 64 * 64 + n % 64 = n by omega, hc]
    simp
  by_cases h3 : n < 0x10000
  · have hlow : (if n / 4096 = 0 then 0xA0 else 0x80) ≤ 0x80 + n / 64 % 64 := by
      split <;> omega
    have hhigh : 0x80 + n / 64 % 64 ≤ if n / 4096 = 13 then 0x9F else 0xBF := by
      split <;> omega
    simp only [octets, ← hn, if_neg h1, if_neg h2, if_pos h3, List.map_cons, List.map_nil,
      List.cons_append, List.nil_append, readFrom_octet]
    rw [show advance none (UInt8.ofNat (0xE0 + n / 4096)) = _ from
        start_three (Nat.le_of_not_lt h2) h3,
      advance_continuation hlow hhigh, advance_continuation_last (by omega) (by omega),
      show (n / 4096 * 64 + n / 64 % 64) * 64 + n % 64 = n by omega, hc]
    simp
  · have hlow : (if n / 262144 = 0 then 0x90 else 0x80) ≤ 0x80 + n / 4096 % 64 := by
      split <;> omega
    have hhigh : 0x80 + n / 4096 % 64 ≤ if n / 262144 = 4 then 0x8F else 0xBF := by
      split <;> omega
    simp only [octets, ← hn, if_neg h1, if_neg h2, if_neg h3, List.map_cons, List.map_nil,
      List.cons_append, List.nil_append, readFrom_octet]
    rw [show advance none (UInt8.ofNat (0xF0 + n / 262144)) = _ from
        start_four (Nat.le_of_not_lt h3) (by omega),
      advance_continuation hlow hhigh, advance_continuation (by omega) (by omega),
      advance_continuation_last (by omega) (by omega),
      show ((n / 262144 * 64 + n / 4096 % 64) * 64 + n / 64 % 64) * 64 + n % 64 = n by omega, hc]
    simp

/-! ### The characters that are written -/

lemma isKept_upperHexDigit (n : Nat) : isKept (upperHexDigit n) = true := by
  have hall : ∀ m < 16, isKept (Nat.digitChar m).toUpper = true := by decide
  exact hall (n % 16) (Nat.mod_lt n (by omega))

/-- What is kept as it is is a printing character of ASCII. -/
lemma graphic_of_isKept {c : Char} (h : isKept c = true) : 0x20 < c.toNat ∧ c.toNat < 0x7F := by
  simp only [isKept, Char.isAlphanum, Char.isAlpha, Char.isUpper, Char.isLower, Char.isDigit,
    Bool.or_eq_true, Bool.and_eq_true, decide_eq_true_eq, beq_iff_eq, ge_iff_le,
    UInt32.le_iff_toNat_le] at h
  change ((((((65 ≤ c.toNat ∧ c.toNat ≤ 90) ∨ 97 ≤ c.toNat ∧ c.toNat ≤ 122) ∨
    48 ≤ c.toNat ∧ c.toNat ≤ 57) ∨ c = '_') ∨ c = '.') ∨ c = '-') ∨ c = '~' at h
  rcases h with ((((h | rfl) | rfl) | rfl) | rfl)
  · omega
  all_goals decide

lemma isBlank_of_isKept {c : Char} (h : isKept c = true) : isBlank c = false :=
  isBlank_of_graphic (graphic_of_isKept h).1 (graphic_of_isKept h).2

/-- What is written consists of kept characters and percent signs. -/
lemma mem_encode {t : Text} {c : Char} (h : c ∈ encode t) : isKept c = true ∨ c = '%' := by
  obtain ⟨d, -, hd⟩ := List.mem_flatMap.1 h
  rw [encodeChar] at hd
  split at hd
  · next hkept =>
    rw [List.mem_singleton] at hd
    exact Or.inl (hd ▸ hkept)
  · obtain ⟨o, -, ho⟩ := List.mem_flatMap.1 hd
    simp only [escape, List.mem_cons, List.not_mem_nil, or_false] at ho
    rcases ho with rfl | rfl | rfl
    · exact Or.inr rfl
    · exact Or.inl (isKept_upperHexDigit _)
    · exact Or.inl (isKept_upperHexDigit _)

/-- A character that is not kept is not written, the percent sign apart. -/
lemma not_mem_encode {c : Char} (hc : isKept c = false) (hp : c ≠ '%') (t : Text) :
    c ∉ encode t := by
  intro h
  rcases mem_encode h with h | h
  · simp [hc] at h
  · exact hp h

lemma encodeChar_ne_nil (c : Char) : encodeChar c ≠ [] := by
  rw [encodeChar]
  split
  · simp
  · have hne : octets c ≠ [] := by
      unfold octets
      dsimp only
      split_ifs <;> simp
    obtain ⟨o, os, hos⟩ := List.exists_cons_of_ne_nil hne
    simp [hos, escape]

@[simp] lemma encode_eq_nil_iff {t : Text} : encode t = [] ↔ t = [] := by
  cases t with
  | nil => simp [encode]
  | cons c t => simp [encode, encodeChar_ne_nil]

/-! ### Nothing is lost altogether -/

/-- An octet completes a character, or leaves the reader within one. -/
lemma advance_ne_nil_or (s : State) (o : UInt8) :
    (advance s o).1 ≠ [] ∨ (advance s o).2 ≠ none := by
  have hstart : (start o).1 ≠ [] ∨ (start o).2 ≠ none := by
    unfold start
    dsimp only
    split_ifs <;> simp
  cases s with
  | none => exact hstart
  | some b =>
    by_cases h : b.low ≤ o.toNat ∧ o.toNat ≤ b.high
    · simp only [advance, if_pos h, Begun.extend]
      cases b.later <;> simp
    · simp [advance, if_neg h]

lemma readFrom_eq_nil_iff {s : State} {ps : List Piece} :
    readFrom s ps = [] ↔ s = none ∧ ps = [] := by
  induction ps generalizing s with
  | nil => cases s <;> simp [readFrom, finish]
  | cons p ps ih =>
    cases p with
    | literal c => simp [readFrom]
    | octet o =>
      rw [readFrom_octet, List.append_eq_nil_iff, ih]
      rcases advance_ne_nil_or s o with h | h <;> simp [h]

lemma pieces_eq_nil_iff {t : Text} : pieces t = [] ↔ t = [] := by
  unfold pieces
  split
  · split <;> simp
  · simp
  · simp

/-- Only the empty text is read as the empty value. -/
lemma decode_eq_nil_iff {t : Text} : decode t = [] ↔ t = [] := by
  rw [decode]
  split
  · rw [readFrom_eq_nil_iff, pieces_eq_nil_iff, List.map_eq_nil_iff]
    simp
  · rfl

end Percent

end Listing.Text
