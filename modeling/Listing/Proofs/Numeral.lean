import Mathlib
import Listing.Numeral
import Listing.Request.Token

/-!
# Numerals read back

The digits of a number denote that number, and a number of a page has few enough digits to be
converted, so the numbers that a request is written with are the numbers that are read.  A sign in
front of a numeral is told apart from what follows it, as long as that has no sign of its own.
`Spells` is the number that a numeral denotes by the places of its digits, leading zeros and all.
-/

namespace Listing

namespace Numeral

lemma ofNat_ne_nil (n : Nat) : ofNat n ≠ [] :=
  Nat.toDigits_ne_nil

lemma isDigit_of_mem_ofNat {n : Nat} {c : Char} (h : c ∈ ofNat n) : c.isDigit = true :=
  Nat.isDigit_of_mem_toDigits (by omega) (by omega) h

lemma isDigits_iff {t : Text} : isDigits t = true ↔ t ≠ [] ∧ ∀ c ∈ t, c.isDigit = true := by
  simp only [isDigits, Bool.and_eq_true, Bool.not_eq_true', List.isEmpty_eq_false_iff,
    List.all_eq_true]

lemma isDigits_ofNat (n : Nat) : isDigits (ofNat n) = true :=
  isDigits_iff.2 ⟨ofNat_ne_nil n, fun _ => isDigit_of_mem_ofNat⟩

@[simp] lemma value_ofNat (n : Nat) : value (ofNat n) = n :=
  Nat.ofDigitChars_toDigits (by omega) (by omega)

/-- A run of digits that can be converted is refused by its length alone. -/
lemma value?_eq_none_iff {t : Text} : value? t = none ↔ maxDigits < t.length := by
  simp [value?]

lemma length_ofNat_le_of_lt {n : Nat} (h : n < 10 ^ 19) : (ofNat n).length ≤ maxDigits := by
  have := (Nat.length_toDigits_le_iff (b := 10) (by omega) (by omega)).2 h
  exact Nat.le_trans this (by decide)

lemma length_ofNat_pos (n : ℕ) : 0 < (ofNat n).length :=
  List.length_pos_iff.2 (ofNat_ne_nil n)

/-- A number is below the power of ten that its digits leave room for. -/
lemma lt_pow_length_ofNat (n : ℕ) : n < 10 ^ (ofNat n).length :=
  (Nat.length_toDigits_le_iff (by omega) (length_ofNat_pos n)).1 le_rfl

/-- A positive number is not below the place of its first digit. -/
lemma pow_length_ofNat_le {n : ℕ} (h : 0 < n) : 10 ^ ((ofNat n).length - 1) ≤ n := by
  rcases Nat.eq_zero_or_pos ((ofNat n).length - 1) with hone | hmore
  · rw [hone]
    exact h
  · by_contra hlt
    have hlength : (ofNat n).length ≤ (ofNat n).length - 1 :=
      (Nat.length_toDigits_le_iff (by omega) hmore).2 (Nat.not_le.1 hlt)
    omega

lemma length_ofNat_le {n : Nat} (h : n ≤ maxPage) : (ofNat n).length ≤ maxDigits := by
  rw [maxPage] at h
  exact length_ofNat_le_of_lt (by omega)

/-! ### Signs -/

/-- The signs that a numeral may have, none among them. -/
def signs : List Text := ["", "+", "-"]

lemma eq_of_mem_sign {sign : Text} (h : sign ∈ signs) : ∀ c ∈ sign, c = '+' ∨ c = '-' := by
  simp only [signs, List.mem_cons, List.not_mem_nil, or_false] at h
  rcases h with rfl | rfl | rfl <;> simp

lemma exists_sign (t : Text) : ∃ sign ∈ signs, t = sign ++ (splitSign t).2 := by
  rw [splitSign.eq_def]
  split
  · exact ⟨"-", by decide, rfl⟩
  · exact ⟨"+", by decide, rfl⟩
  · exact ⟨"", by decide, rfl⟩

lemma splitSign_of_head? {t : Text} (h : ∀ c ∈ t.head?, c ≠ '+' ∧ c ≠ '-') :
    splitSign t = (false, t) := by
  cases t with
  | nil => rfl
  | cons c t =>
    obtain ⟨hplus, hminus⟩ := h c rfl
    simp [splitSign, hplus, hminus]

lemma splitSign_append {sign rest : Text} (hsign : sign ∈ signs)
    (hrest : ∀ c ∈ rest.head?, c ≠ '+' ∧ c ≠ '-') : (splitSign (sign ++ rest)).2 = rest := by
  simp only [signs, List.mem_cons, List.not_mem_nil, or_false] at hsign
  rcases hsign with rfl | rfl | rfl
  · exact congrArg Prod.snd (splitSign_of_head? hrest)
  · rfl
  · rfl

/-- What follows a sign, if it has no sign of its own, is what is left when the sign is taken
off. -/
lemma exists_sign_append_iff {P : Text → Prop}
    (hP : ∀ rest, P rest → ∀ c ∈ rest.head?, c ≠ '+' ∧ c ≠ '-') {t : Text} :
    (∃ sign ∈ signs, ∃ rest, t = sign ++ rest ∧ P rest) ↔ P (splitSign t).2 := by
  constructor
  · rintro ⟨sign, hsign, rest, rfl, hrest⟩
    rwa [splitSign_append hsign (hP rest hrest)]
  · intro h
    obtain ⟨sign, hsign, ht⟩ := exists_sign t
    exact ⟨sign, hsign, _, ht, h⟩

lemma ne_sign_of_isDigit {c : Char} (h : c.isDigit = true) : c ≠ '+' ∧ c ≠ '-' := by
  constructor <;> rintro rfl <;> exact absurd h (by decide)

lemma head?_of_isDigits {t : Text} (h : isDigits t = true) : ∀ c ∈ t.head?, c ≠ '+' ∧ c ≠ '-' :=
  fun c hc => ne_sign_of_isDigit ((isDigits_iff.1 h).2 c (List.mem_of_mem_head? hc))

/-! ### The number that is denoted -/

/-- The number that digits denote by their places, the last one counting ones. -/
def places (t : Text) : ℕ :=
  Nat.ofDigits 10 (t.reverse.map fun c => c.toNat - '0'.toNat)

/-- A run of digits, with or without a sign, and the whole number that it denotes. -/
inductive Spells : Text → ℤ → Prop
  | unsigned {t : Text} : isDigits t = true → Spells t (places t)
  | plus {t : Text} : isDigits t = true → Spells ('+' :: t) (places t)
  | minus {t : Text} : isDigits t = true → Spells ('-' :: t) (-places t)

lemma value_eq_places (t : Text) : value t = places t := by
  induction t using List.reverseRecOn with
  | nil => rfl
  | append_singleton t c ih =>
    rw [value_append_digit, ih, places, places, List.reverse_append, List.reverse_singleton,
      List.singleton_append, List.map_cons, Nat.ofDigits_cons, Nat.add_comm]

lemma splitSign_of_isDigits {t : Text} (h : isDigits t = true) : splitSign t = (false, t) :=
  splitSign_of_head? (head?_of_isDigits h)

/-- A numeral is what a sign can be taken off to leave digits. -/
lemma spells_iff {t : Text} {n : ℤ} :
    Spells t n ↔ isDigits (splitSign t).2 = true ∧
      n = signed (splitSign t).1 (value (splitSign t).2) := by
  constructor
  · intro h
    cases h with
    | unsigned h =>
      rw [splitSign_of_isDigits h, value_eq_places]
      exact ⟨h, rfl⟩
    | plus h => exact ⟨h, by rw [splitSign, value_eq_places]; rfl⟩
    | minus h => exact ⟨h, by rw [splitSign, value_eq_places]; rfl⟩
  · rw [splitSign.eq_def]
    split
    all_goals
      rintro ⟨h, rfl⟩
      rw [value_eq_places]
    · exact .minus h
    · exact .plus h
    · exact .unsigned h

lemma mem_of_spells {t : Text} {n : ℤ} (h : Spells t n) :
    ∀ c ∈ t, c.isDigit = true ∨ c = '+' ∨ c = '-' := by
  have hdigits {t : Text} (h : isDigits t = true) (c : Char) (hc : c ∈ t) :
      c.isDigit = true ∨ c = '+' ∨ c = '-' := .inl ((isDigits_iff.1 h).2 c hc)
  cases h with
  | unsigned h => exact hdigits h
  | plus h => exact List.forall_mem_cons.2 ⟨.inr (.inl rfl), hdigits h⟩
  | minus h => exact List.forall_mem_cons.2 ⟨.inr (.inr rfl), hdigits h⟩

lemma splitSign_ofInt (n : ℤ) : splitSign (ofInt n) = (decide (n < 0), ofNat n.natAbs) := by
  cases n with
  | ofNat n =>
    have hneg : ¬Int.ofNat n < 0 := by simp
    rw [ofInt, splitSign_of_isDigits (isDigits_ofNat n), decide_eq_false hneg]
    rfl
  | negSucc n =>
    rw [decide_eq_true (Int.negSucc_lt_zero n)]
    rfl

lemma spells_ofInt (n : ℤ) : Spells (ofInt n) n := by
  refine spells_iff.2 ⟨?_, ?_⟩
  · rw [splitSign_ofInt]
    exact isDigits_ofNat _
  · rw [splitSign_ofInt, value_ofNat, signed]
    split
    · next h =>
      have hneg : n < 0 := of_decide_eq_true h
      omega
    · next h =>
      have hneg : ¬n < 0 := of_decide_eq_false (Bool.eq_false_iff.2 h)
      omega

end Numeral

/-- A number of a page is read back from its numeral. -/
lemma Token.pageNumber?_ofNat {n : Nat} (h : n ≤ maxPage) :
    Token.pageNumber? (Numeral.ofNat n) = some n := by
  simp [Token.pageNumber?, Numeral.isDigits_ofNat, h]

end Listing
