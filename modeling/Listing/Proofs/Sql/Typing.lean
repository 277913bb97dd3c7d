import Mathlib
import Listing.Sql.Value
import Listing.Proofs.Numeral
import Listing.Proofs.Double.Notation

/-!
# The types that texts take

A value of a filter is typed by its text, unless its comparison has a pattern.  The one text that
is refused is a numeral with more digits than are ever converted; of the others, those that become
integers fit into 64 bits.

What type a text takes can be told from its form.  A numeral is an integer or, if it is too large,
a real; another text is a real if it is in the notation of floating point numbers, and else it stays
the text that it is.
-/

namespace Listing

/-- A sign, or none, and more digits than are ever converted. -/
def Numeral.Overlong (t : Text) : Prop :=
  ∃ sign ∈ signs, ∃ digits, t = sign ++ digits ∧
    (∀ c ∈ digits, c.isDigit = true) ∧ 4300 < digits.length

lemma Numeral.overlong_iff {t : Text} :
    Overlong t ↔ isDigits (splitSign t).2 = true ∧ value? (splitSign t).2 = none := by
  have hdigits (digits : Text) : ((∀ c ∈ digits, c.isDigit = true) ∧ 4300 < digits.length) ↔
      isDigits digits = true ∧ value? digits = none := by
    rw [isDigits_iff, value?_eq_none_iff]
    constructor
    · rintro ⟨h, hlength⟩
      exact ⟨⟨List.ne_nil_of_length_pos (by omega), h⟩, hlength⟩
    · rintro ⟨⟨-, h⟩, hlength⟩
      exact ⟨h, hlength⟩
  simp only [Overlong, hdigits]
  exact exists_sign_append_iff fun _ h => head?_of_isDigits h.1

namespace Sql.Value

/-- The comparisons whose values are typed by their text. -/
def typed : List Comparison :=
  [.equals, .between, .less, .lessOrEqual, .greater, .greaterOrEqual]

lemma wildcards?_eq_none_iff {c : Comparison} : wildcards? c = none ↔ c ∈ typed := by
  cases c <;> simp [wildcards?, typed]

/-- How a text is bound that is not the null word, if its comparison has no pattern. -/
lemma bind_of_typed {c : Comparison} (hc : c ∈ typed) {t : Text} (ht : t ≠ nullWord) :
    bind c t = infer t := by
  rw [bind, if_neg ht, wildcards?_eq_none_iff.2 hc]

/-- In a pattern a text is bound as a text. -/
lemma bind_of_not_typed {c : Comparison} (hc : c ∉ typed) {t : Text} (ht : t ≠ nullWord) :
    ∃ t', bind c t = .ok (.text t') := by
  rw [bind, if_neg ht]
  cases hw : wildcards? c with
  | none => exact absurd (wildcards?_eq_none_iff.1 hw) hc
  | some w => exact ⟨_, rfl⟩

/-! ### Faults -/

/-- **Typing** refuses numerals that are too long, and nothing else. -/
lemma infer_eq_error_iff {t : Text} {fault : ValueFault} :
    infer t = .error fault ↔ fault = .tooManyDigits ∧ Numeral.Overlong t := by
  rw [Numeral.overlong_iff, infer]
  cases hdigits : Numeral.isDigits (Numeral.splitSign t).2 with
  | false => simp [hdigits]
  | true =>
    cases hvalue : Numeral.value? (Numeral.splitSign t).2 with
    | none => simp [hdigits, hvalue, eq_comm]
    | some n => simp [hdigits, hvalue]

lemma bind_eq_error_iff {c : Comparison} {t : Text} {fault : ValueFault} :
    bind c t = .error fault ↔
      fault = .tooManyDigits ∧ c ∈ typed ∧ t ≠ nullWord ∧ Numeral.Overlong t := by
  by_cases ht : t = nullWord
  · simp [bind, ht]
  · by_cases hc : c ∈ typed
    · rw [bind_of_typed hc ht, infer_eq_error_iff]
      simp [hc, ht]
    · obtain ⟨t', ht'⟩ := bind_of_not_typed hc ht
      simp [ht', hc]

/-! ### Integers -/

lemma ofNotation_ne_integer (t : Text) (n : ℤ) : ofNotation t ≠ .integer n := by
  rw [ofNotation]
  split <;> simp

/-- An integer that a text is typed as fits into 64 bits. -/
lemma fits_of_infer {t : Text} {n : ℤ} (h : infer t = .ok (.integer n)) : fits n = true := by
  have hnotation (h : (.ok (ofNotation t) : Except ValueFault Value) = .ok (.integer n)) :
      fits n = true :=
    absurd (Except.ok.inj h) (ofNotation_ne_integer t n)
  rw [infer] at h
  simp only at h
  split at h
  · split at h
    · cases h
    · next size _ =>
      split at h
      · next hfits =>
        simp only [Except.ok.injEq, integer.injEq] at h
        exact h ▸ hfits
      · exact hnotation h
  · exact hnotation h

lemma fits_of_bind {c : Comparison} {t : Text} {n : ℤ} (h : bind c t = .ok (.integer n)) :
    fits n = true := by
  by_cases ht : t = nullWord
  · simp [bind, ht] at h
  · by_cases hc : c ∈ typed
    · rw [bind_of_typed hc ht] at h
      exact fits_of_infer h
    · obtain ⟨t', ht'⟩ := bind_of_not_typed hc ht
      simp [ht'] at h

lemma fits_iff {n : ℤ} : fits n = true ↔ -2 ^ 63 ≤ n ∧ n ≤ 2 ^ 63 - 1 := by
  rw [fits, Bool.and_eq_true, decide_eq_true_eq, decide_eq_true_eq]
  omega

/-! ### Types by the form of the text -/

lemma infer_of_spells {t : Text} {n : ℤ} (h : Numeral.Spells t n) (hlong : ¬Numeral.Overlong t) :
    infer t = .ok (if fits n then .integer n else ofNotation t) := by
  obtain ⟨hdigits, rfl⟩ := Numeral.spells_iff.1 h
  have hvalue : Numeral.value? (Numeral.splitSign t).2 =
      some (Numeral.value (Numeral.splitSign t).2) := by
    rw [Numeral.overlong_iff, not_and, Numeral.value?_eq_none_iff, Nat.not_lt] at hlong
    exact if_pos (hlong hdigits)
  simp only [infer, hdigits, if_true, hvalue]

lemma infer_of_not_spells {t : Text} (h : ¬∃ n, Numeral.Spells t n) :
    infer t = .ok (ofNotation t) := by
  have hdigits : Numeral.isDigits (Numeral.splitSign t).2 = false := by
    rw [← Bool.not_eq_true]
    exact fun hdigits => h ⟨_, Numeral.spells_iff.2 ⟨hdigits, rfl⟩⟩
  rw [infer]
  simp only [hdigits, Bool.false_eq_true, if_false]

lemma exists_ofNotation_eq_real {t : Text} (h : Double.Written t) :
    ∃ x, ofNotation t = .real x := by
  obtain ⟨x, hx⟩ := Double.exists_read?_iff.2 h
  exact ⟨x, by rw [ofNotation, hx]⟩

lemma ofNotation_eq_text {t : Text} (h : ¬Double.Written t) : ofNotation t = .text t := by
  have hnone : Double.read? t = none := by
    rw [Option.eq_none_iff_forall_ne_some]
    exact fun x hx => h (Double.exists_read?_iff.1 ⟨x, hx⟩)
  rw [ofNotation, hnone]

lemma not_overlong_ofInt {n : ℤ} (h : fits n = true) : ¬Numeral.Overlong (Numeral.ofInt n) := by
  rw [fits_iff] at h
  rw [Numeral.overlong_iff, Numeral.splitSign_ofInt, Numeral.value?_eq_none_iff, not_and,
    Nat.not_lt]
  exact fun _ => Numeral.length_ofNat_le_of_lt (by omega)

/-- **Texts are typed by their form.**  A sign, or none, and digits are refused if there are too
many digits, and else are the integer that they denote if it fits into 64 bits, and a real if not.
Any other text is a real if it is in the notation of floating point numbers, which has no blanks,
no underscores and no characters outside of ASCII, and else it is a text and stays as it is.  So an
integer that fits is read back from its numeral. -/
theorem infer_by_form (t : Text) :
    (∀ n, Numeral.Spells t n →
      Numeral.Overlong t ∧ infer t = .error .tooManyDigits ∨
      ¬Numeral.Overlong t ∧ (-2 ^ 63 ≤ n ∧ n ≤ 2 ^ 63 - 1) ∧ infer t = .ok (.integer n) ∨
      ¬Numeral.Overlong t ∧ ¬(-2 ^ 63 ≤ n ∧ n ≤ 2 ^ 63 - 1) ∧ ∃ x, infer t = .ok (.real x)) ∧
    ((¬∃ n, Numeral.Spells t n) →
      Double.Written t ∧ (∀ c ∈ t, Double.Plain c) ∧ (∃ x, infer t = .ok (.real x)) ∨
      ¬Double.Written t ∧ infer t = .ok (.text t)) ∧
    ∀ n, -2 ^ 63 ≤ n → n ≤ 2 ^ 63 - 1 → infer (Numeral.ofInt n) = .ok (.integer n) := by
  refine ⟨fun n hn => ?_, fun hnone => ?_, fun n hlow hhigh => ?_⟩
  · by_cases hlong : Numeral.Overlong t
    · exact .inl ⟨hlong, infer_eq_error_iff.2 ⟨rfl, hlong⟩⟩
    · right
      have hinfer := infer_of_spells hn hlong
      rw [← fits_iff]
      by_cases hfits : fits n = true
      · rw [if_pos hfits] at hinfer
        exact .inl ⟨hlong, hfits, hinfer⟩
      · rw [if_neg hfits] at hinfer
        obtain ⟨x, hx⟩ := exists_ofNotation_eq_real (Double.written_of_spells hn)
        exact .inr ⟨hlong, hfits, x, hx ▸ hinfer⟩
  · have hinfer := infer_of_not_spells hnone
    by_cases hwritten : Double.Written t
    · obtain ⟨x, hx⟩ := exists_ofNotation_eq_real hwritten
      exact .inl ⟨hwritten, hwritten.plain, x, hx ▸ hinfer⟩
    · exact .inr ⟨hwritten, ofNotation_eq_text hwritten ▸ hinfer⟩
  · have hfits := fits_iff.2 ⟨hlow, hhigh⟩
    rw [infer_of_spells (Numeral.spells_ofInt n) (not_overlong_ofInt hfits), if_pos hfits]

/-- The least integer behind leading zeros, the first one that is too large behind a sign, and a
decimal number that starts with its point. -/
theorem infer_by_form_edges :
    Numeral.Spells "-009223372036854775808" (-2 ^ 63) ∧
      infer "-009223372036854775808" = .ok (.integer (-2 ^ 63)) ∧
      Numeral.Spells "+9223372036854775808" (2 ^ 63) ∧
      (∃ x, infer "+9223372036854775808" = .ok (.real x)) ∧
      (¬∃ n, Numeral.Spells ".5E-3" n) ∧ Double.Written ".5E-3" ∧
      ∃ x, infer ".5E-3" = .ok (.real x) := by
  have hleast : Numeral.Spells "-009223372036854775808" (-2 ^ 63) :=
    Numeral.spells_iff.2 ⟨by decide, by decide⟩
  have hlarge : Numeral.Spells "+9223372036854775808" (2 ^ 63) :=
    Numeral.spells_iff.2 ⟨by decide, by decide⟩
  have hnone : ¬∃ n, Numeral.Spells ".5E-3" n :=
    fun ⟨n, hn⟩ => absurd (Numeral.spells_iff.1 hn).1 (by decide)
  have hwritten : Double.Written ".5E-3" := Double.exists_read?_iff.1 ⟨_, rfl⟩
  refine ⟨hleast, ?_, hlarge, ?_, hnone, hwritten, ?_⟩
  · rcases (infer_by_form _).1 _ hleast with ⟨hlong, -⟩ | ⟨-, -, h⟩ | ⟨-, hfits, -⟩
    · exact absurd (Numeral.overlong_iff.1 hlong) (by decide)
    · exact h
    · exact absurd (by decide) hfits
  · rcases (infer_by_form _).1 _ hlarge with ⟨hlong, -⟩ | ⟨-, hfits, -⟩ | ⟨-, -, h⟩
    · exact absurd (Numeral.overlong_iff.1 hlong) (by decide)
    · exact absurd hfits (by decide)
    · exact h
  · rcases (infer_by_form _).2.1 hnone with ⟨-, -, h⟩ | ⟨h, -⟩
    · exact h
    · exact absurd hwritten h

end Sql.Value

end Listing
