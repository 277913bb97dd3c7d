import Mathlib
import Listing.Double.Reading
import Listing.Proofs.Numeral

/-!
# Doubles that are not a number

Rounding leads to a finite double or to an infinity, however large the quotient is.  So of all
texts in the notation of floating point numbers only the word for it, in any case and behind any
sign, denotes a double that is not a number.
-/

namespace Listing

namespace Double

/-- A sign, or none, and the word for what is not a number, in any case. -/
def SpellsNaN (t : Text) : Prop :=
  ∃ sign ∈ Numeral.signs, ∃ word, t = sign ++ word ∧ word.map Char.toLower = "nan"

lemma spellsNaN_iff {t : Text} :
    SpellsNaN t ↔ (Numeral.splitSign t).2.map Char.toLower = "nan" := by
  refine Numeral.exists_sign_append_iff (P := fun word => word.map Char.toLower = "nan") ?_
  intro word hword c hc
  have hlower : c.toLower = 'n' := by
    have hhead := congrArg List.head? hword
    rw [List.head?_map, Option.mem_def.1 hc] at hhead
    simpa using hhead
  constructor <;> rintro rfl <;> exact absurd hlower (by decide)

/-! ### Rounding -/

lemma code_ofCode (negative : Bool) {code : ℕ} (h : code ≤ infinityCode) :
    (ofCode negative code).code = code := by
  have hlt : code < signPlace := Nat.lt_of_le_of_lt h (by decide)
  have hsize : 2 ^ 64 = 2 * signPlace := by decide
  rw [ofCode, Double.code, UInt64.toNat_ofNat']
  cases negative with
  | true =>
    have hbits : signPlace + code < 2 ^ 64 := by omega
    rw [if_pos rfl, Nat.mod_eq_of_lt hbits, Nat.add_mod_left, Nat.mod_eq_of_lt hlt]
  | false =>
    have hbits : code < 2 ^ 64 := by omega
    rw [if_neg (by simp), Nat.mod_eq_of_lt hbits, Nat.mod_eq_of_lt hlt]

lemma isNaN_ofCode (negative : Bool) {code : ℕ} (h : code ≤ infinityCode) :
    (ofCode negative code).isNaN = false := by
  rw [isNaN, code_ofCode negative h]
  exact decide_eq_false (Nat.not_lt.2 h)

lemma isNaN_zero (negative : Bool) : (zero negative).isNaN = false :=
  isNaN_ofCode negative (Nat.zero_le _)

lemma isNaN_infinity (negative : Bool) : (infinity negative).isNaN = false :=
  isNaN_ofCode negative le_rfl

/-- A quotient is rounded to a number, or to an infinity. -/
lemma isNaN_ofRatio (negative : Bool) (num den : ℕ) : (ofRatio negative num den).isNaN = false := by
  rw [ofRatio]
  split
  · exact isNaN_zero negative
  · exact isNaN_ofCode negative (Nat.min_le_left _ _)

lemma isNaN_toDouble (d : Decimal) : d.toDouble.isNaN = false := by
  rw [Decimal.toDouble]
  split_ifs
  · exact isNaN_zero _
  · exact isNaN_infinity _
  · exact isNaN_zero _
  · exact isNaN_ofRatio _ _ _
  · exact isNaN_ofRatio _ _ _

/-! ### Reading -/

/-- **Texts that denote no number** are the spellings of the word for it. -/
lemma exists_read?_isNaN_iff {t : Text} :
    (∃ x, read? t = some x ∧ x.isNaN = true) ↔ SpellsNaN t := by
  rw [spellsNaN_iff, read?]
  simp only
  split
  · next hword =>
    -- the words for infinity are other words
    constructor
    · rintro ⟨x, hx, hnan⟩
      rw [← Option.some.inj hx, isNaN_infinity] at hnan
      cases hnan
    · intro h
      rw [h] at hword
      exact absurd hword (by decide)
  · split
    · next hnan => exact ⟨fun _ => hnan, fun _ => ⟨nan, rfl, by decide⟩⟩
    · next hne =>
      refine ⟨?_, fun h => absurd h hne⟩
      rintro ⟨x, hx, hnan⟩
      obtain ⟨d, -, rfl⟩ := Option.map_eq_some_iff.1 hx
      rw [isNaN_toDouble] at hnan
      cases hnan

end Double

end Listing
