import Mathlib
import Listing.Proofs.Double
import Listing.Proofs.Sql.Typing
import Listing.Proofs.Sql.Values

/-!
# Values that are stored as null

A value of a filter is handed to the database in the type that it has.  A database has nulls, but
nothing that is not a number, and stores a double that is none as a null.  So the null word is not
the only text that becomes a null there: in a comparison without a pattern the spellings of what is
not a number do as well, and the comparison then holds of no row.
-/

namespace Listing.Sql

/-- The bindings that a database stores as nulls: the null itself, and a double that is not a
number. -/
def Binding.StoredNull : Binding → Prop
  | null => True
  | float x => x.isNaN = true
  | int _ | text _ | octets _ => False

namespace Value

lemma storedNull_ofNotation_iff {t : Text} :
    (ofNotation t).binding.StoredNull ↔ Double.SpellsNaN t := by
  rw [← Double.exists_read?_isNaN_iff, ofNotation]
  cases Double.read? t with
  | none => simp [binding, Binding.StoredNull]
  | some x => simp [binding, Binding.StoredNull]

/-- A run of digits is no word. -/
lemma not_spellsNaN_of_isDigits {t : Text}
    (h : Numeral.isDigits (Numeral.splitSign t).2 = true) : ¬Double.SpellsNaN t := by
  rw [Double.spellsNaN_iff]
  intro hword
  simp only [Numeral.isDigits, Bool.and_eq_true, List.all_eq_true] at h
  obtain ⟨c, rest, hrest, hc, -⟩ := List.map_eq_cons_iff.1 hword
  have hdigit : c.isDigit = true := h.2 c (by simp [hrest])
  have hlower : c.toLower = c := by
    refine Char.toLower_eq_of_not_isUpper fun hupper => ?_
    rw [Char.isUpper, decide_eq_true_eq] at hupper
    have hle : c.toNat ≤ 57 := (Char.isDigit_iff_toNat.1 hdigit).2
    have hge : 65 ≤ c.toNat := UInt32.le_iff_toNat_le.1 hupper.1
    omega
  rw [hlower] at hc
  rw [hc] at hdigit
  exact absurd hdigit (by decide)

lemma storedNull_of_infer {t : Text} {v : Value} (h : infer t = .ok v) :
    v.binding.StoredNull ↔ Double.SpellsNaN t := by
  rw [infer] at h
  simp only at h
  split at h
  · next hdigits =>
    split at h
    · cases h
    · -- a numeral that does not fit is read as a double like any other text
      rw [← Except.ok.inj h]
      split
      · exact ⟨False.elim, not_spellsNaN_of_isDigits hdigits⟩
      · exact storedNull_ofNotation_iff
  · rw [← Except.ok.inj h]
    exact storedNull_ofNotation_iff

/-- **One value** is stored as a null if it is the null word, or is typed by its text and spells
what is not a number. -/
lemma storedNull_of_bind {c : Comparison} {t : Text} {v : Value} (h : bind c t = .ok v) :
    v.binding.StoredNull ↔ t = nullWord ∨ (c ∈ typed ∧ Double.SpellsNaN t) := by
  by_cases ht : t = nullWord
  · rw [bind, if_pos ht] at h
    rw [← Except.ok.inj h]
    simp [ht, binding, Binding.StoredNull]
  · by_cases hc : c ∈ typed
    · rw [bind_of_typed hc ht] at h
      rw [storedNull_of_infer h]
      simp [ht, hc]
    · obtain ⟨t', ht'⟩ := bind_of_not_typed hc ht
      rw [h] at ht'
      rw [Except.ok.inj ht']
      simp [ht, hc, binding, Binding.StoredNull]

end Value

/-- **Values that are stored as null.**  Of the values of the filters of a compiled request, each
at its place among the bindings, those are stored as nulls that are the null word, and those that
spell what is not a number in a comparison without a pattern. -/
theorem storedNull_iff_null_or_nan {r : Request} {f : Fragment} (h : compile r = .ok f) {k : ℕ}
    {c : Comparison} {t : Text} (hk : (bound r.filters.entries)[k]? = some (c, t)) :
    ∃ b, (f.values.map Value.binding)[k]? = some b ∧
      (b.StoredNull ↔ t = "null" ∨ (c ∈ Value.typed ∧ Double.SpellsNaN t)) := by
  obtain ⟨-, -, ws, hws, hvalues⟩ := values_eq_ok_iff.1 (compile_eq_ok_iff.1 h).2
  obtain ⟨hlt, hget⟩ := List.getElem?_eq_some_iff.1 hk
  have hlt' : k < ws.length := hws.length_eq ▸ hlt
  have hbind : Value.bind c t = .ok ws[k] := by
    have hrel := List.forall₂_iff_get.1 hws
    simpa [hget] using hrel.2 k hlt hlt'
  refine ⟨ws[k].binding, ?_, Value.storedNull_of_bind hbind⟩
  rw [hvalues, List.map_append, List.getElem?_append_left (by simpa using hlt')]
  simp [hlt']

/-- The null word, a pattern, and a range whose upper end is not a number. -/
theorem storedNull_iff_null_or_nan_range :
    compile ⟨⟨[("a", ⟨.equals, ["null"]⟩), ("b", ⟨.contains, ["nan"]⟩),
          ("c", ⟨.between, ["1", "-NaN", "nan"]⟩)]⟩, ⟨[]⟩, 50, 0⟩ =
        .ok ⟨"WHERE a IS ? AND b LIKE ? AND c BETWEEN ? AND ? LIMIT ? OFFSET ?",
          [.null, .text "%nan%", .integer 1, .real .nan, .integer 50, .integer 0]⟩ ∧
      ∃ b, ([.null, .text "%nan%", .integer 1, .real .nan, .integer 50, .integer 0].map
          Value.binding)[3]? = some b ∧
        (b.StoredNull ↔ ("-NaN" : Text) = "null" ∨
          (Comparison.between ∈ Value.typed ∧ Double.SpellsNaN "-NaN")) := by
  have h : compile ⟨⟨[("a", ⟨.equals, ["null"]⟩), ("b", ⟨.contains, ["nan"]⟩),
        ("c", ⟨.between, ["1", "-NaN", "nan"]⟩)]⟩, ⟨[]⟩, 50, 0⟩ =
      .ok ⟨"WHERE a IS ? AND b LIKE ? AND c BETWEEN ? AND ? LIMIT ? OFFSET ?",
        [.null, .text "%nan%", .integer 1, .real .nan, .integer 50, .integer 0]⟩ := by
    decide +kernel
  exact ⟨h, storedNull_iff_null_or_nan h rfl⟩

/-- The null word is not the only value that is stored as a null. -/
theorem not_storedNull_iff_null_of_nan :
    ¬∀ (r : Request) (f : Fragment), compile r = .ok f → ∀ (k : ℕ) (c : Comparison) (t : Text)
      (b : Binding), (bound r.filters.entries)[k]? = some (c, t) →
      (f.values.map Value.binding)[k]? = some b → (b.StoredNull ↔ t = "null") := by
  intro h
  have hcompile : compile ⟨⟨[("a", ⟨.equals, ["nan"]⟩)]⟩, ⟨[]⟩, 50, 0⟩ =
      .ok ⟨"WHERE a = ? LIMIT ? OFFSET ?", [.real .nan, .integer 50, .integer 0]⟩ := by
    decide +kernel
  have hnull : (Binding.float .nan).StoredNull := by
    rw [Binding.StoredNull]
    decide
  exact absurd ((h _ _ hcompile 0 .equals "nan" (.float .nan) rfl rfl).1 hnull) (by decide)

end Listing.Sql
