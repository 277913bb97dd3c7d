import Mathlib
import Listing.Proofs.Request.Grammar

/-!
# What a token asks for

`Admissible` tells which tokens can be read.  Here it is said what is read: `Asks` gives, in terms
of the text of a token alone, the one thing that the token asks for.  It has a case for each way
in which a token can be read, as `Faulty` has one for each way in which it cannot.
-/

namespace Listing

open Text

namespace Token

/-- The tokens that can be read, each with what it asks for. -/
inductive Asks : Text → Token → Prop
  /-- A blank token asks for nothing. -/
  | blank {t : Text} : blank t = true → Asks t .nothing
  /-- Nor does a key without a value. -/
  | noValue {t key value : Text} : CutAt '=' t key value → Text.blank key = false →
      Text.blank value = true → Asks t .nothing
  /-- An order has a colon. -/
  | order {t value : Text} : IsPair t "order" value → ':' ∈ value → Asks t (.order value)
  /-- A number of the page is anything but a run of too many digits. -/
  | page {t value : Text} {key : PageKey} : IsPair t key.word value →
      ¬(Numeral.isDigits value = true ∧ 4300 < value.length) → Asks t (.page key value)
  /-- A value with one colon is a filter, if any of its values is not blank. -/
  | filter {t key value word values : Text} {c : Comparison} : IsPair t key value →
      key ∉ Filters.reserved → CutAt ':' value word values → trim word = c.word →
      (Filter.of c (Filter.readValues values)).values ≠ [] →
      Asks t (.filter key (.of c (Filter.readValues values)))
  /-- A filter with blank values only asks for nothing. -/
  | noFilter {t key value word values : Text} {c : Comparison} : IsPair t key value →
      key ∉ Filters.reserved → CutAt ':' value word values → trim word = c.word →
      (Filter.of c (Filter.readValues values)).values = [] → Asks t .nothing
  /-- A value without a colon is one that the field has to equal. -/
  | value {t key value : Text} : IsPair t key value → key ∉ Filters.reserved → ':' ∉ value →
      Text.blank (Percent.decode value) = false → Asks t (.value key (Percent.decode value))
  /-- A value that spells a blank one asks for nothing. -/
  | blankValue {t key value : Text} : IsPair t key value → key ∉ Filters.reserved → ':' ∉ value →
      Text.blank (Percent.decode value) = true → Asks t .nothing

lemma read_of_asks {t : Text} {token : Token} (h : Asks t token) : read t = .ok token := by
  cases h with
  | blank hb => exact read_of_blank hb
  | noValue hcut hkey hvalue =>
    rw [read_of_cutAt hcut, if_neg (by simp [hkey]), if_pos hvalue]
  | order hpair hcolon => rw [read_of_isPair hpair, readPair_order, if_pos hcolon]
  | page hpair hdigits => rw [read_of_isPair hpair, readPair_page, readPage_eq_ok hdigits]
  | filter hpair hkey hcut hc hne =>
    rw [read_of_isPair hpair, readPair_field hkey, readField_of_cutAt hpair.trim_value hcut hc,
      if_neg (by simpa using hne)]
  | noFilter hpair hkey hcut hc hnil =>
    rw [read_of_isPair hpair, readPair_field hkey, readField_of_cutAt hpair.trim_value hcut hc,
      if_pos (by simpa using hnil)]
  | value hpair hkey hcolon hb =>
    rw [read_of_isPair hpair, readPair_field hkey, readField_of_not_mem hcolon,
      if_neg (by simp [hb])]
  | blankValue hpair hkey hcolon hb =>
    rw [read_of_isPair hpair, readPair_field hkey, readField_of_not_mem hcolon, if_pos hb]

/-- A pair whose value suits its key asks for something. -/
lemma exists_asks_of_suits {t key value : Text} (hpair : IsPair t key value)
    (h : Suits key value) : ∃ token, Asks t token := by
  by_cases hreserved : key ∈ Filters.reserved
  · simp only [Filters.reserved, List.mem_cons, List.not_mem_nil, or_false] at hreserved
    rcases hreserved with rfl | hpage
    · exact ⟨_, .order hpair (h.order rfl)⟩
    · obtain ⟨pageKey, rfl⟩ := exists_pageKey hpage
      exact ⟨_, .page hpair (h.page hpage)⟩
  by_cases hcolon : ':' ∈ value
  · obtain ⟨word, values, hcut, c, hc⟩ := h.field hreserved hcolon
    by_cases hvalues : (Filter.of c (Filter.readValues values)).values = []
    · exact ⟨_, .noFilter hpair hreserved hcut hc hvalues⟩
    · exact ⟨_, .filter hpair hreserved hcut hc hvalues⟩
  · cases hb : Text.blank (Percent.decode value) with
    | true => exact ⟨_, .blankValue hpair hreserved hcolon hb⟩
    | false => exact ⟨_, .value hpair hreserved hcolon hb⟩

/-- **What is read of a token** is what it asks for. -/
lemma read_eq_ok_iff_asks {t : Text} {token : Token} : read t = .ok token ↔ Asks t token := by
  refine ⟨fun h => ?_, read_of_asks⟩
  have hasks : ∃ token', Asks t token' := by
    rcases read_eq_ok_iff.1 ⟨token, h⟩ with hb | ⟨key, value, hcut, hkey, hsuits⟩
    · exact ⟨_, .blank hb⟩
    · cases hvalue : Text.blank value with
      | true => exact ⟨_, .noValue hcut hkey hvalue⟩
      | false =>
        exact exists_asks_of_suits ⟨key, value, hcut, hkey, hvalue, rfl, rfl⟩ (hsuits hvalue)
  obtain ⟨token', htoken'⟩ := hasks
  have heq : token = token' := Except.ok.inj (h.symm.trans (read_of_asks htoken'))
  exact heq ▸ htoken'

end Token

end Listing
