import Mathlib
import Listing.Proofs.Request.Editing
import Listing.Proofs.Sql.Typing
import Listing.Proofs.Sql.Values

/-!
# Requests that cannot be compiled

Compiling a request binds the values of its filters, each by its comparison and its own text, and
then the numbers of the page.  The numbers of a request that somebody made fit into 64 bits, so all
that can go wrong is a value of a filter: a numeral with more digits than are ever converted, where
its text is looked at.  In particular a whole number that does not fit is never bound, and so never
reaches the database either.
-/

namespace Listing.Sql

open Editing

/-- A text that a filter binds by its type: the comparison has no pattern, and if it is a range the
text belongs to a pair of which both ends are there. -/
structure Binds (f : Filter) (t : Text) : Prop where
  typed : f.comparison ∈ Value.typed
  held : ∃ i, f.values[i]? = some t ∧
    (f.comparison = .between → 2 * (i / 2) + 1 < f.values.length)

lemma mem_boundTexts_iff {f : Filter} {t : Text} :
    t ∈ boundTexts f ↔ ∃ i, f.values[i]? = some t ∧
      (f.comparison = .between → 2 * (i / 2) + 1 < f.values.length) := by
  rw [List.mem_iff_getElem?]
  by_cases h : f.comparison = .between
  · rw [boundTexts_between h]
    refine exists_congr fun i => ?_
    rw [List.getElem?_take, ite_eq_iff]
    constructor
    · rintro (⟨hi, ht⟩ | ⟨-, ht⟩)
      · exact ⟨ht, fun _ => by omega⟩
      · cases ht
    · rintro ⟨ht, hi⟩
      have hi := hi h
      exact .inl ⟨by omega, ht⟩
  · simp [boundTexts_of_ne_between h, h]

lemma mem_bound_iff {entries : List (Text × Filter)} {b : Comparison × Text} :
    b ∈ bound entries ↔ ∃ e ∈ entries, e.2.comparison = b.1 ∧ b.2 ∈ boundTexts e.2 := by
  rw [bound, List.mem_flatMap]
  refine exists_congr fun e => and_congr_right fun _ => ?_
  rw [List.mem_map]
  constructor
  · rintro ⟨t, ht, rfl⟩
    exact ⟨rfl, ht⟩
  · rintro ⟨hc, ht⟩
    exact ⟨b.2, ht, by rw [hc]⟩

/-! ### Faults -/

/-- **The values of filters** are bound unless one that is typed by its text is too long. -/
lemma filterValues_eq_error_iff {m : Filters} {fault : ValueFault} :
    filterValues m = .error fault ↔ fault = .tooManyDigits ∧
      ∃ e ∈ m.entries, ∃ t, Binds e.2 t ∧ t ≠ Value.nullWord ∧ Numeral.Overlong t := by
  rw [filterValues_eq]
  constructor
  · intro h
    obtain ⟨b, hb, hfault⟩ := exists_mem_of_mapM_error h
    obtain ⟨hfault, htyped, hnull, hlong⟩ := Value.bind_eq_error_iff.1 hfault
    obtain ⟨e, he, hc, ht⟩ := mem_bound_iff.1 hb
    exact ⟨hfault, e, he, b.2, ⟨hc ▸ htyped, mem_boundTexts_iff.1 ht⟩, hnull, hlong⟩
  · rintro ⟨rfl, e, he, t, ht, hnull, hlong⟩
    have hb : (e.2.comparison, t) ∈ bound m.entries :=
      mem_bound_iff.2 ⟨e, he, rfl, mem_boundTexts_iff.2 ht.held⟩
    have hbind : Value.bind e.2.comparison t = .error .tooManyDigits :=
      Value.bind_eq_error_iff.2 ⟨rfl, ht.typed, hnull, hlong⟩
    cases hvalues : (bound m.entries).mapM fun b => Value.bind b.1 b.2 with
    | ok vs =>
      obtain ⟨v, hv⟩ := forall_mem_of_mapM hvalues _ hb
      rw [hbind] at hv
      cases hv
    | error fault =>
      obtain ⟨b, -, hfault⟩ := exists_mem_of_mapM_error hvalues
      rw [(Value.bind_eq_error_iff.1 hfault).1]

/-- With a page that fits into 64 bits, the values of the filters are all that can be at fault. -/
lemma values_eq_error_iff {r : Request} (hlimit : Value.fits r.limit = true)
    (hoffset : Value.fits r.offset = true) {fault : ValueFault} :
    values r = .error fault ↔ filterValues r.filters = .error fault := by
  rw [values, pageValues_eq_ok_iff.2 ⟨hlimit, hoffset, rfl⟩]
  cases filterValues r.filters <;> simp [bind, Except.bind, pure, Except.pure]

lemma compile_eq_error_iff {r : Request} {fault : ValueFault} :
    compile r = .error fault ↔ values r = .error fault := by
  rw [compile]
  cases values r <;> simp [Except.map]

lemma fits_of_le_maxPage {n : ℕ} (h : n ≤ maxPage) : Value.fits n = true := by
  rw [Value.fits_iff]
  rw [maxPage] at h
  omega

/-! ### Integers -/

lemma fits_of_mem_values {r : Request} {vs : List Value} (h : values r = .ok vs) {n : ℤ}
    (hn : .integer n ∈ vs) : Value.fits n = true := by
  obtain ⟨hlimit, hoffset, ws, hws, rfl⟩ := values_eq_ok_iff.1 h
  rcases List.mem_append.1 hn with hn | hn
  · obtain ⟨b, -, hb⟩ := exists_mem_of_mapM (mapM_eq_ok_iff.2 hws) hn
    exact Value.fits_of_bind hb
  · simp only [List.mem_cons, Value.integer.injEq, List.not_mem_nil, or_false] at hn
    rcases hn with rfl | rfl
    · exact hlimit
    · exact hoffset

lemma mem_map_binding_int_iff {vs : List Value} {n : ℤ} :
    .int n ∈ vs.map Value.binding ↔ .integer n ∈ vs := by
  rw [List.mem_map]
  constructor
  · rintro ⟨v, hv, heq⟩
    cases v with
    | integer m =>
      rw [Value.binding, Binding.int.injEq] at heq
      exact heq ▸ hv
    | _ => cases heq
  · intro h
    exact ⟨_, h, rfl⟩

/-- **Compiling fails on overlong numerals only.**  Whatever was done to make a request, it is
compiled unless a filter binds, by its type, a text other than the null word that is a numeral with
more digits than are ever converted, and this is then the fault.  If it is compiled, every integer
among its values, and among what the database is handed, fits into 64 bits. -/
theorem compile_fails_iff_overlong {ops : List Operation} {r : Request} (h : r ∈ after ops) :
    (∀ fault, compile r = .error fault ↔ fault = .tooManyDigits ∧
        ∃ e ∈ r.filters.entries, ∃ t, Binds e.2 t ∧ t ≠ "null" ∧ Numeral.Overlong t) ∧
      ∀ f, compile r = .ok f →
        (∀ n, .integer n ∈ f.values → -2 ^ 63 ≤ n ∧ n ≤ 2 ^ 63 - 1) ∧
          ∀ n, .int n ∈ f.values.map Value.binding → -2 ^ 63 ≤ n ∧ n ≤ 2 ^ 63 - 1 := by
  have hwf := wellFormed_after ops r h
  refine ⟨fun fault => ?_, fun f hf => ?_⟩
  · rw [compile_eq_error_iff, values_eq_error_iff (fits_of_le_maxPage hwf.limit_le)
      (fits_of_le_maxPage hwf.offset_le), filterValues_eq_error_iff]
    rfl
  · have hvalues := (compile_eq_ok_iff.1 hf).2
    have hfits (n : ℤ) (hn : .integer n ∈ f.values) : -2 ^ 63 ≤ n ∧ n ≤ 2 ^ 63 - 1 :=
      Value.fits_iff.1 (fits_of_mem_values hvalues hn)
    exact ⟨hfits, fun n hn => hfits n (mem_map_binding_int_iff.1 hn)⟩

/-- A number below another one of 4301 digits, on a page at the end of its range. -/
theorem compile_fails_iff_overlong_less :
    (⟨⟨[("n", .of .less ['+' :: List.replicate 4301 '9'])]⟩, ⟨[]⟩, 7, maxPage⟩ : Request) ∈
        after [.init 7 (2 ^ 63 - 1), .compare 0 "n" .less ['+' :: List.replicate 4301 '9']] ∧
      compile ⟨⟨[("n", .of .less ['+' :: List.replicate 4301 '9'])]⟩, ⟨[]⟩, 7, maxPage⟩ =
        .error .tooManyDigits := by
  have hafter :
      (⟨⟨[("n", .of .less ['+' :: List.replicate 4301 '9'])]⟩, ⟨[]⟩, 7, maxPage⟩ : Request) ∈
        after [.init 7 (2 ^ 63 - 1), .compare 0 "n" .less ['+' :: List.replicate 4301 '9']] :=
    List.mem_singleton.2 rfl
  have hsolid : Text.blank ('+' :: List.replicate 4301 '9') = false := by
    rw [Text.blank_eq_false_iff]
    exact ⟨'+', List.mem_cons_self, by decide⟩
  have hvalues : (Filter.of .less ['+' :: List.replicate 4301 '9']).values =
      ['+' :: List.replicate 4301 '9'] := by
    rw [Filter.of, List.filter_cons_of_pos (by rw [hsolid]; rfl), List.filter_nil]
  refine ⟨hafter, ((compile_fails_iff_overlong hafter).1 .tooManyDigits).2
    ⟨rfl, _, List.mem_singleton_self _, '+' :: List.replicate 4301 '9', ?_, ?_, ?_⟩⟩
  · exact ⟨by decide, 0, by rw [hvalues]; rfl, fun h => by cases h⟩
  · intro h
    cases h
  · refine ⟨"+", by decide, List.replicate 4301 '9', rfl, fun c hc => ?_, ?_⟩
    · rw [List.eq_of_mem_replicate hc]
      decide
    · rw [List.length_replicate]
      omega

end Listing.Sql
