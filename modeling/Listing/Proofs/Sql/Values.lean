import Mathlib
import Listing.Sql.Fragment
import Listing.Proofs.Elementwise

/-!
# The values bound to a statement

The values of the filters are bound one after the other, filter by filter; the binding of a value
depends on the comparison of its filter and on nothing else.  So the values of a compiled request
are paired, one to one and in order, with the values that its filters hold, but for the odd last
value of a range, and two numbers for the page come after them.
-/

namespace Listing.Sql

/-- The values of filters that are bound, in order, each with the comparison that it is bound
for. -/
def bound (entries : List (Text × Filter)) : List (Comparison × Text) :=
  entries.flatMap fun e => (boundTexts e.2).map fun t => (e.2.comparison, t)

/-! ### Bound texts -/

lemma boundTexts_of_ne_between {f : Filter} (h : f.comparison ≠ .between) :
    boundTexts f = f.values :=
  if_neg h

lemma boundTexts_between {f : Filter} (h : f.comparison = .between) :
    boundTexts f = f.values.take (f.values.length - f.values.length % 2) :=
  if_pos h

/-- What is bound of a filter is the start of its values. -/
lemma boundTexts_prefix (f : Filter) : boundTexts f <+: f.values := by
  by_cases h : f.comparison = .between
  · rw [boundTexts_between h]
    exact List.take_prefix _ _
  · rw [boundTexts_of_ne_between h]

lemma getElem?_of_boundTexts {f : Filter} {i : ℕ} {t : Text} (h : (boundTexts f)[i]? = some t) :
    f.values[i]? = some t := by
  obtain ⟨rest, hrest⟩ := boundTexts_prefix f
  have hi : i < (boundTexts f).length := (List.getElem?_eq_some_iff.1 h).1
  rw [← hrest, List.getElem?_append_left hi, h]

/-- The bound values of a range are even in number. -/
lemma two_dvd_length_boundTexts {f : Filter} (h : f.comparison = .between) :
    2 ∣ (boundTexts f).length := by
  rw [boundTexts_between h, List.length_take]
  omega

/-! ### Bound values -/

@[simp] lemma bound_nil : bound [] = [] := rfl

lemma bound_cons (e : Text × Filter) (entries : List (Text × Filter)) :
    bound (e :: entries) = ((boundTexts e.2).map fun t => (e.2.comparison, t)) ++ bound entries :=
  List.flatMap_cons

lemma bound_append (before after : List (Text × Filter)) :
    bound (before ++ after) = bound before ++ bound after :=
  List.flatMap_append

/-- Filters are bound as all their bound values are. -/
lemma filterValues_eq (m : Filters) :
    filterValues m = (bound m.entries).mapM fun b => Value.bind b.1 b.2 := by
  obtain ⟨entries⟩ := m
  rw [filterValues]
  induction entries with
  | nil => rfl
  | cons e entries ih =>
    have hmap : (boundTexts e.2).mapM (Value.bind e.2.comparison)
        = ((boundTexts e.2).map fun t => (e.2.comparison, t)).mapM
            fun b => Value.bind b.1 b.2 := by
      rw [List.mapM_map]
      rfl
    rw [bound_cons, List.mapM_append, List.mapM_cons, ← ih, ← hmap, valuesOf]
    cases (boundTexts e.2).mapM (Value.bind e.2.comparison) with
    | error fault => rfl
    | ok vs =>
      cases entries.mapM fun e => valuesOf e.2 with
      | error fault => rfl
      | ok rest => rfl

lemma filterValues_eq_ok_iff {m : Filters} {vs : List Value} :
    filterValues m = .ok vs ↔
      List.Forall₂ (fun b v => Value.bind b.1 b.2 = .ok v) (bound m.entries) vs := by
  rw [filterValues_eq, mapM_eq_ok_iff]

lemma Value.ofInt_eq_ok_iff {n : ℤ} {v : Value} :
    Value.ofInt n = .ok v ↔ Value.fits n = true ∧ v = .integer n := by
  rw [Value.ofInt]
  split
  · next h => simp [h, eq_comm]
  · next h => simp [h]

lemma pageValues_eq_ok_iff {limit offset : ℕ} {vs : List Value} :
    pageValues limit offset = .ok vs ↔ Value.fits limit = true ∧ Value.fits offset = true ∧
      vs = [.integer limit, .integer offset] := by
  rw [pageValues, mapM_eq_ok_iff]
  simp only [List.forall₂_cons_left_iff, List.forall₂_nil_left_iff, Value.ofInt_eq_ok_iff]
  constructor
  · rintro ⟨v, rest, ⟨hlimit, rfl⟩, ⟨w, rest', ⟨hoffset, rfl⟩, rfl, rfl⟩, rfl⟩
    exact ⟨hlimit, hoffset, rfl⟩
  · rintro ⟨hlimit, hoffset, rfl⟩
    exact ⟨_, _, ⟨hlimit, rfl⟩, ⟨_, _, ⟨hoffset, rfl⟩, rfl, rfl⟩, rfl⟩

lemma values_eq_append {r : Request} {vs : List Value} :
    values r = .ok vs ↔ ∃ ws ps, filterValues r.filters = .ok ws ∧
      pageValues r.limit r.offset = .ok ps ∧ vs = ws ++ ps := by
  rw [values]
  cases filterValues r.filters with
  | error fault => simp [bind, Except.bind]
  | ok ws =>
    cases pageValues r.limit r.offset with
    | error fault => simp [bind, Except.bind]
    | ok ps => simp [bind, Except.bind, pure, Except.pure, eq_comm]

/-- A request is bound as its filters are, with the numbers of its page at the end. -/
lemma values_eq_ok_iff {r : Request} {vs : List Value} :
    values r = .ok vs ↔ Value.fits r.limit = true ∧ Value.fits r.offset = true ∧
      ∃ ws, List.Forall₂ (fun b v => Value.bind b.1 b.2 = .ok v) (bound r.filters.entries) ws ∧
        vs = ws ++ [.integer r.limit, .integer r.offset] := by
  rw [values_eq_append]
  constructor
  · rintro ⟨ws, ps, hws, hps, rfl⟩
    obtain ⟨hlimit, hoffset, rfl⟩ := pageValues_eq_ok_iff.1 hps
    exact ⟨hlimit, hoffset, ws, filterValues_eq_ok_iff.1 hws, rfl⟩
  · rintro ⟨hlimit, hoffset, ws, hws, rfl⟩
    exact ⟨ws, _, filterValues_eq_ok_iff.2 hws, pageValues_eq_ok_iff.2 ⟨hlimit, hoffset, rfl⟩,
      rfl⟩

lemma compile_eq_ok_iff {r : Request} {f : Fragment} :
    compile r = .ok f ↔ f.text = text r ∧ values r = .ok f.values := by
  rw [compile]
  cases values r with
  | error fault => simp [Except.map]
  | ok vs =>
    obtain ⟨t, ws⟩ := f
    simp only [Except.map, Except.ok.injEq, Fragment.mk.injEq]
    exact and_congr_left fun _ => eq_comm

end Listing.Sql
