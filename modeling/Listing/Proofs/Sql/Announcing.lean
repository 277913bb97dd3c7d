import Mathlib
import Listing.Proofs.Sql.Values

/-!
# The announced number of values

A request announces how many values it will be compiled to, by counting all values that its filters
hold and the two numbers of its page.  It is compiled to as many, but for the odd last value of a
range, which is counted and not bound.  So the announcement is too large by the number of ranges
that hold such a value.
-/

namespace Listing.Sql

/-- A filter that holds one value more than it binds: a range with an odd number of values. -/
def Unpaired (f : Filter) : Prop :=
  f.comparison = .between ∧ Odd f.values.length

instance : DecidablePred Unpaired := fun f =>
  inferInstanceAs (Decidable (f.comparison = .between ∧ Odd f.values.length))

/-- **One filter** holds as many values as it binds, and one more if it is unpaired. -/
lemma length_values_eq (f : Filter) :
    f.values.length = (boundTexts f).length + if Unpaired f then 1 else 0 := by
  by_cases h : f.comparison = .between
  · rw [boundTexts_between h, List.length_take]
    by_cases hodd : Odd f.values.length
    · rw [if_pos ⟨h, hodd⟩]
      rw [Nat.odd_iff] at hodd
      omega
    · rw [if_neg fun hf => hodd hf.2]
      rw [Nat.odd_iff] at hodd
      omega
  · rw [boundTexts_of_ne_between h, if_neg fun hf => h hf.1, Nat.add_zero]

/-- **All filters** hold as many values as they bind, and one more for each that is unpaired. -/
lemma length_flatMap_values (entries : List (Text × Filter)) :
    (entries.flatMap fun e => e.2.values).length =
      (bound entries).length + entries.countP fun e => Unpaired e.2 := by
  induction entries with
  | nil => rfl
  | cons e entries ih =>
    have hlength := length_values_eq e.2
    rw [List.flatMap_cons, bound_cons, List.length_append, List.length_append, List.length_map,
      List.countP_cons, ih, hlength]
    simp only [decide_eq_true_eq]
    omega

lemma length_of_values {r : Request} {vs : List Value} (h : values r = .ok vs) :
    vs.length = (bound r.filters.entries).length + 2 := by
  obtain ⟨-, -, ws, hws, rfl⟩ := values_eq_ok_iff.1 h
  rw [List.length_append, hws.length_eq]
  rfl

/-- **The announced number of values** of a compiled request is the number of its values and of its
ranges with an odd number of values; it is exact if all ranges hold complete pairs, and only
then. -/
theorem announcedCount_of_compile {r : Request} {f : Fragment} (h : compile r = .ok f) :
    announcedCount r =
        f.values.length + r.filters.entries.countP (fun e => Unpaired e.2) ∧
      (announcedCount r = f.values.length ↔
        ∀ e ∈ r.filters.entries, e.2.comparison = .between → Even e.2.values.length) := by
  have hcount : announcedCount r =
      f.values.length + r.filters.entries.countP (fun e => Unpaired e.2) := by
    rw [announcedCount, length_flatMap_values, length_of_values (compile_eq_ok_iff.1 h).2]
    omega
  refine ⟨hcount, ?_⟩
  rw [hcount, Nat.add_eq_left, List.countP_eq_zero]
  refine forall₂_congr fun e _ => ?_
  rw [decide_eq_true_eq, Unpaired, not_and, Nat.not_odd_iff_even]

/-- Two ranges with an odd number of values, one of them without a complete pair, beside a filter
without values and an equality. -/
theorem announcedCount_of_compile_ranges :
    compile { filters := ⟨[("a", ⟨.between, ["1", "2", "x"]⟩), ("b", ⟨.contains, []⟩),
        ("c", ⟨.between, ["y"]⟩), ("d", ⟨.equals, ["null"]⟩)]⟩ } =
      .ok ⟨"WHERE a BETWEEN ? AND ? AND d IS ? LIMIT ? OFFSET ?",
        [.integer 1, .integer 2, .null, .integer 50, .integer 0]⟩ ∧
      announcedCount { filters := ⟨[("a", ⟨.between, ["1", "2", "x"]⟩), ("b", ⟨.contains, []⟩),
        ("c", ⟨.between, ["y"]⟩), ("d", ⟨.equals, ["null"]⟩)]⟩ } = 5 + 2 := by
  have h : compile { filters := ⟨[("a", ⟨.between, ["1", "2", "x"]⟩), ("b", ⟨.contains, []⟩),
        ("c", ⟨.between, ["y"]⟩), ("d", ⟨.equals, ["null"]⟩)]⟩ } =
      .ok ⟨"WHERE a BETWEEN ? AND ? AND d IS ? LIMIT ? OFFSET ?",
        [.integer 1, .integer 2, .null, .integer 50, .integer 0]⟩ := by
    decide +kernel
  exact ⟨h, (announcedCount_of_compile h).1⟩

end Listing.Sql
