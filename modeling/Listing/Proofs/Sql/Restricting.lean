import Mathlib
import Listing.Proofs.Request.Built
import Listing.Proofs.Sql.Conditions

/-!
# Requests with a part of their filters

Of a request the filters on some fields can be kept, or dropped.  The compiler goes through the
filters one by one, and what it makes of a filter does not depend on the others: so the conditions
and the bound values of the smaller request are those of the whole request that belong to a filter
which is still there, in the same order.  Nothing else of the request changes, and it is the same
whether a page is cut down before or after.
-/

namespace Listing

namespace Sql

/-! ### What belongs to a filter -/

/-- What is bound for filters: each value, or the reason why there is none, with the name of its
filter. -/
def bindings (m : Filters) : List (Text × Except ValueFault Value) :=
  m.entries.flatMap fun e => (boundTexts e.2).map fun t => (e.1, Value.bind e.2.comparison t)

/-- The names of the filters that the bound values belong to, value by value. -/
def owners (m : Filters) : List Text :=
  (bindings m).map Prod.fst

lemma bindings_cons (e : Text × Filter) (entries : List (Text × Filter)) :
    bindings ⟨e :: entries⟩
      = ((boundTexts e.2).map fun t => (e.1, Value.bind e.2.comparison t)) ++ bindings ⟨entries⟩ :=
  List.flatMap_cons

lemma map_snd_bindings (m : Filters) :
    (bindings m).map Prod.snd = (bound m.entries).map fun b => Value.bind b.1 b.2 := by
  rw [bindings, bound, List.map_flatMap, List.map_flatMap]
  simp only [List.map_map, Function.comp_def]

lemma filterValues_eq_mapM_bindings (m : Filters) :
    filterValues m = (bindings m).mapM Prod.snd := by
  have hid : (bindings m).mapM Prod.snd = ((bindings m).map Prod.snd).mapM id := by
    rw [List.mapM_map]
    rfl
  rw [hid, map_snd_bindings, List.mapM_map, filterValues_eq]
  rfl

lemma bindings_restrict (m : Filters) (p : Text → Bool) :
    bindings (m.restrict p) = (bindings m).filter fun b => p b.1 := by
  obtain ⟨entries⟩ := m
  rw [Fields.restrict]
  induction entries with
  | nil => rfl
  | cons e entries ih =>
    rw [bindings_cons, List.filter_append, ← ih, List.filter_cons, List.filter_map]
    cases h : p e.1 with
    | false => simp [Function.comp_def, h]
    | true => simp [Function.comp_def, h, bindings_cons]

/-- The conditions of a part of the filters are those on their columns. -/
lemma conditions_restrict (m : Filters) (p : Text → Bool) :
    conditions (m.restrict p) = (conditions m).filter fun c => p c.column := by
  rw [conditions, conditions, Fields.restrict, List.filter_filterMap, List.filterMap_filter]
  refine List.filterMap_congr fun e _ => ?_
  cases hc : condition? e.1 e.2 with
  | none => simp
  | some c => simp [Option.filter, column_of_condition? hc]

/-- If there is a value for every name, those for some of the names are the values at their
places. -/
lemma mapM_filter_fst {bs : List (Text × Except ValueFault Value)} {vs : List Value}
    (h : bs.mapM Prod.snd = .ok vs) (p : Text → Bool) :
    (bs.filter fun b => p b.1).mapM Prod.snd
      = .ok ((((bs.map Prod.fst).zip vs).filter fun b => p b.1).map Prod.snd) := by
  rw [mapM_eq_ok_iff] at h ⊢
  induction h with
  | nil => exact .nil
  | @cons b v bs vs hbv _ ih =>
    rw [List.map_cons, List.zip_cons_cons, List.filter_cons, List.filter_cons]
    split
    · exact .cons hbv ih
    · exact ih

/-- **The values of a part of the filters** are those that belong to them. -/
lemma filterValues_restrict {m : Filters} {vs : List Value} (h : filterValues m = .ok vs)
    (p : Text → Bool) : filterValues (m.restrict p)
      = .ok ((((owners m).zip vs).filter fun b => p b.1).map Prod.snd) := by
  rw [filterValues_eq_mapM_bindings] at h
  rw [filterValues_eq_mapM_bindings, bindings_restrict]
  exact mapM_filter_fst h p

lemma length_owners {m : Filters} {vs : List Value} (h : filterValues m = .ok vs) :
    (owners m).length = vs.length := by
  rw [filterValues_eq_mapM_bindings, mapM_eq_ok_iff] at h
  rw [owners, List.length_map, h.length_eq]

end Sql

namespace Request

open Sql

/-- A request with those filters of another whose names pass a test. -/
structure Restricts (p : Text → Bool) (r r' : Request) : Prop where
  sorting_eq : r'.sorting = r.sorting
  limit_eq : r'.limit = r.limit
  offset_eq : r'.offset = r.offset
  /-- Its conditions are those on columns that pass, -/
  conditions_eq : conditions r'.filters = (conditions r.filters).filter fun c => p c.column
  /-- and its text joins these. -/
  whereText_eq : whereText r'.filters
    = Text.joined " AND " (((conditions r.filters).filter fun c => p c.column).map Condition.text)
  /-- What is bound for it, values and faults, is what is bound for filters that pass; -/
  bindings_eq : bindings r'.filters = (bindings r.filters).filter fun b => p b.1
  /-- so if all values can be bound, its values are those that belong to a filter that passes. -/
  filterValues_eq : ∀ vs, filterValues r.filters = .ok vs →
    (owners r.filters).length = vs.length ∧ filterValues r'.filters
      = .ok ((((owners r.filters).zip vs).filter fun b => p b.1).map Prod.snd)

/-- A request that comes out the same if it is made anew of its own parts. -/
structure Remade (r : Request) : Prop where
  filters : Filters.ofList r.filters.entries = .ok r.filters
  sorting : Fields.ofList r.sorting.entries = r.sorting
  parts : ofParts r.filters r.sorting r.limit r.offset = .ok r

lemma WellFormed.remade {r : Request} (h : r.WellFormed) : r.Remade :=
  ⟨h.filters.ofList_entries, Fields.ofList_of_nodup h.nodup, h.ofParts⟩

lemma restricts_restrict (r : Request) (p : Text → Bool) :
    Restricts p r { r with filters := r.filters.restrict p } where
  sorting_eq := rfl
  limit_eq := rfl
  offset_eq := rfl
  conditions_eq := conditions_restrict _ _
  whereText_eq := by rw [whereText, conditions_restrict]
  bindings_eq := bindings_restrict _ _
  filterValues_eq _ h := ⟨length_owners h, filterValues_restrict h p⟩

/-- A page is cut down alike whatever the filters are. -/
lemma clamp_withFilters (r : Request) (change : Filters → Filters) (cap : ℤ) :
    clamp { r with filters := change r.filters } cap
      = (r.clamp cap).map fun r => { r with filters := change r.filters } := by
  rw [clamp, clamp, setPage?, setPage?]
  cases checkPage (min r.limit cap) <;> rfl

/-- **Keeping and dropping split a request**, as they split filters and sort fields.  Of the entries
of a map, those with the names are kept and the others left, none is lost, and the names that are
kept or dropped in several goes are taken together.  The request with the filters that are kept and
the one without them are otherwise the same request, made anew as it was, and each has the
conditions and the bound values that belong to its filters. -/
theorem keep_drop_split :
    (∀ {α : Type} (m : Fields α) (a b : List Text),
      m.Split a (m.keep a) (m.drop a) ∧
      (m.keep a).keep b = m.keep (a ∩ b) ∧
      (m.drop a).drop b = m.drop (a ∪ b) ∧
      (m.keep a).drop b = (m.drop b).keep a ∧
      (m.names.Nodup → Fields.ofList (m.keep a).entries = m.keep a ∧
        Fields.ofList (m.drop a).entries = m.drop a)) ∧
    ∀ (r : Request) (names : List Text),
      Restricts (fun name => name ∈ names) r (r.keep names) ∧
      Restricts (fun name => name ∉ names) r (r.drop names) ∧
      (∀ cap : ℤ, (r.keep names).clamp cap = (r.clamp cap).map (keep · names)) ∧
      (∀ cap : ℤ, (r.drop names).clamp cap = (r.clamp cap).map (drop · names)) ∧
      (r.WellFormed → (r.keep names).Remade ∧ (r.drop names).Remade) := by
  refine ⟨fun m a b => ?_, fun r names => ?_⟩
  · exact ⟨m.split_keep_drop a, m.keep_keep a b, m.drop_drop a b, m.drop_keep a b, fun h =>
      ⟨Fields.ofList_of_nodup (Fields.nodup_names_restrict h a.contains),
        Fields.ofList_of_nodup (Fields.nodup_names_restrict h fun name => !a.contains name)⟩⟩
  · have hmem : names.contains = fun name => decide (name ∈ names) := by
      funext name
      exact List.contains_eq_mem name names
    have hnotMem : (fun name => !names.contains name) = fun name => decide (name ∉ names) := by
      simp
    refine ⟨hmem ▸ restricts_restrict r names.contains,
      hnotMem ▸ restricts_restrict r fun name => !names.contains name,
      clamp_withFilters r (·.keep names), clamp_withFilters r (·.drop names), fun h => ?_⟩
    exact ⟨(h.keep names).remade, (h.drop names).remade⟩

/-- A range with an odd last value, a filter without values, and names that are repeated or
unknown. -/
theorem keep_drop_split_of_range :
    (⟨⟨[("a", ⟨.between, ["1", "2", "3"]⟩), ("b", ⟨.equals, []⟩), ("c", ⟨.contains, ["x"]⟩),
        ("d", ⟨.equals, ["null", "5"]⟩)]⟩, ⟨[("c", .descending)]⟩, 20, 3⟩ : Request).WellFormed ∧
      ((⟨⟨[("a", ⟨.between, ["1", "2", "3"]⟩), ("b", ⟨.equals, []⟩), ("c", ⟨.contains, ["x"]⟩),
          ("d", ⟨.equals, ["null", "5"]⟩)]⟩, ⟨[("c", .descending)]⟩, 20, 3⟩ : Request).keep
            ["d", "a", "e", "d", "b"]).Remade ∧
      filterValues (Fields.keep ⟨[("a", ⟨.between, ["1", "2", "3"]⟩), ("b", ⟨.equals, []⟩),
        ("c", ⟨.contains, ["x"]⟩), ("d", ⟨.equals, ["null", "5"]⟩)]⟩ ["d", "a", "e", "d", "b"])
          = .ok [.integer 1, .integer 2, .null, .integer 5] := by
  have hwell : (⟨⟨[("a", ⟨.between, ["1", "2", "3"]⟩), ("b", ⟨.equals, []⟩),
      ("c", ⟨.contains, ["x"]⟩), ("d", ⟨.equals, ["null", "5"]⟩)]⟩, ⟨[("c", .descending)]⟩, 20, 3⟩ :
        Request).WellFormed :=
    ⟨⟨by decide, by decide, by decide⟩, by decide, by decide, by decide⟩
  obtain ⟨hkeep, -, -, -, hremade⟩ := keep_drop_split.2 _ ["d", "a", "e", "d", "b"]
  refine ⟨hwell, (hremade hwell).1, (hkeep.filterValues_eq
    [.integer 1, .integer 2, .text "%x%", .null, .integer 5] (by cbv)).2⟩

end Request

end Listing
