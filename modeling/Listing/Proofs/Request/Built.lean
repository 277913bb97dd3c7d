import Mathlib
import Listing.Request.Basic
import Listing.Proofs.Fields

/-!
# The requests that can be made

Requests are made by constructors and builders: filters are written field by field, each of them
without its blank values and none under a reserved name, sort fields are written one by one, and
the two numbers of the page are checked.  What all requests made so have in common is stated as
`WellFormed`, and `built_iff` says that nothing else is in common: every request of this form can
be made.
-/

namespace Listing

/-- Filters that are made from none by writing one field after the other. -/
inductive Filters.Built : Filters → Prop
  | empty : Built Fields.empty
  | compare {m m' : Filters} {name : Text} {c : Comparison} {values : List Text} :
      Built m → m.compare name c values = .ok m' → Built m'

/-- Orders that are made from none by writing one field after the other. -/
inductive Sorting.Built : Sorting → Prop
  | empty : Built Fields.empty
  | set {m : Sorting} (name : Text) (d : Direction) : Built m → Built (m.set name d)

/-- Requests that are made of filters, an order and the numbers of a page. -/
inductive Request.Built : Request → Prop
  | ofParts {filters : Filters} {sorting : Sorting} {limit offset : Int} {r : Request} :
      filters.Built → sorting.Built → Request.ofParts filters sorting limit offset = .ok r →
      Built r

/-- No name occurs twice, none is reserved, and no filter holds a blank value. -/
structure Filters.WellFormed (m : Filters) : Prop where
  nodup : m.names.Nodup
  unreserved : ∀ e ∈ m.entries, e.1 ∉ Filters.reserved
  solid : ∀ e ∈ m.entries, ∀ v ∈ e.2.values, Text.blank v = false

/-- The filters are well formed, no sort field occurs twice, and the page is in range. -/
structure Request.WellFormed (r : Request) : Prop where
  filters : r.filters.WellFormed
  nodup : r.sorting.names.Nodup
  limit_le : r.limit ≤ maxPage
  offset_le : r.offset ≤ maxPage

/-! ### Filters -/

namespace Filters

lemma insert_eq_ok_iff {m m' : Filters} {name : Text} {f : Filter} :
    m.insert name f = .ok m' ↔ name ∉ reserved ∧ m.set name f = m' := by
  have hreserved : reserved.contains name = true ↔ name ∈ reserved := List.contains_iff_mem
  rw [insert]
  split
  · next h => simp [hreserved.1 h]
  · next h => simp [hreserved.not.1 h]

lemma insert_eq_error_iff {m : Filters} {name : Text} {f : Filter} :
    (∃ cause, m.insert name f = .error cause) ↔ name ∈ reserved := by
  have hreserved : reserved.contains name = true ↔ name ∈ reserved := List.contains_iff_mem
  rw [insert]
  split
  · next h => simp [hreserved.1 h]
  · next h => simp [hreserved.not.1 h]

lemma insert_eq_error {m : Filters} {name : Text} (h : name ∈ reserved) (f : Filter) :
    m.insert name f = .error (.filter name) := by
  rw [Filters.insert, if_pos (List.contains_iff_mem.2 h)]

/-- Pairs are written one by one, up to the first reserved name. -/
lemma foldlM_insert (m : Filters) (pairs : List (Text × Filter)) :
    pairs.foldlM (fun m e => Filters.insert m e.1 e.2) m =
      match (pairs.map Prod.fst).find? reserved.contains with
      | some name => .error (.filter name)
      | none => .ok (pairs.foldl (fun m e => m.set e.1 e.2) m) := by
  induction pairs generalizing m with
  | nil => rfl
  | cons e pairs ih =>
    rw [List.foldlM_cons, List.map_cons, List.find?_cons]
    by_cases h : e.1 ∈ reserved
    · rw [insert_eq_error h]
      simp [h, bind, Except.bind]
    · rw [insert_eq_ok_iff.2 ⟨h, rfl⟩]
      simpa [h, bind, Except.bind] using ih _

lemma ofList_eq (pairs : List (Text × Filter)) :
    Filters.ofList pairs =
      match (pairs.map Prod.fst).find? reserved.contains with
      | some name => .error (.filter name)
      | none => .ok (Fields.ofList pairs) :=
  foldlM_insert _ _

/-- A filter without blank values is the one that its own parts make. -/
lemma of_eq_self {f : Filter} (h : ∀ v ∈ f.values, Text.blank v = false) :
    Filter.of f.comparison f.values = f := by
  have hall : f.values.filter (fun v => !Text.blank v) = f.values := by
    rw [List.filter_eq_self]
    intro v hv
    simp [h v hv]
  rw [Filter.of, hall]

lemma WellFormed.empty : WellFormed Fields.empty :=
  ⟨List.nodup_nil, by simp [Fields.empty], by simp [Fields.empty]⟩

lemma WellFormed.set {m : Filters} (h : m.WellFormed) {name : Text} (hname : name ∉ reserved)
    {f : Filter} (hf : ∀ v ∈ f.values, Text.blank v = false) :
    WellFormed (Fields.set m name f) where
  nodup := Fields.nodup_names_set h.nodup name f
  unreserved e he := by
    rcases Fields.mem_set he with rfl | he
    · exact hname
    · exact h.unreserved e he
  solid e he := by
    rcases Fields.mem_set he with rfl | he
    · exact hf
    · exact h.solid e he

lemma WellFormed.restrict {m : Filters} (h : m.WellFormed) (p : Text → Bool) :
    WellFormed (Fields.restrict m p) where
  nodup := Fields.nodup_names_restrict h.nodup p
  unreserved e he := h.unreserved e (List.mem_of_mem_filter he)
  solid e he := h.solid e (List.mem_of_mem_filter he)

/-- Well-formed filters are those that their own entries make. -/
lemma WellFormed.ofList_entries {m : Filters} (h : m.WellFormed) :
    Filters.ofList m.entries = .ok m := by
  have hnone : (m.entries.map Prod.fst).find? reserved.contains = none := by
    rw [List.find?_eq_none]
    intro name hname
    obtain ⟨e, he, rfl⟩ := List.mem_map.1 hname
    simpa using h.unreserved e he
  rw [ofList_eq, hnone, Fields.ofList_of_nodup h.nodup]

lemma Built.wellFormed {m : Filters} (h : m.Built) : m.WellFormed := by
  induction h with
  | empty => exact WellFormed.empty
  | @compare m m' name c values _ hm' ih =>
    rw [Filters.compare, insert_eq_ok_iff] at hm'
    obtain ⟨hname, rfl⟩ := hm'
    refine ih.set hname ?_
    intro v hv
    simpa using (List.mem_filter.1 hv).2

lemma WellFormed.built {m : Filters} (h : m.WellFormed) : m.Built := by
  obtain ⟨entries⟩ := m
  induction entries using List.reverseRecOn with
  | nil => exact Built.empty
  | append_singleton entries e ih =>
    obtain ⟨hnodup, hnew⟩ := Fields.nodup_names_concat.1 h.nodup
    have hinit : WellFormed ⟨entries⟩ :=
      ⟨hnodup, fun e' he' => h.unreserved e' (by simp [he']),
        fun e' he' => h.solid e' (by simp [he'])⟩
    have hcompare : Filters.compare ⟨entries⟩ e.1 e.2.comparison e.2.values
        = .ok ⟨entries ++ [e]⟩ := by
      rw [Filters.compare, insert_eq_ok_iff, of_eq_self (h.solid e (by simp))]
      exact ⟨h.unreserved e (by simp), Fields.set_of_not_mem hnew e.2⟩
    exact (ih hinit).compare hcompare

end Filters

/-! ### Orders -/

namespace Sorting

lemma Built.nodup {m : Sorting} (h : m.Built) : m.names.Nodup := by
  induction h with
  | empty => exact List.nodup_nil
  | set name d _ ih => exact Fields.nodup_names_set ih name d

lemma built_of_nodup {m : Sorting} (h : m.names.Nodup) : m.Built := by
  obtain ⟨entries⟩ := m
  induction entries using List.reverseRecOn with
  | nil => exact Built.empty
  | append_singleton entries e ih =>
    obtain ⟨hnodup, hnew⟩ := Fields.nodup_names_concat.1 h
    have := (ih hnodup).set e.1 e.2
    rwa [Fields.set_of_not_mem hnew] at this

end Sorting

/-! ### Requests -/

namespace Request

lemma ofParts_eq_ok_iff {filters : Filters} {sorting : Sorting} {limit offset : Int}
    {r : Request} :
    ofParts filters sorting limit offset = .ok r ↔
      ((0 ≤ limit ∧ limit ≤ maxPage) ∧ 0 ≤ offset ∧ offset ≤ maxPage) ∧
        (⟨filters, sorting, limit.toNat, offset.toNat⟩ : Request) = r := by
  rw [ofParts, ← pageFaults_eq_nil]
  split
  · next h => simp [h]
  · next h => exact ⟨fun h' => (by cases h'), fun h' => absurd h'.1 h⟩

/-- A well-formed request is the one that its own parts make. -/
lemma WellFormed.ofParts {r : Request} (h : r.WellFormed) :
    Request.ofParts r.filters r.sorting r.limit r.offset = .ok r := by
  have hlimit := h.limit_le
  have hoffset := h.offset_le
  rw [ofParts_eq_ok_iff]
  exact ⟨⟨⟨by omega, by omega⟩, by omega, by omega⟩, by simp⟩

lemma WellFormed.restrict {r : Request} (h : r.WellFormed) (p : Text → Bool) :
    WellFormed { r with filters := r.filters.restrict p } :=
  ⟨h.filters.restrict p, h.nodup, h.limit_le, h.offset_le⟩

lemma WellFormed.keep {r : Request} (h : r.WellFormed) (names : List Text) :
    (r.keep names).WellFormed :=
  h.restrict names.contains

lemma WellFormed.drop {r : Request} (h : r.WellFormed) (names : List Text) :
    (r.drop names).WellFormed :=
  h.restrict fun name => !names.contains name

/-- **What can be made** are the well-formed requests. -/
lemma built_iff {r : Request} : r.Built ↔ r.WellFormed := by
  constructor
  · rintro ⟨hfilters, hsorting, hr⟩
    obtain ⟨⟨⟨h₁, h₂⟩, h₃, h₄⟩, rfl⟩ := ofParts_eq_ok_iff.1 hr
    exact ⟨hfilters.wellFormed, hsorting.nodup, by simp only; omega, by simp only; omega⟩
  · intro h
    exact .ofParts h.filters.built (Sorting.built_of_nodup h.nodup) h.ofParts

end Request

end Listing
