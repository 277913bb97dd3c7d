import Mathlib
import Listing.Proofs.Sql.Conditions
import Listing.Proofs.Store.Fetching

/-!
# The shape of a request

What a statement may show of a request is its shape: the names of the filters with their
comparisons, how many values each of them has, whether the only value of an equality is the null
word, and the order.  Requests of one shape have one text, and the statements that are run for them
are the same but for the values bound to them.  So nothing that stands in a value, and no number of
a page, gets into a statement.
-/

namespace Listing

open Sql

/-- Two filters make the same comparison with the same number of values, and if they are equalities
with one value, it is the null word for both or for neither. -/
structure Filter.SameShape (f g : Filter) : Prop where
  comparison : f.comparison = g.comparison
  length : f.values.length = g.values.length
  null : f.comparison = .equals → f.values.length = 1 →
    (f.values = [Value.nullWord] ↔ g.values = [Value.nullWord])

/-- Two requests have filters of the same shape on the same fields in the same order, and they are
sorted in the same way. -/
structure Request.SameShape (r s : Request) : Prop where
  filters : List.Forall₂ (fun e e' => e.1 = e'.1 ∧ e.2.SameShape e'.2) r.filters.entries
    s.filters.entries
  sorting : r.sorting = s.sorting

instance (f g : Filter) : Decidable (f.SameShape g) :=
  decidable_of_iff (f.comparison = g.comparison ∧ f.values.length = g.values.length ∧
      (f.comparison = .equals → f.values.length = 1 →
        (f.values = [Value.nullWord] ↔ g.values = [Value.nullWord])))
    ⟨fun h => ⟨h.1, h.2.1, h.2.2⟩, fun h => ⟨h.comparison, h.length, h.null⟩⟩

instance (r s : Request) : Decidable (r.SameShape s) :=
  decidable_of_iff (List.Forall₂ (fun e e' => e.1 = e'.1 ∧ e.2.SameShape e'.2) r.filters.entries
      s.filters.entries ∧ r.sorting = s.sorting)
    ⟨fun h => ⟨h.1, h.2⟩, fun h => ⟨h.filters, h.sorting⟩⟩

/-! ### Conditions -/

namespace Filter.SameShape

variable {f g : Filter}

lemma length_boundTexts (h : f.SameShape g) : (boundTexts f).length = (boundTexts g).length := by
  by_cases hbetween : f.comparison = .between
  · rw [boundTexts_between hbetween, boundTexts_between (h.comparison ▸ hbetween),
      List.length_take, List.length_take, h.length]
  · rw [boundTexts_of_ne_between hbetween, boundTexts_of_ne_between (h.comparison ▸ hbetween),
      h.length]

/-- The null word is the only value of both or of neither. -/
lemma null_iff (h : f.SameShape g) (hequals : f.comparison = .equals) :
    f.values = [Value.nullWord] ↔ g.values = [Value.nullWord] := by
  by_cases hone : f.values.length = 1
  · exact h.null hequals hone
  · have hone' : g.values.length ≠ 1 := h.length ▸ hone
    constructor
    · intro hf
      simp [hf] at hone
    · intro hg
      simp [hg] at hone'

/-- Filters of one shape put the same condition on a column. -/
lemma condition?_eq (h : f.SameShape g) (column : Text) :
    condition? column f = condition? column g := by
  have hlength := h.length_boundTexts
  have hempty : (boundTexts f).isEmpty = (boundTexts g).isEmpty := by
    rw [Bool.eq_iff_iff, List.isEmpty_iff_length_eq_zero, List.isEmpty_iff_length_eq_zero, hlength]
  rw [condition?, condition?, hempty, hlength, h.comparison]
  cases htest : testOf? g.comparison with
  | some test => rfl
  | none =>
    -- only an equality looks at a value, and it asks the one question that the shape answers
    have hequals : f.comparison = .equals := h.comparison ▸ testOf?_eq_none_iff.1 htest
    have hne : f.comparison ≠ .between := by simp [hequals]
    rw [boundTexts_of_ne_between hne, boundTexts_of_ne_between (h.comparison ▸ hne)]
    simp only [h.null_iff hequals]

end Filter.SameShape

/-- Entries of one shape have the same names and put the same conditions. -/
lemma conditions_congr {entries entries' : List (Text × Filter)}
    (h : List.Forall₂ (fun e e' => e.1 = e'.1 ∧ e.2.SameShape e'.2) entries entries') :
    entries.map Prod.fst = entries'.map Prod.fst ∧
      conditions ⟨entries⟩ = conditions ⟨entries'⟩ := by
  induction h with
  | nil => exact ⟨rfl, rfl⟩
  | cons he _ ih =>
    constructor
    · rw [List.map_cons, List.map_cons, he.1, ih.1]
    · rw [conditions_cons, conditions_cons, he.1, he.2.condition?_eq, ih.2]

/-! ### Requests -/

namespace Request.SameShape

variable {r s : Request}

lemma fieldNames_eq (h : r.SameShape s) : r.fieldNames = s.fieldNames := by
  have hnames : r.filters.names = s.filters.names := (conditions_congr h.filters).1
  rw [fieldNames, fieldNames, hnames, h.sorting]

lemma whereText_eq (h : r.SameShape s) : whereText r.filters = whereText s.filters := by
  have hconditions : conditions r.filters = conditions s.filters := (conditions_congr h.filters).2
  rw [whereText, whereText, hconditions]

lemma text_eq (h : r.SameShape s) : Sql.text r = Sql.text s := by
  rw [Sql.text, Sql.text, h.whereText_eq, h.sorting]

end Request.SameShape

namespace Store

/-- **Values do not get into statements.**  Requests of one shape have one text.  For fields that
are allowed, one statement is run to fetch the rows of both requests and one to count them, whatever
the values of the filters and the numbers of the pages, but for the bindings. -/
theorem statements_of_sameShape {r s : Request} (h : r.SameShape s) :
    Sql.text r = Sql.text s ∧
      ∀ {f g : Fragment}, compile r = .ok f → compile s = .ok g →
        f.text = g.text ∧
          ∀ (db db' : Backend) (table : Text) (allowed : List Text),
            (∀ name ∈ r.fieldNames, name ∈ allowed) →
            (∃ rows, (fetchRows db table r allowed).statements.map Statement.text = [rows] ∧
              (fetchRows db' table s allowed).statements.map Statement.text = [rows]) ∧
            ∃ count, (fetchCount db table r allowed).statements.map Statement.text = [count] ∧
              (fetchCount db' table s allowed).statements.map Statement.text = [count] := by
  refine ⟨h.text_eq, fun {f g} hf hg => ?_⟩
  obtain ⟨vs, hvs, hftext, -⟩ := exists_filterValues_of_compile hf
  obtain ⟨ws, hws, hgtext, -⟩ := exists_filterValues_of_compile hg
  have hfragment : f.text = g.text := by rw [hftext, hgtext, h.text_eq]
  refine ⟨hfragment, fun db db' table allowed hallowed => ?_⟩
  have hallowed' : ∀ name ∈ s.fieldNames, name ∈ allowed := h.fieldNames_eq ▸ hallowed
  have hrows : rowsText table f = rowsText table g := by
    rw [rowsText_eq, rowsText_eq, hfragment]
  have hcount : countText table r.filters = countText table s.filters := by
    rw [countText, countText, h.whereText_eq]
  constructor
  · refine ⟨rowsText table f, ?_, ?_⟩
    · rw [statements_fetchRows hallowed hf]
      rfl
    · rw [statements_fetchRows hallowed' hg, hrows]
      rfl
  · refine ⟨countText table r.filters, ?_, ?_⟩
    · rw [statements_fetchCount hallowed hvs]
      rfl
    · rw [statements_fetchCount hallowed' hws, hcount]
      rfl

/-- Quotes, marks and comments in the values of one request, and harmless values in the other. -/
theorem statements_of_sameShape_quotes :
    ∃ rows,
      (fetchRows { first := fun _ => .ok none, all := fun _ => .ok [] } "t"
          { filters := ⟨[("a", ⟨.equals, ["' OR 1=1 --"]⟩), ("b", ⟨.between, ["?", "x", "3"]⟩),
              ("c", ⟨.equals, ["null"]⟩), ("d", ⟨.contains, ["\x00", "%"]⟩)]⟩
            sorting := ⟨[("a", .descending)]⟩
            limit := 7 } ["a", "b", "c", "d"]).statements.map Statement.text = [rows] ∧
      (fetchRows { first := fun _ => .error "locked", all := fun _ => .error "locked" } "t"
          { filters := ⟨[("a", ⟨.equals, ["1"]⟩), ("b", ⟨.between, ["1", "2", "y"]⟩),
              ("c", ⟨.equals, ["null"]⟩), ("d", ⟨.contains, ["null", "z"]⟩)]⟩
            sorting := ⟨[("a", .descending)]⟩
            offset := 9 } ["a", "b", "c", "d"]).statements.map Statement.text = [rows] :=
  (((statements_of_sameShape (by decide)).2
    (f := ⟨"WHERE a = ? AND b BETWEEN ? AND ? AND c IS ? AND (d LIKE ? OR d LIKE ?) " ++
        "ORDER BY a DESC LIMIT ? OFFSET ?",
      [.text "' OR 1=1 --", .text "?", .text "x", .null, .text "%\x00%", .text "%%%", .integer 7,
        .integer 0]⟩) (by decide +kernel)
    (g := ⟨"WHERE a = ? AND b BETWEEN ? AND ? AND c IS ? AND (d LIKE ? OR d LIKE ?) " ++
        "ORDER BY a DESC LIMIT ? OFFSET ?",
      [.integer 1, .integer 1, .integer 2, .null, .null, .text "%z%", .integer 50, .integer 9]⟩)
    (by decide +kernel)).2 _ _ _ _ (by decide)).1

end Store

end Listing
