import Mathlib
import Listing.Proofs.Sql.Lexing
import Listing.Proofs.Store.Fetching

/-!
# The count and the page

The statement that counts rows and the statement that fetches a page of them are put together in
different places, and yet they speak of the same rows: what stands between the table and the order
in the one is what follows the table in the other, and the values bound in both are the same, up to
the two numbers of the page.  The count knows neither the page nor the order.
-/

namespace Listing.Store

open Sql (Value Fragment)

/-- The conditions of filters behind the table, if there are any. -/
def whereSuffix (m : Filters) : Text :=
  if Sql.whereText m = [] then [] else (" WHERE " : Text) ++ Sql.whereText m

/-- What stands behind the conditions: the order, if there is one, and the page. -/
def pageSuffix (r : Request) : Text :=
  (if Sql.orderText r.sorting = [] then [] else (" ORDER BY " : Text) ++ Sql.orderText r.sorting) ++
    (" LIMIT ? OFFSET ?" : Text)

/-- One statement counts the rows of a request and the other fetches a page of them. -/
structure Agree (table : Text) (r : Request) (count rows : Statement) : Prop where
  /-- The values are the same, and the numbers of the page come after them. -/
  bindings : rows.bindings = count.bindings ++ [.int r.limit, .int r.offset]
  /-- Conditions stand in the one exactly if they stand in the other, and there in front of the
  order and the page. -/
  conditions_iff : ∀ w, count.text = ("SELECT COUNT(*) FROM " : Text) ++ table ++ " WHERE " ++ w ↔
    rows.text = ("SELECT * FROM " : Text) ++ table ++ " WHERE " ++ w ++ pageSuffix r
  /-- Neither has conditions if no filter makes one. -/
  unfiltered : Sql.conditions r.filters = [] →
    count.text = ("SELECT COUNT(*) FROM " : Text) ++ table ∧
      rows.text = ("SELECT * FROM " : Text) ++ table ++ pageSuffix r
  /-- Both have conditions if some filter makes one. -/
  filtered : Sql.conditions r.filters ≠ [] →
    ∃ w, w ≠ [] ∧
      count.text = ("SELECT COUNT(*) FROM " : Text) ++ table ++ (" WHERE " : Text) ++ w

lemma pageSuffix_eq (r : Request) :
    pageSuffix r = (if Sql.orderText r.sorting = [] then []
      else (" ORDER BY " : Text) ++ Sql.orderText r.sorting) ++ (" LIMIT ? OFFSET ?" : Text) := rfl

variable {db : Backend} {table : Text} {r s : Request} {allowed : List Text}

/-! ### The texts -/

lemma countText_eq (table : Text) (m : Filters) :
    countText table m = ("SELECT COUNT(*) FROM " : Text) ++ table ++ whereSuffix m := by
  rw [countText, Sql.clause, whereSuffix]
  by_cases h : Sql.whereText m = []
  · simp [h]
  · rw [if_neg (by simpa using h), if_neg h, Text.joined_cons_cons, Text.joined_singleton]
    simp

lemma blank_text (r : Request) : ' ' :: Sql.text r = whereSuffix r.filters ++ pageSuffix r := by
  have hpage : (" LIMIT ? OFFSET ?" : Text) = ' ' :: Sql.pageText := rfl
  rw [whereSuffix, pageSuffix_eq, hpage, Sql.text, Sql.clause, Sql.clause]
  by_cases hw : Sql.whereText r.filters = [] <;> by_cases ho : Sql.orderText r.sorting = [] <;>
    simp [hw, ho, Text.joined_cons_cons]

lemma rowsText_eq_append (table : Text) {f : Fragment} (h : f.text = Sql.text r) :
    rowsText table f
      = ("SELECT * FROM " : Text) ++ table ++ whereSuffix r.filters ++ pageSuffix r := by
  rw [rowsText_eq, h, blank_text]
  simp

/-! ### The statements -/

lemma agree_of_filterValues {f : Fragment} {vs : List Value} (htext : f.text = Sql.text r)
    (hvalues : f.values = vs ++ [.integer r.limit, .integer r.offset]) :
    Agree table r (countStatement table r.filters vs) (rowsStatement table f) := by
  have hcount : (countStatement table r.filters vs).text
      = ("SELECT COUNT(*) FROM " : Text) ++ table ++ whereSuffix r.filters := countText_eq _ _
  have hrows : (rowsStatement table f).text
      = ("SELECT * FROM " : Text) ++ table ++ whereSuffix r.filters ++ pageSuffix r :=
    rowsText_eq_append _ htext
  refine ⟨?_, fun w => ?_, fun hnone => ?_, fun hsome => ?_⟩
  · rw [rowsStatement, hvalues, List.map_append]
    rfl
  · -- on either side the conditions are what stands between the table and the suffix
    rw [hcount, hrows, List.append_assoc _ _ w, List.append_cancel_left_eq,
      List.append_cancel_right_eq, List.append_assoc _ _ w, List.append_cancel_left_eq]
  · have hsuffix : whereSuffix r.filters = [] := if_pos (Sql.whereText_eq_nil_iff.2 hnone)
    rw [hcount, hrows, hsuffix, List.append_nil, List.append_nil]
    exact ⟨rfl, rfl⟩
  · have hne : Sql.whereText r.filters ≠ [] := Sql.whereText_eq_nil_iff.not.2 hsome
    refine ⟨Sql.whereText r.filters, hne, ?_⟩
    rw [hcount, whereSuffix, if_neg hne, List.append_assoc _ _ (Sql.whereText _)]

/-- Counting depends on the filters alone, as long as all fields are allowed. -/
lemma fetchCount_congr (hr : ∀ name ∈ r.fieldNames, name ∈ allowed)
    (hs : ∀ name ∈ s.sorting.names, name ∈ allowed) (hfilters : s.filters = r.filters) :
    fetchCount db table s allowed = fetchCount db table r allowed := by
  have hallowed : ∀ name ∈ s.fieldNames, name ∈ allowed := by
    intro name hname
    rcases List.mem_append.1 hname with hname | hname
    · exact hr name (List.mem_append_left _ (hfilters ▸ hname))
    · exact hs name hname
  have hcheck : checkAllowed r allowed = .ok () := checkAllowed_eq_ok_iff.2 hr
  have hcheck' : checkAllowed s allowed = .ok () := checkAllowed_eq_ok_iff.2 hallowed
  rw [fetchCount, fetchCount, hcheck, hcheck', hfilters]

/-- **Count and page agree.**  For a request for allowed fields that can be compiled, the statement
that counts and the one that fetches rows have the same conditions and the same values for them.
Neither the page nor the order has a part in the count, so it is the same for any other page and
order, and when the page is cut down. -/
theorem count_agrees {f : Fragment} (hallowed : ∀ name ∈ r.fieldNames, name ∈ allowed)
    (hf : Sql.compile r = .ok f) :
    (∃ count rows, (fetchCount db table r allowed).statements = [count] ∧
      (fetchRows db table r allowed).statements = [rows] ∧ Agree table r count rows) ∧
    (∀ s : Request, s.filters = r.filters → (∀ name ∈ s.sorting.names, name ∈ allowed) →
      fetchCount db table s allowed = fetchCount db table r allowed) ∧
    ∀ (cap : ℤ) (s : Request), r.clamp cap = .ok s →
      fetchCount db table s allowed = fetchCount db table r allowed := by
  obtain ⟨vs, hvs, htext, hvalues⟩ := exists_filterValues_of_compile hf
  refine ⟨⟨_, _, statements_fetchCount hallowed hvs, statements_fetchRows hallowed hf,
    agree_of_filterValues htext hvalues⟩,
    fun s hfilters hs => fetchCount_congr hallowed hs hfilters, fun cap s hs => ?_⟩
  obtain ⟨hfilters, hsorting⟩ := filters_and_sorting_of_clamp hs
  refine fetchCount_congr hallowed (fun name hname => hallowed name ?_) hfilters
  exact List.mem_append_right _ (hsorting ▸ hname)

/-- A range with an odd last value, a filter that makes no condition, and an order. -/
theorem count_agrees_odd_range :
    ∃ count rows,
      (fetchCount { first := fun _ => .ok (some [.int 3]), all := fun _ => .ok [] } "t"
          { filters := ⟨[("a", ⟨.between, ["1", "2", "3"]⟩), ("b", ⟨.less, []⟩)]⟩
            sorting := ⟨[("b", .descending)]⟩ } ["a", "b"]).statements = [count] ∧
      (fetchRows { first := fun _ => .ok (some [.int 3]), all := fun _ => .ok [] } "t"
          { filters := ⟨[("a", ⟨.between, ["1", "2", "3"]⟩), ("b", ⟨.less, []⟩)]⟩
            sorting := ⟨[("b", .descending)]⟩ } ["a", "b"]).statements = [rows] ∧
      Agree "t"
        { filters := ⟨[("a", ⟨.between, ["1", "2", "3"]⟩), ("b", ⟨.less, []⟩)]⟩
          sorting := ⟨[("b", .descending)]⟩ } count rows :=
  (count_agrees
    (f := ⟨"WHERE a BETWEEN ? AND ? ORDER BY b DESC LIMIT ? OFFSET ?",
      [.integer 1, .integer 2, .integer 50, .integer 0]⟩) (by decide) (by decide +kernel)).1

end Listing.Store
