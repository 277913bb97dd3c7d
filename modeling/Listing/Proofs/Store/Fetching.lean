import Mathlib
import Listing.Store.Fetch
import Listing.Proofs.Run
import Listing.Proofs.Request.Page
import Listing.Proofs.Sql.Values

/-!
# What counting and fetching do

A request that speaks of a field that is not allowed does nothing at all, and so does one that
cannot be bound.  Every other request hands one statement to the database when rows are counted, and
one when they are fetched; whatever the database answers, there is no second one.  Both statements
are given here, so that what is said later about them need not look into the runs.
-/

namespace Listing.Store

open Sql (Value Fragment)

variable {db : Backend} {table : Text} {r : Request} {allowed : List Text}

/-! ### The check of the fields -/

/-- A request passes the check exactly if it speaks of allowed fields only. -/
lemma checkAllowed_eq_ok_iff {u : Unit} :
    checkAllowed r allowed = .ok u ↔ ∀ name ∈ r.fieldNames, name ∈ allowed := by
  rw [checkAllowed]
  cases hfind : r.fieldNames.find? fun name => !allowed.contains name with
  | none => simpa using hfind
  | some name =>
    obtain ⟨hname, -⟩ := List.find?_eq_some_iff_append.1 hfind
    have hmem := List.mem_of_find?_eq_some hfind
    simp only [reduceCtorEq, false_iff]
    intro h
    simp [h name hmem] at hname

/-- The check refuses a request for a field only. -/
lemma exists_of_checkAllowed_eq_error {e : Failure} (h : checkAllowed r allowed = .error e) :
    ∃ name, e = .disallowed name := by
  rw [checkAllowed] at h
  split at h
  · exact ⟨_, (Except.error.inj h).symm⟩
  · cases h

/-- The check names the first field that is not allowed. -/
lemma exists_first_of_not_allowed (h : ∃ name ∈ r.fieldNames, name ∉ allowed) :
    ∃ before name after, r.fieldNames = before ++ name :: after ∧ (∀ n ∈ before, n ∈ allowed) ∧
      name ∉ allowed ∧ checkAllowed r allowed = .error (.disallowed name) := by
  cases hfind : r.fieldNames.find? fun name => !allowed.contains name with
  | none =>
    obtain ⟨name, hmem, hname⟩ := h
    have hall : ∀ name ∈ r.fieldNames, name ∈ allowed := by simpa using hfind
    exact absurd (hall name hmem) hname
  | some name =>
    obtain ⟨hname, before, after, hsplit, hbefore⟩ := List.find?_eq_some_iff_append.1 hfind
    refine ⟨before, name, after, hsplit, ?_, by simpa using hname, ?_⟩
    · intro n hn
      simpa using hbefore n hn
    · rw [checkAllowed, hfind]

example :
    checkAllowed
      { filters := ⟨[("a", ⟨.less, ["1"]⟩), ("b", ⟨.equals, []⟩)]⟩
        sorting := ⟨[(" ", .ascending)]⟩ } ["a"] = .error (.disallowed "b") := by
  decide

/-- A request keeps its filters and its order when its page is cut down. -/
lemma filters_and_sorting_of_clamp {cap : Int} {r' : Request} (h : r.clamp cap = .ok r') :
    r'.filters = r.filters ∧ r'.sorting = r.sorting := by
  rw [Request.clamp, Request.setPage?_eq_ok_iff] at h
  rw [← h.2]
  exact ⟨rfl, rfl⟩

/-! ### The statements -/

/-- The values of a compiled request are those of its filters, with the page at the end. -/
lemma exists_filterValues_of_compile {f : Fragment} (h : Sql.compile r = .ok f) :
    ∃ vs, Sql.filterValues r.filters = .ok vs ∧ f.text = Sql.text r ∧
      f.values = vs ++ [.integer r.limit, .integer r.offset] := by
  obtain ⟨htext, hvalues⟩ := Sql.compile_eq_ok_iff.1 h
  obtain ⟨-, -, vs, hvs, heq⟩ := Sql.values_eq_ok_iff.1 hvalues
  exact ⟨vs, Sql.filterValues_eq_ok_iff.2 hvs, htext, heq⟩

lemma rowsText_eq (table : Text) (f : Fragment) :
    rowsText table f = "SELECT * FROM " ++ table ++ ' ' :: f.text := rfl

/-- The statement that counts the rows selected by filters with these values. -/
def countStatement (table : Text) (m : Filters) (vs : List Value) : Statement :=
  ⟨countText table m, vs.map Value.binding⟩

/-- The statement that fetches the rows of a compiled request. -/
def rowsStatement (table : Text) (f : Fragment) : Statement :=
  ⟨rowsText table f, f.values.map Value.binding⟩

lemma fetchCount_of_error {e : Failure} (h : checkAllowed r allowed = .error e) :
    fetchCount db table r allowed = ⟨[], .error e⟩ := by
  rw [fetchCount, h]
  rfl

lemma fetchRows_of_error {e : Failure} (h : checkAllowed r allowed = .error e) :
    fetchRows db table r allowed = ⟨[], .error e⟩ := by
  rw [fetchRows, h]
  rfl

/-- Counting hands one statement to the database, and only if all fields are allowed and all filters
can be bound. -/
lemma mem_statements_fetchCount {s : Statement} :
    s ∈ (fetchCount db table r allowed).statements ↔
      (∀ name ∈ r.fieldNames, name ∈ allowed) ∧
        ∃ vs, Sql.filterValues r.filters = .ok vs ∧ s = countStatement table r.filters vs := by
  simp only [fetchCount, Run.mem_statements_bind, Run.statements_lift, Run.mem_statements_emit,
    Run.lift_eq_ok_iff, checkAllowed_eq_ok_iff, countStatement]
  simp [eq_comm]

/-- Fetching hands one statement to the database, and only if all fields are allowed and the request
can be compiled. -/
lemma mem_statements_fetchRows {s : Statement} :
    s ∈ (fetchRows db table r allowed).statements ↔
      (∀ name ∈ r.fieldNames, name ∈ allowed) ∧
        ∃ f, Sql.compile r = .ok f ∧ s = rowsStatement table f := by
  simp only [fetchRows, Run.log, Run.mem_statements_bind, Run.statements_lift,
    Run.mem_statements_emit, Run.lift_eq_ok_iff, checkAllowed_eq_ok_iff, rowsStatement]
  simp [Run.emit, eq_comm]

/-- Counting is one statement and the number in the answer to it. -/
lemma fetchCount_of_ok {u : Unit} (h : checkAllowed r allowed = .ok u) {vs : List Value}
    (hvs : Sql.filterValues r.filters = .ok vs) :
    (fetchCount db table r allowed).deeds = [.executed (countStatement table r.filters vs)] ∧
      (fetchCount db table r allowed).outcome =
        (db.first (countStatement table r.filters vs)).mapError .database >>= fun answer =>
          (countOfAnswer answer).mapError .count := by
  have hcount : fetchCount db table r allowed =
      Run.emit (.executed (countStatement table r.filters vs)) >>= fun _ =>
        Run.lift .database (db.first (countStatement table r.filters vs)) >>= fun answer =>
          Run.lift .count (countOfAnswer answer) := by
    rw [fetchCount, h, hvs]
    rfl
  rw [hcount]
  cases db.first (countStatement table r.filters vs) with
  | error message => exact ⟨rfl, rfl⟩
  | ok answer =>
    refine ⟨?_, Run.outcome_lift .count (countOfAnswer answer)⟩
    rw [Run.deeds_emit_bind rfl, Run.lift_ok_bind, Run.deeds_lift]

/-- Fetching is one statement and the rows in the answer to it. -/
lemma fetchRows_of_ok {u : Unit} (h : checkAllowed r allowed = .ok u) {f : Fragment}
    (hf : Sql.compile r = .ok f) :
    (fetchRows db table r allowed).deeds = [.executed (rowsStatement table f)] ∧
      (fetchRows db table r allowed).outcome =
        (db.all (rowsStatement table f)).mapError .database := by
  have hrows : ∃ message, fetchRows db table r allowed =
      Run.log .debug .fetching message >>= fun _ =>
        Run.emit (.executed (rowsStatement table f)) >>= fun _ =>
          Run.lift .database (db.all (rowsStatement table f)) := by
    rw [fetchRows, h, hf]
    exact ⟨_, rfl⟩
  obtain ⟨message, hrows⟩ := hrows
  rw [hrows]
  refine ⟨?_, Run.outcome_lift .database (db.all (rowsStatement table f))⟩
  cases db.all (rowsStatement table f) <;> rfl

lemma statements_fetchCount (hallowed : ∀ name ∈ r.fieldNames, name ∈ allowed) {vs : List Value}
    (hvs : Sql.filterValues r.filters = .ok vs) :
    (fetchCount db table r allowed).statements = [countStatement table r.filters vs] := by
  have hcheck : checkAllowed r allowed = .ok () := checkAllowed_eq_ok_iff.2 hallowed
  rw [← Run.statements_deeds, (fetchCount_of_ok hcheck hvs).1]
  rfl

lemma statements_fetchRows (hallowed : ∀ name ∈ r.fieldNames, name ∈ allowed) {f : Fragment}
    (hf : Sql.compile r = .ok f) :
    (fetchRows db table r allowed).statements = [rowsStatement table f] := by
  have hcheck : checkAllowed r allowed = .ok () := checkAllowed_eq_ok_iff.2 hallowed
  rw [← Run.statements_deeds, (fetchRows_of_ok hcheck hf).1]
  rfl

end Listing.Store
