import Mathlib
import Listing.Proofs.Command.Statements
import Listing.Proofs.Sql.Shown
import Listing.Proofs.Store.Counting

/-!
# The page that the command fetches

The command cuts the page of a request down to what the settings allow, and then does everything
with this page: it is the one that is described, and the one that is fetched.  So the statement that
fetches the rows is the one whose text and values were printed, and the values can be told from what
was printed, where the doubles that are no numbers are one and the same.  Its last two bindings are
the lesser of the limit that was asked for and the greatest one allowed, and the offset that was
asked for.  Of the request nothing else is changed.
-/

namespace Listing.Command

open Sql (Value)

variable {db : Store.Backend} {env : Environment} {arguments : Arguments}

/-- What the statement that fetches the rows of a prepared request has to do with what was asked for
and with what is printed. -/
structure Paged (q : Prepared env arguments) (output : List Text) (s : Statement) : Prop where
  /-- The lines about the request come first. -/
  output : ∃ rest, output = ["http: " ++ q.request.text, "sql: " ++ q.fragment.text,
    "values: " ++ Text.joined ", " (q.fragment.values.map Value.shown)] ++ rest
  /-- The text is the one that is printed, behind the table. -/
  text : s.text = ("SELECT * FROM " : Text) ++ arguments.table ++ ' ' :: q.fragment.text
  /-- The bindings are those of the values that are printed. -/
  bindings : s.bindings = q.fragment.values.map Value.binding
  /-- The line that is printed means these values and no others. -/
  told : ∀ values, Value.Line values (Text.joined ", " (q.fragment.values.map Value.shown)) ↔
    values.map Value.canonical = q.fragment.values
  /-- The page comes last, and is cut down. -/
  page : ∃ (bound : List Sql.Binding) (limit offset : ℤ),
    s.bindings = bound ++ [.int limit, .int offset] ∧
      limit = min (q.asked.limit : ℤ) q.settings.maxLimit ∧ offset = q.asked.offset ∧
      (0 ≤ limit ∧ limit ≤ q.settings.maxLimit) ∧ 0 ≤ offset ∧ offset ≤ 2 ^ 63 - 1
  /-- The greatest page size is positive. -/
  maxLimit_pos : 0 < q.settings.maxLimit
  /-- But for the page, the request is the one that was read. -/
  kept : q.request.filters = q.asked.filters ∧ q.request.sorting = q.asked.sorting ∧
    Sql.whereText q.request.filters = Sql.whereText q.asked.filters ∧
    Sql.filterValues q.request.filters = Sql.filterValues q.asked.filters

/-- The request that is run is the one that was read, with its limit cut down. -/
lemma Prepared.request_eq (q : Prepared env arguments) :
    q.asked.limit ≤ maxPage ∧ q.asked.offset ≤ maxPage ∧
      q.request = { q.asked with limit := min q.asked.limit q.settings.maxLimit } := by
  have hwf := (Request.readable_of_read q.read).wellFormed
  refine ⟨hwf.limit_le, hwf.offset_le, ?_⟩
  exact ((Request.clamp_eq_ok_iff hwf.limit_le).1 q.clamped).2.symm

lemma Prepared.paged (q : Prepared env arguments) (rest : List Text) :
    Paged q (q.lines ++ rest) q.rows := by
  obtain ⟨-, hle, hrequest⟩ := q.request_eq
  have hfilters : q.request.filters = q.asked.filters := by rw [hrequest]
  have hsorting : q.request.sorting = q.asked.sorting := by rw [hrequest]
  have hlimit : q.request.limit = min q.asked.limit q.settings.maxLimit := by rw [hrequest]
  have hoffset : q.request.offset = q.asked.offset := by rw [hrequest]
  refine ⟨⟨rest, rfl⟩, Store.rowsText_eq _ _, rfl, fun values => ?told, ?page,
    Settings.maxLimit_pos q.loaded, hfilters, hsorting, by rw [hfilters], by rw [hfilters]⟩
  case told =>
    -- a compiled value is the one that stands for its line
    rw [Value.line_shown_iff, Value.canonical_of_compile q.compiled]
  case page =>
    obtain ⟨vs, -, -, hvalues⟩ := Store.exists_filterValues_of_compile q.compiled
    -- the values of the filters are bound before the page
    have hbindings : q.rows.bindings =
        vs.map Value.binding ++ [.int q.request.limit, .int q.request.offset] := by
      rw [Prepared.rows, Store.rowsStatement, hvalues, List.map_append]
      rfl
    have hmax : (maxPage : ℤ) = 2 ^ 63 - 1 := by decide
    exact ⟨_, _, _, hbindings, by omega, by omega, by omega, by omega, by omega⟩

end Listing.Command
