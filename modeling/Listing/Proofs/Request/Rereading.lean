import Mathlib
import Listing.Proofs.Request.Range

/-!
# Requests that were read, written and read again

A request that was read is as good as a built one, and better: none of its filters is without
values, and every name of a filter can be a key.  So its text is read back, and all that gets lost
on the way are the sort fields with a blank name, which a query string can spell but which are
never written.  A first key that starts with a question mark is left out here: the text of such a
request starts with that mark, and the reader takes it for one in front of the query string.
-/

namespace Listing.Request

open Text

/-- Of a request that was read all filters are written. -/
lemma Readable.written_eq {r : Request} (h : r.Readable) :
    r.written = { r with sorting := ⟨r.sorting.named⟩ } := by
  have hall : (r.filters.entries.filter fun e => !e.2.values.isEmpty) = r.filters.entries := by
    rw [List.filter_eq_self]
    intro e he
    simpa using h.valued e he
  rw [written, hall]

lemma Readable.readable_written {r : Request} (h : r.Readable) : r.written.Readable := by
  rw [h.written_eq]
  exact h.setSorting (Sorting.nodup_named h.wellFormed.nodup)
    fun e he => Sorting.ne_nil_of_mem_named he

lemma Readable.read_text {r : Request} (h : r.Readable)
    (hmark : ∀ e ∈ r.filters.entries.head?, e.1.head? ≠ some '?') :
    read r.text = ⟨[], .ok r.written⟩ := by
  have hwritten := h.readable_written
  have hfirst : ∀ e ∈ r.written.filters.entries.head?, e.1.head? ≠ some '?' := by
    rw [h.written_eq]
    exact hmark
  rw [read, splitTokens_text hwritten.isKey hfirst, tokens_eq, readTokens_fullTokens hwritten]

/-- The order of a request loses nothing if none of its names is blank. -/
lemma sorting_named_eq_iff {m : Sorting} :
    (⟨m.named⟩ : Sorting) = m ↔ ∀ e ∈ m.entries, blank e.1 = false := by
  obtain ⟨entries⟩ := m
  rw [Fields.mk.injEq, Sorting.named, List.filter_eq_self]
  simp

/-- **What was read is read again** from its own text, without notes and up to the sort fields
with a blank name; so it comes back as it was exactly if it has none. -/
theorem read_text_of_read {search : Text} {r : Request} (h : (read search).outcome = .ok r)
    (hmark : ∀ e ∈ r.filters.entries.head?, e.1.head? ≠ some '?') :
    read r.text = ⟨[], .ok { r with sorting := ⟨r.sorting.named⟩ }⟩ ∧
      ((read r.text).outcome = .ok r ↔ ∀ e ∈ r.sorting.entries, blank e.1 = false) := by
  have hreadable := readable_of_read h
  have hread := hreadable.read_text hmark
  rw [hreadable.written_eq] at hread
  refine ⟨hread, ?_⟩
  rw [hread, ← sorting_named_eq_iff]
  constructor
  · intro heq
    exact congrArg Request.sorting (Except.ok.inj heq)
  · intro heq
    simp only [heq]

/-- A question mark in front, another in a key, a filter by a plain value, an order with a blank
name and a page of its own. -/
theorem read_text_of_read_blank_name :
    (read "? b=1&?a=contains:x,%26&order=%20:desc,c:asc&limit=7").outcome =
        .ok
          { filters := ⟨[("b", ⟨.equals, ["1"]⟩), ("?a", ⟨.contains, ["x", "&"]⟩)]⟩
            sorting := ⟨[(" ", .descending), ("c", .ascending)]⟩
            limit := 7 } ∧
      read "b=equals:1&?a=contains:x,%26&order=c:asc&limit=7&offset=0" =
        ⟨[], .ok
          { filters := ⟨[("b", ⟨.equals, ["1"]⟩), ("?a", ⟨.contains, ["x", "&"]⟩)]⟩
            sorting := ⟨[("c", .ascending)]⟩
            limit := 7 }⟩ := by
  have h : (read "? b=1&?a=contains:x,%26&order=%20:desc,c:asc&limit=7").outcome =
      .ok
        { filters := ⟨[("b", ⟨.equals, ["1"]⟩), ("?a", ⟨.contains, ["x", "&"]⟩)]⟩
          sorting := ⟨[(" ", .descending), ("c", .ascending)]⟩
          limit := 7 } := by
    decide
  exact ⟨h, (read_text_of_read h (by decide)).1⟩

/-- A sort field with a blank name is read from a query string but not from the text of the
request. -/
theorem read_text_ne_of_blank_name :
    ∃ r, (read "order=%20:desc").outcome = .ok r ∧ (read r.text).outcome ≠ .ok r :=
  ⟨{ sorting := ⟨[(" ", .descending)]⟩ }, by decide, by decide⟩

end Listing.Request
