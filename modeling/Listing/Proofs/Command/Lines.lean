import Mathlib
import Listing.Command.Execute
import Listing.Proofs.Request.Merging
import Listing.Proofs.Sql.Placeholders
import Listing.Proofs.Store.Fetching
import Listing.Proofs.Text.Lines

/-!
# The lines about a request

The command prints three lines about a request, which are lines only if nothing in them ends one.
What they take over from the request is written in four ways.  Values and the names of sort fields
are escaped in the plain form, and bound values are quoted, so that none of them can end a line
there.  But the names of filters stand as they are both in the plain form and in the SQL, and the
names of sort fields, unescaped once, stand as they are in the SQL.  So the lines are lines exactly
if the names are, blank sort fields apart, which are left out.

A query string without line breaks has no name of a filter with a line break in it, but it may spell
such a name of a sort field.
-/

namespace Listing

open Text

/-! ### Numbers -/

lemma Numeral.singleLine_ofNat (n : ℕ) : SingleLine (ofNat n) :=
  (Numeral.written_ofNat n).solid.singleLine

lemma Numeral.singleLine_ofInt (n : ℤ) : SingleLine (ofInt n) := by
  cases n with
  | ofNat n => exact singleLine_ofNat n
  | negSucc n =>
    rw [ofInt, singleLine_cons]
    exact ⟨by decide, singleLine_ofNat (n + 1)⟩

namespace Double

lemma singleLine_padZeros (width : ℕ) {t : Text} (h : SingleLine t) :
    SingleLine (padZeros width t) := by
  rw [padZeros, singleLine_append]
  exact ⟨SingleLine.replicate (by decide) _, h⟩

lemma singleLine_positional {digits : Text} (h : SingleLine digits) (place : ℤ) :
    SingleLine (positional digits place) := by
  have hzeros (n : ℕ) : SingleLine (List.replicate n '0') := SingleLine.replicate (by decide) n
  rw [positional]
  split
  · simp [h, hzeros]
  · have hwhole : SingleLine (digits.take place.toNat) := h.of_subset (List.take_subset _ _)
    have hfraction : SingleLine (digits.drop place.toNat) := h.of_subset (List.drop_subset _ _)
    dsimp only
    split <;> simp [hwhole, hfraction, hzeros]

lemma singleLine_scientific (layout : Layout) {digits : Text} (h : SingleLine digits)
    (exponent : ℤ) : SingleLine (scientific layout digits exponent) := by
  have hexponent := singleLine_padZeros layout.exponentDigits
    (Numeral.singleLine_ofNat exponent.natAbs)
  have hsign : (if exponent < 0 then '-' else '+') ≠ '\n' ∧
      (if exponent < 0 then '-' else '+') ≠ '\r' := by
    split <;> decide
  dsimp only [scientific]
  rw [singleLine_append, singleLine_cons, singleLine_cons]
  refine ⟨?_, by decide, hsign, hexponent⟩
  split
  · simpa using h
  · exact h

lemma singleLine_magnitudeText (x : Magnitude) : SingleLine (magnitudeText x) := by
  rw [magnitudeText.eq_def]
  split
  · decide
  · decide
  · decide
  · dsimp only
    rw [Layout.write]
    split
    · exact singleLine_positional (Numeral.singleLine_ofNat _) _
    · exact singleLine_scientific _ (Numeral.singleLine_ofNat _) _

lemma singleLine_text (x : Double) : SingleLine x.text := by
  rw [text]
  split
  · exact singleLine_cons.2 ⟨by decide, singleLine_magnitudeText x.magnitude⟩
  · exact singleLine_magnitudeText x.magnitude

end Double

/-! ### Values -/

namespace Sql

/-- **A value that is shown** is a single line. -/
lemma Value.singleLine_shown (v : Value) : SingleLine v.shown := by
  have hinner (start inner : Text) (hstart : SingleLine start) (h : SingleLine inner) :
      SingleLine (start ++ inner ++ ")") :=
    singleLine_append.2 ⟨singleLine_append.2 ⟨hstart, h⟩, by decide⟩
  cases v with
  | null => exact (by decide : SingleLine "Null")
  | integer n => exact hinner "Integer(" _ (by decide) (Numeral.singleLine_ofInt n)
  | real x => exact hinner "Real(" _ (by decide) x.singleLine_text
  | text t => exact hinner "Text(" _ (by decide) (Quoted.singleLine_encode _ t)
  | blob octets =>
    exact hinner "Blob(" _ (by decide)
      (singleLine_cons.2 ⟨by decide, Quoted.singleLine_encode _ _⟩)

/-! ### The SQL -/

lemma Test.singleLine_text (test : Test) : SingleLine test.text := by
  cases test <;> decide

/-- A condition is a single line if the name of its column is, which stands in it at least once. -/
lemma Condition.singleLine_text {c : Condition} (h : c.placeholders ≠ 0) :
    SingleLine c.text ↔ SingleLine c.column := by
  cases c with
  | is name => simp [text, column]
  | equal name => simp [text, column]
  | among name count =>
    have hmarks : SingleLine (joined ", " (List.replicate count "?")) := by
      rw [singleLine_joined (by decide)]
      intro p hp
      rw [List.eq_of_mem_replicate hp]
      decide
    have hopen : SingleLine " IN (" := by decide
    have hclose : SingleLine ")" := by decide
    rw [text, column, singleLine_append, singleLine_append, singleLine_append]
    simp only [hmarks, hopen, hclose, and_true]
  | any name test count =>
    have hcount : count ≠ 0 := by
      rintro rfl
      exact h (Nat.zero_mul _)
    have hparts : (∀ p ∈ List.replicate count (name ++ ' ' :: test.text), SingleLine p) ↔
        SingleLine name := by
      simp [hcount, test.singleLine_text]
    rw [text, column, ← hparts]
    rcases eq_or_ne count 1 with rfl | hone
    · simp
    · rw [alternatives_of_length_ne_one (by simpa using hone)]
      simp [singleLine_joined]

/-- The condition of a filter is a single line if the name of its field is. -/
lemma singleLine_text_of_condition? {column : Text} {f : Filter} {c : Condition}
    (h : condition? column f = some c) : SingleLine c.text ↔ SingleLine column := by
  have hplaceholders : c.placeholders ≠ 0 := by
    rw [placeholders_of_condition? h, Ne, List.length_eq_zero_iff]
    exact boundTexts_ne_nil_of_condition? h
  rw [Condition.singleLine_text hplaceholders, column_of_condition? h]

lemma singleLine_whereText {m : Filters} :
    SingleLine (whereText m) ↔ ∀ e ∈ m.entries, boundTexts e.2 ≠ [] → SingleLine e.1 := by
  rw [whereText, singleLine_joined (by decide), List.forall_mem_map, conditions]
  simp only [List.mem_filterMap]
  constructor
  · intro h e he hbound
    obtain ⟨c, hc⟩ := Option.ne_none_iff_exists'.1 (mt condition?_eq_none_iff.1 hbound)
    exact (singleLine_text_of_condition? hc).1 (h c ⟨e, he, hc⟩)
  · rintro h c ⟨e, he, hc⟩
    rw [singleLine_text_of_condition? hc]
    exact h e he (boundTexts_ne_nil_of_condition? hc)

lemma singleLine_orderText {m : Sorting} :
    SingleLine (orderText m) ↔ ∀ e ∈ m.entries, blank e.1 = false → SingleLine e.1 := by
  have hkeyword (d : Direction) : SingleLine (keyword d) := by cases d <;> decide
  rw [orderText, singleLine_joined (by decide), List.forall_mem_map]
  simp [hkeyword]

lemma forall_singleLine_clause {start t : Text} (h : SingleLine start) :
    (∀ p ∈ clause start t, SingleLine p) ↔ SingleLine t := by
  rw [clause]
  split
  · next hnil => simp [List.isEmpty_iff.1 hnil]
  · simp [h]

/-- **The SQL of a request** is a single line if the names are that stand in it. -/
lemma singleLine_text {r : Request} :
    SingleLine (text r) ↔
      (∀ e ∈ r.filters.entries, boundTexts e.2 ≠ [] → SingleLine e.1) ∧
        ∀ e ∈ r.sorting.entries, blank e.1 = false → SingleLine e.1 := by
  have hpage : SingleLine pageText := by decide
  rw [text, singleLine_joined (by decide), List.forall_mem_append, List.forall_mem_append,
    forall_singleLine_clause (by decide), forall_singleLine_clause (by decide),
    singleLine_whereText, singleLine_orderText, List.forall_mem_singleton]
  simp only [hpage, and_true]

end Sql

/-! ### The plain form -/

namespace Request

/-- **The plain form of a request** is a single line if the names of its filters are. -/
lemma singleLine_text {r : Request} :
    SingleLine r.text ↔ ∀ e ∈ r.filters.entries, e.2.values ≠ [] → SingleLine e.1 := by
  have hfilter (f : Filter) : SingleLine f.text := f.written_text.solid.singleLine
  have horder : ∀ p ∈ orderTokens r.sorting, SingleLine p := by
    rw [orderTokens_eq, itemsTokens]
    split
    · simp
    · simp [(Sorting.written_itemsText _).solid.singleLine]
  have hpage (key : PageKey) (n : ℕ) : SingleLine (pageToken key n) := by
    have hword : SingleLine key.word := by cases key <;> decide
    simp [pageToken, hword, Numeral.singleLine_ofNat]
  rw [text, singleLine_joined (by decide), tokens, List.forall_mem_append, List.forall_mem_append,
    Filters.tokens, List.forall_mem_map, and_iff_left horder]
  simp [hfilter, hpage]

/-! ### Names of filters and the query string -/

lemma singleLine_queryText {search : Text} (h : SingleLine search) :
    SingleLine (queryText search) := by
  have htrim := singleLine_trim h
  rw [queryText]
  apply singleLine_trim
  split
  · exact htrim.of_subset (List.tail_subset _)
  · exact htrim

/-- The field of which a token demands something is named in it. -/
lemma singleLine_of_ofToken? {t key : Text} {d : Demand} (h : Demand.ofToken? t = some (key, d))
    (ht : SingleLine t) : SingleLine key := by
  rw [Demand.ofToken?] at h
  split at h
  · next name rest hparts =>
    rw [Option.ite_none_left_eq_some, Option.map_eq_some_iff] at h
    obtain ⟨-, _, -, heq⟩ := h
    obtain ⟨rfl, -⟩ := Prod.mk.inj heq
    have hname : name ∈ (t.splitOn '=').map trim := by simp [hparts]
    obtain ⟨part, hpart, rfl⟩ := List.mem_map.1 hname
    exact singleLine_trim (ht.of_mem_splitOn (by decide) hpart)
  · cases h

/-- The names of filters are not unescaped, so there is no line break in them that is not in the
query string. -/
lemma singleLine_of_mem_filters {search : Text} {r : Request}
    (hread : (read search).outcome = .ok r) (h : SingleLine search) {name : Text}
    (hname : name ∈ r.filters.names) : SingleLine name := by
  rw [filters_eq_changed hread, Fields.names_changed, List.mem_eraseDups, List.mem_map] at hname
  obtain ⟨⟨name, d⟩, hdemand, rfl⟩ := hname
  obtain ⟨t, ht, htoken⟩ := List.mem_filterMap.1 hdemand
  exact singleLine_of_ofToken? htoken ((singleLine_queryText h).of_mem_splitOn (by decide) ht)

end Request

/-! ### The three lines -/

namespace Command

lemma describe_eq_ok_iff {r : Request} {lines : List Text} :
    describe r = .ok lines ↔ ∃ fragment, Sql.compile r = .ok fragment ∧
      ["http: " ++ r.text, "sql: " ++ fragment.text,
        "values: " ++ joined ", " (fragment.values.map Sql.Value.shown)] = lines := by
  rw [describe]
  cases Sql.compile r <;> simp [Except.map]

/-- **The lines about a request** that was read, cut down to a page or not.  The values are always a
single line; the plain form is one if the names of filters are, and so if the query string is; the
SQL is one if the names are that stand in it.  So all three are single lines exactly if the request
names no field with a line break, blank sort fields apart. -/
theorem describe_singleLine_iff {search : Text} {asked r : Request} {lines : List Text}
    (hread : (Request.read search).outcome = .ok asked)
    (hr : r = asked ∨ ∃ cap, asked.clamp cap = .ok r) (h : describe r = .ok lines) :
    ∃ http sql values, lines = [http, sql, values] ∧
      SingleLine values ∧
      (SingleLine http ↔ ∀ e ∈ asked.filters.entries, SingleLine e.1) ∧
      (SingleLine search → SingleLine http) ∧
      (SingleLine sql ↔
        (∀ e ∈ asked.filters.entries, Sql.boundTexts e.2 ≠ [] → SingleLine e.1) ∧
          ∀ e ∈ asked.sorting.entries, blank e.1 = false → SingleLine e.1) ∧
      ((∀ line ∈ lines, SingleLine line) ↔
        ∀ name ∈ asked.fieldNames, blank name = false → SingleLine name) := by
  have hreadable := Request.readable_of_read hread
  obtain ⟨hfilters, hsorting⟩ : r.filters = asked.filters ∧ r.sorting = asked.sorting := by
    rcases hr with rfl | ⟨cap, hclamp⟩
    · exact ⟨rfl, rfl⟩
    · exact Store.filters_and_sorting_of_clamp hclamp
  obtain ⟨fragment, hcompile, rfl⟩ := describe_eq_ok_iff.1 h
  have hhttp : SingleLine ("http: " ++ r.text) ↔ ∀ e ∈ asked.filters.entries, SingleLine e.1 := by
    rw [singleLine_append, Request.singleLine_text, hfilters, and_iff_right (by decide)]
    exact forall₂_congr fun e he => forall_prop_of_true (hreadable.valued e he)
  have hsql : SingleLine ("sql: " ++ fragment.text) ↔
      (∀ e ∈ asked.filters.entries, Sql.boundTexts e.2 ≠ [] → SingleLine e.1) ∧
        ∀ e ∈ asked.sorting.entries, blank e.1 = false → SingleLine e.1 := by
    rw [singleLine_append, (Sql.compile_eq_ok_iff.1 hcompile).1, Sql.singleLine_text, hfilters,
      hsorting]
    exact and_iff_right (by decide)
  have hvalues : SingleLine ("values: " ++ joined ", " (fragment.values.map Sql.Value.shown)) := by
    rw [singleLine_append, singleLine_joined (by decide), List.forall_mem_map]
    exact ⟨by decide, fun v _ => v.singleLine_shown⟩
  refine ⟨_, _, _, rfl, hvalues, hhttp, ?_, hsql, ?_⟩
  · intro hsearch
    rw [hhttp]
    exact fun e he => Request.singleLine_of_mem_filters hread hsearch (List.mem_map_of_mem he)
  · rw [List.forall_mem_cons, List.forall_mem_cons, List.forall_mem_singleton,
      Sql.forall_fieldNames (P := fun name => blank name = false → SingleLine name), hhttp, hsql]
    constructor
    · rintro ⟨hnames, ⟨-, hsort⟩, -⟩
      exact ⟨fun e he _ => hnames e he, hsort⟩
    · rintro ⟨hnames, hsort⟩
      -- the name of a filter is never blank
      have hnames : ∀ e ∈ asked.filters.entries, SingleLine e.1 := fun e he =>
        hnames e he (hreadable.isKey e he).blank_eq_false
      exact ⟨hnames, ⟨fun e he _ => hnames e he, hsort⟩, hvalues⟩

/-- Line breaks in a value and in a blank sort field, and a filter that makes no condition. -/
theorem describe_singleLine_iff_clamped :
    ∃ asked r lines,
      (Request.read "a=equals:1,x%0Ay&b=between:7&order=%0A:asc,c:desc").outcome = .ok asked ∧
      asked.clamp 10 = .ok r ∧ describe r = .ok lines ∧ ∀ line ∈ lines, SingleLine line := by
  have hread : (Request.read "a=equals:1,x%0Ay&b=between:7&order=%0A:asc,c:desc").outcome =
      .ok { filters := ⟨[("a", ⟨.equals, ["1", "x\ny"]⟩), ("b", ⟨.between, ["7"]⟩)]⟩
            sorting := ⟨[("\n", .ascending), ("c", .descending)]⟩ } := by
    decide
  obtain ⟨_, _, _, -, -, -, -, -, hall⟩ := describe_singleLine_iff hread (Or.inr ⟨10, rfl⟩) rfl
  exact ⟨_, _, _, hread, rfl, rfl, hall.2 (by decide)⟩

/-- The name of a sort field, spelled without a line break, that forges a line of its own in the
output. -/
theorem describe_forges_line :
    ∃ asked lines, (Request.read "order=x%0Atotal%3A%207%0Ay:asc").outcome = .ok asked ∧
      describe asked = .ok lines ∧
      lines = ["http: order=x%0Atotal%3A%207%0Ay:asc&limit=50&offset=0",
        "sql: ORDER BY x\ntotal: 7\ny ASC LIMIT ? OFFSET ?",
        "values: Integer(50), Integer(0)"] ∧
      ("total: 7" : Text) ∈ (joined "\n" lines).splitOn '\n' ∧
      ¬∀ line ∈ lines, SingleLine line := by
  refine ⟨⟨⟨[]⟩, ⟨[("x\ntotal: 7\ny", .ascending)]⟩, 50, 0⟩, _, ?_, rfl, ?_, ?_, ?_⟩
  · decide
  · decide
  · decide
  · decide

end Command

end Listing
