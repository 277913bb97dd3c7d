import Mathlib
import Listing.Proofs.Request.Asking
import Listing.Proofs.Request.RoundTrip

/-!
# The requests that can be read

`Readable` is what all requests have in common that come out of the reader of query strings: the
name of a field with a filter can be a key, its filter holds values, and none of them is blank; a
sort field has a name, be it a blank one; no name occurs twice; and the page is in range.  Each
token keeps this, whatever it asks for, so every reading does.

Nothing else is in common.  For every request of this form `search` is a query string that asks
for it.  It is not the text of the request: it starts with a question mark, which the reader takes
off, so that a first key may start with a question mark of its own, and its order holds the blank
names that the text leaves out.
-/

namespace Listing

open Text

/-- What a request is made of that is read from a query string. -/
structure Request.Readable (r : Request) : Prop where
  wellFormed : r.WellFormed
  isKey : ∀ e ∈ r.filters.entries, IsKey e.1
  valued : ∀ e ∈ r.filters.entries, e.2.values ≠ []
  named : ∀ e ∈ r.sorting.entries, e.1 ≠ []

/-! ### What is read of a key, a filter and an order -/

/-- The key of a token that was cut out of a query string. -/
lemma Token.IsPair.isKey {t key value : Text} (h : IsPair t key value) (hamp : '&' ∉ t) :
    Request.IsKey key := by
  obtain ⟨k, v, hcut, hk, -, rfl, -⟩ := h
  refine ⟨?_, trim_trim k, ?_, ?_⟩
  · intro hnil
    rw [trim_eq_nil_iff.1 hnil] at hk
    cases hk
  · rw [mem_trim (by decide)]
    intro hmem
    exact hamp (by simp [hcut.eq, hmem])
  · rw [mem_trim (by decide)]
    exact hcut.before

lemma Filter.blank_of_mem_of {c : Comparison} {values : List Text} {v : Text}
    (h : v ∈ (Filter.of c values).values) : blank v = false := by
  simpa using (List.mem_filter.1 h).2

lemma Filter.solid_of_read {t : Text} {f : Filter} (h : read t = .ok f) :
    ∀ v ∈ f.values, blank v = false := by
  rw [read] at h
  split at h
  · next word values hparts =>
    split at h
    · cases h
    · cases hc : Comparison.read (trim word) with
      | error cause => simp [hc, Except.map] at h
      | ok c =>
        simp only [hc, Except.map, Except.ok.injEq] at h
        exact h ▸ fun v hv => blank_of_mem_of hv
  · cases h

/-- The name of an item is not empty, since only the empty text spells the empty name. -/
lemma Sorting.fst_ne_nil_of_readItem {item : Text} {e : Text × Direction}
    (h : readItem item = .ok e) : e.1 ≠ [] := by
  rw [readItem] at h
  split at h
  · next name word hparts =>
    split at h
    · cases h
    · next hne =>
      cases hd : Direction.read word with
      | error cause => simp [hd, Except.map] at h
      | ok d =>
        simp only [hd, Except.map, Except.ok.injEq] at h
        subst h
        intro hnil
        rw [Percent.decode_eq_nil_iff] at hnil
        exact hne (by simp [hnil])
  · cases h

lemma Sorting.nodup_and_named_of_read {t : Text} {m : Sorting} (h : read t = .ok m) :
    m.names.Nodup ∧ ∀ e ∈ m.entries, e.1 ≠ [] := by
  rw [read] at h
  cases hitems : (items t).mapM readItem with
  | error cause => simp [hitems, Except.map] at h
  | ok pairs =>
    simp only [hitems, Except.map, Except.ok.injEq] at h
    subst h
    refine ⟨Fields.nodup_names_ofList pairs, fun e he => ?_⟩
    obtain ⟨item, -, hitem⟩ := exists_mem_of_mapM hitems (Fields.mem_ofList he)
    exact fst_ne_nil_of_readItem hitem

lemma Token.pageNumber?_le {t : Text} {n : Nat} (h : pageNumber? t = some n) : n ≤ maxPage := by
  rw [pageNumber?] at h
  split at h
  · next hcond =>
    rw [← Option.some.inj h]
    simpa using (Bool.and_eq_true_iff.1 hcond).2
  · cases h

/-! ### Reading keeps requests readable -/

namespace Request

lemma readable_empty : Readable {} where
  wellFormed := ⟨Filters.WellFormed.empty, List.nodup_nil, by decide, by decide⟩
  isKey := by simp
  valued := by simp
  named := by simp

namespace Readable

variable {r : Request}

lemma setFilter (h : r.Readable) {name : Text} (hkey : IsKey name)
    (hname : name ∉ Filters.reserved) {f : Filter} (hne : f.values ≠ [])
    (hsolid : ∀ v ∈ f.values, blank v = false) :
    Readable { r with filters := r.filters.set name f } where
  wellFormed :=
    ⟨h.wellFormed.filters.set hname hsolid, h.wellFormed.nodup, h.wellFormed.limit_le,
      h.wellFormed.offset_le⟩
  isKey e he := by
    rcases Fields.mem_set he with rfl | he
    · exact hkey
    · exact h.isKey e he
  valued e he := by
    rcases Fields.mem_set he with rfl | he
    · exact hne
    · exact h.valued e he
  named := h.named

lemma setSorting (h : r.Readable) {m : Sorting} (hnodup : m.names.Nodup)
    (hnamed : ∀ e ∈ m.entries, e.1 ≠ []) : Readable { r with sorting := m } :=
  ⟨⟨h.wellFormed.filters, hnodup, h.wellFormed.limit_le, h.wellFormed.offset_le⟩, h.isKey,
    h.valued, hnamed⟩

lemma setPage (h : r.Readable) (key : PageKey) {n : Nat} (hn : n ≤ maxPage) :
    Readable (r.setPage key n) := by
  obtain ⟨⟨hfilters, hnodup, hlimit, hoffset⟩, hkey, hvalued, hnamed⟩ := h
  cases key with
  | limit => exact ⟨⟨hfilters, hnodup, hn, hoffset⟩, hkey, hvalued, hnamed⟩
  | offset => exact ⟨⟨hfilters, hnodup, hlimit, hn⟩, hkey, hvalued, hnamed⟩

/-- A further value makes a filter of its own, joins the others, or changes nothing. -/
lemma addValue (h : r.Readable) {name value : Text} (hkey : IsKey name)
    (hname : name ∉ Filters.reserved) (hvalue : blank value = false) :
    Readable (r.addValue name value) := by
  have hmem (c : Comparison) (values : List Text) :
      (Filter.of c (values ++ [value])).values ≠ [] :=
    List.ne_nil_of_mem (a := value) (List.mem_filter.2 ⟨by simp, by simp [hvalue]⟩)
  rw [Request.addValue]
  split
  · exact h.setFilter hkey hname (hmem .equals []) fun v hv => Filter.blank_of_mem_of hv
  · next f hf =>
    split
    · exact h.setFilter hkey hname (hmem f.comparison f.values)
        fun v hv => Filter.blank_of_mem_of hv
    · exact h

/-- **One token.**  Whatever a token asks for, the request stays readable. -/
lemma apply (h : r.Readable) {t : Text} (hamp : '&' ∉ t) {token : Token}
    (htoken : Token.Asks t token) : (r.apply token).Readable := by
  cases htoken with
  | blank | noValue | noFilter | blankValue => exact h
  | @order value hpair hcolon =>
    rw [Request.apply]
    cases hread : Sorting.read value with
    | error cause => exact h
    | ok m =>
      obtain ⟨hnodup, hnamed⟩ := Sorting.nodup_and_named_of_read hread
      exact h.setSorting hnodup hnamed
  | @page value key hpair hdigits =>
    refine h.setPage key ?_
    cases hnumber : Token.pageNumber? value with
    | none => cases key <;> decide
    | some n => exact Token.pageNumber?_le hnumber
  | filter hpair hkey hcut hc hne =>
    exact h.setFilter (hpair.isKey hamp) hkey hne fun v hv => Filter.blank_of_mem_of hv
  | value hpair hkey hcolon hb => exact h.addValue (hpair.isKey hamp) hkey hb

/-- **A run of tokens.** -/
lemma readTokens {ts : List Text} (h : r.Readable) (hamp : ∀ t ∈ ts, '&' ∉ t) {r' : Request}
    (hr' : (readTokens r ts).outcome = .ok r') : r'.Readable := by
  induction ts generalizing r with
  | nil =>
    simp only [Request.readTokens, Except.ok.injEq] at hr'
    exact hr' ▸ h
  | cons t ts ih =>
    rw [List.forall_mem_cons] at hamp
    rw [Request.readTokens] at hr'
    cases hread : Token.read t with
    | error fault => simp [hread] at hr'
    | ok token =>
      simp only [hread] at hr'
      exact ih (h.apply hamp.1 (Token.read_eq_ok_iff_asks.1 hread)) hamp.2 hr'

end Readable

lemma ampersand_not_mem_of_mem_splitTokens {search t : Text} (h : t ∈ splitTokens search) :
    '&' ∉ t := by
  rw [splitTokens_eq] at h
  exact not_mem_of_mem_splitOn h

lemma readable_of_read {search : Text} {r : Request} (h : (read search).outcome = .ok r) :
    r.Readable :=
  readable_empty.readTokens (fun _ ht => ampersand_not_mem_of_mem_splitTokens ht) h

/-! ### A query string for every readable request -/

/-- A query string that asks for a request, after a question mark of its own. -/
def search (r : Request) : Text :=
  '?' :: joined "&" r.fullTokens

lemma splitTokens_search {r : Request} (hkeys : ∀ e ∈ r.filters.entries, IsKey e.1) :
    splitTokens r.search = r.fullTokens := by
  have hcut := fun p hp => cut_of_mem_fullTokens hkeys (p := p) hp
  have hne : r.fullTokens ≠ [] := by simp [fullTokens]
  have htrimmed : Trimmed (joined "&" r.fullTokens) := trimmed_joined fun p hp => (hcut p hp).1
  have hlast : joined "&" r.fullTokens ≠ [] := joined_ne_nil hne fun p hp => (hcut p hp).1.2
  have hmark : Solid ['?'] := by
    intro c hc
    rw [List.mem_singleton] at hc
    subst hc
    decide
  have hsearch : Trimmed r.search := hmark.trimmed.append htrimmed (by simp) hlast []
  have htext : queryText r.search = joined "&" r.fullTokens := by
    have hhead : r.search.head? = some '?' := rfl
    rw [queryText, hsearch.trim_eq, if_pos hhead]
    exact htrimmed.trim_eq
  rw [splitTokens_eq, htext]
  exact splitOn_joined hne fun p hp => (hcut p hp).2

/-- The tokens of a readable request, applied in turn, make it. -/
lemma readTokens_fullTokens {r : Request} (h : r.Readable) :
    readTokens {} r.fullTokens = ⟨[], .ok r⟩ := by
  have hwf := h.wellFormed
  have hfilters : ∀ e ∈ r.filters.entries,
      Token.read (e.1 ++ '=' :: e.2.text) = .ok (.filter e.1 e.2) := fun e he =>
    Token.read_filter (h.isKey e he) (hwf.filters.unreserved e he) (h.valued e he)
      (hwf.filters.solid e he)
  have hwritten : r.filters.entries.foldl (fun m e => m.set e.1 e.2) Fields.empty = r.filters :=
    Fields.ofList_of_nodup hwf.filters.nodup
  rw [fullTokens, List.append_assoc, readTokens_filters hfilters,
    readTokens_items hwf.nodup h.named rfl, readTokens_page hwf.limit_le hwf.offset_le]
  exact congrArg (fun m : Filters => Reading.mk [] (.ok { r with filters := m })) hwritten

lemma read_search {r : Request} (h : r.Readable) : read r.search = ⟨[], .ok r⟩ := by
  rw [read, splitTokens_search h.isKey, readTokens_fullTokens h]

/-- **The range of the reader.**  A request can be asked for by a query string exactly if it is
readable. -/
theorem exists_read_iff_readable (r : Request) :
    (∃ search, (read search).outcome = .ok r) ↔ r.Readable := by
  constructor
  · rintro ⟨search, h⟩
    exact readable_of_read h
  · intro h
    exact ⟨r.search, by rw [read_search h]⟩

end Request

end Listing
