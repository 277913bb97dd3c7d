import Mathlib
import Listing.Proofs.Request.Grammar
import Listing.Proofs.Request.Spelling

/-!
# Requests read back from their query strings

The text of a request is cut into the tokens that it was joined from, each token is read as what
it was written for, and the tokens, applied in turn, make the request again.  What is not written
is lost: filters without values and sort fields with a blank name.  Names of fields with a filter
are written as they are, so they have to be free of the two separators of tokens and may not be
changed by trimming; and the text may not start with a question mark, which is no part of a query
string.
-/

namespace Listing

open Text

namespace Request

/-- A field name that stands for itself in front of the equals sign of a token. -/
structure IsKey (name : Text) : Prop where
  ne_nil : name ≠ []
  trim_eq : trim name = name
  no_ampersand : '&' ∉ name
  no_equals : '=' ∉ name

/-- The part of a request that its query string holds: the filters with values and the sort fields
with a name that is not blank, and the page. -/
def written (r : Request) : Request where
  filters := ⟨r.filters.entries.filter fun e => !e.2.values.isEmpty⟩
  sorting := ⟨r.sorting.named⟩
  limit := r.limit
  offset := r.offset

instance : DecidablePred IsKey := fun name =>
  decidable_of_iff (name ≠ [] ∧ trim name = name ∧ '&' ∉ name ∧ '=' ∉ name)
    ⟨fun h => ⟨h.1, h.2.1, h.2.2.1, h.2.2.2⟩,
      fun h => ⟨h.ne_nil, h.trim_eq, h.no_ampersand, h.no_equals⟩⟩

lemma IsKey.trimmed {name : Text} (h : IsKey name) : Trimmed name :=
  trim_eq_self_iff.1 h.trim_eq

lemma IsKey.blank_eq_false {name : Text} (h : IsKey name) : blank name = false := by
  rw [Bool.eq_false_iff]
  exact fun hb => h.ne_nil (h.trimmed.blank_iff.1 hb)

end Request

/-! ### Single tokens -/

namespace Token

open Request

/-- A key and a written value are read as this pair. -/
lemma read_pair {key value : Text} (hkey : IsKey key) (hvalue : Written value)
    (hne : value ≠ []) : read (key ++ '=' :: value) = readPair key value :=
  read_of_isPair ⟨key, value, ⟨rfl, hkey.no_equals, hvalue.not_mem_equals⟩, hkey.blank_eq_false,
    hvalue.solid.blank_eq_false hne, hkey.trim_eq, hvalue.solid.trimmed.trim_eq⟩

lemma read_filter {name : Text} {f : Filter} (hkey : IsKey name) (hname : name ∉ Filters.reserved)
    (hne : f.values ≠ []) (hsolid : ∀ v ∈ f.values, blank v = false) :
    read (name ++ '=' :: f.text) = .ok (.filter name f) := by
  rw [read_pair hkey f.written_text f.text_ne_nil, readPair_field hname,
    readField_of_colon f.colon_mem_text, Filter.read_text hne hsolid]
  simp [hne]

lemma isKey_order : IsKey "order" := by
  decide

lemma isKey_page (key : PageKey) : IsKey key.word := by
  cases key <;> decide

lemma read_order {entries : List (Text × Direction)} (hne : entries ≠ []) :
    read ("order=" ++ Sorting.itemsText entries) = .ok (.order (Sorting.itemsText entries)) := by
  have htext : Sorting.itemsText entries ≠ [] := fun h => hne (Sorting.itemsText_eq_nil_iff.1 h)
  have hpair := read_pair isKey_order (Sorting.written_itemsText entries) htext
  rw [readPair_order, if_pos (Sorting.colon_mem_itemsText hne)] at hpair
  exact hpair

lemma read_page (key : PageKey) {n : Nat} (hn : n ≤ maxPage) :
    read (pageToken key n) = .ok (.page key (Numeral.ofNat n)) := by
  have hlength : (Numeral.ofNat n).length ≤ 4300 := Numeral.length_ofNat_le hn
  rw [pageToken, read_pair (isKey_page key) (Numeral.written_ofNat n) (Numeral.ofNat_ne_nil n),
    readPair_page, readPage_eq_ok]
  rintro ⟨-, h⟩
  omega

end Token

/-! ### Runs of tokens -/

namespace Request

/-- One token that is of use: it is applied, and nothing is noted. -/
lemma readTokens_cons {r : Request} {t : Text} {token : Token} (h : Token.read t = .ok token)
    (hnote : r.note? token = none) (rest : List Text) :
    readTokens r (t :: rest) = readTokens (r.apply token) rest := by
  rw [readTokens, h]
  simp only [hnote, Option.toList_none, List.nil_append]

/-- The tokens of filters write these filters one after the other. -/
lemma readTokens_filters {entries : List (Text × Filter)}
    (h : ∀ e ∈ entries, Token.read (e.1 ++ '=' :: e.2.text) = .ok (.filter e.1 e.2))
    (r : Request) (rest : List Text) :
    readTokens r ((entries.map fun e => e.1 ++ '=' :: e.2.text) ++ rest)
      = readTokens { r with filters := entries.foldl (fun m e => m.set e.1 e.2) r.filters }
          rest := by
  induction entries generalizing r with
  | nil => rfl
  | cons e entries ih =>
    rw [List.map_cons, List.cons_append, readTokens_cons (h e (by simp)) rfl,
      ih fun e' he' => h e' (List.mem_cons_of_mem _ he')]
    rfl

/-- The token of an order, blank names among its entries; without entries there is none. -/
def itemsTokens (entries : List (Text × Direction)) : List Text :=
  if entries.isEmpty then [] else ["order=" ++ Sorting.itemsText entries]

lemma orderTokens_eq (m : Sorting) : orderTokens m = itemsTokens m.named := by
  have hiff : (Sorting.text m).isEmpty = m.named.isEmpty := by
    rw [Bool.eq_iff_iff, List.isEmpty_iff, List.isEmpty_iff, Sorting.text_eq,
      Sorting.itemsText_eq_nil_iff]
  rw [orderTokens, hiff]
  rfl

/-- The token of an order sets that order. -/
lemma readTokens_items {entries : List (Text × Direction)}
    (hnodup : (entries.map Prod.fst).Nodup) (hnames : ∀ e ∈ entries, e.1 ≠ []) {r : Request}
    (hr : r.sorting = {}) (rest : List Text) :
    readTokens r (itemsTokens entries ++ rest)
      = readTokens { r with sorting := ⟨entries⟩ } rest := by
  by_cases hne : entries = []
  · rw [hne, ← hr]
    rfl
  · have hread := Sorting.read_itemsText hne hnodup hnames
    rw [itemsTokens, if_neg (by simpa using hne), List.cons_append, List.nil_append,
      readTokens_cons (Token.read_order hne) (by simp only [note?, hread])]
    simp only [apply, hread]

lemma readTokens_order {m : Sorting} (hnodup : m.names.Nodup) {r : Request}
    (hr : r.sorting = {}) (rest : List Text) :
    readTokens r (orderTokens m ++ rest)
      = readTokens { r with sorting := ⟨m.named⟩ } rest := by
  rw [orderTokens_eq]
  exact readTokens_items (Sorting.nodup_named hnodup)
    (fun e he => Sorting.ne_nil_of_mem_named he) hr rest

lemma readTokens_page {r : Request} {limit offset : Nat} (hlimit : limit ≤ maxPage)
    (hoffset : offset ≤ maxPage) :
    readTokens r [pageToken .limit limit, pageToken .offset offset]
      = ⟨[], .ok { r with limit := limit, offset := offset }⟩ := by
  have hnote {r : Request} {key : PageKey} {n : Nat} (hn : n ≤ maxPage) :
      r.note? (.page key (Numeral.ofNat n)) = none := by
    simp only [note?, Token.pageNumber?_ofNat hn, Option.isSome_some, if_true]
  rw [readTokens_cons (Token.read_page .limit hlimit) (hnote hlimit),
    readTokens_cons (Token.read_page .offset hoffset) (hnote hoffset)]
  simp only [readTokens, apply, Token.pageNumber?_ofNat hlimit, Token.pageNumber?_ofNat hoffset,
    Option.getD_some, setPage]

/-! ### The text of a request -/

lemma head?_pageToken_limit (n : ℕ) : (pageToken .limit n).head? = some 'l' := rfl

/-- Trimmed tokens without an ampersand are the cuts of the query string that they are joined to,
unless that starts with a question mark. -/
lemma splitTokens_joined {t : Text} {rest : List Text}
    (htrimmed : ∀ p ∈ t :: rest, Trimmed p ∧ p ≠ [])
    (hamp : ∀ p ∈ t :: rest, '&' ∉ p) (hmark : t.head? ≠ some '?') :
    splitTokens (joined "&" (t :: rest)) = t :: rest := by
  have htrim : trim (joined "&" (t :: rest)) = joined "&" (t :: rest) :=
    (trimmed_joined htrimmed).trim_eq
  have hcut : (joined "&" (t :: rest)).splitOn '&' = t :: rest :=
    splitOn_joined (by simp) hamp
  have hhead : (joined "&" (t :: rest)).head? = t.head? := by
    obtain ⟨c, cs, rfl⟩ := List.exists_cons_of_ne_nil (htrimmed t (by simp)).2
    rcases eq_or_ne rest [] with rfl | hne
    · simp
    · rw [joined_cons hne]
      simp
  rw [splitTokens_eq, queryText, htrim, hhead, if_neg hmark, htrim, hcut]

/-- What is needed of a token to be cut out of a query string. -/
lemma token_cut {key value : Text} (hkey : IsKey key) (hvalue : Written value) (hne : value ≠ []) :
    (Trimmed (key ++ '=' :: value) ∧ key ++ '=' :: value ≠ []) ∧ '&' ∉ key ++ '=' :: value := by
  refine ⟨⟨?_, by simp⟩, ?_⟩
  · rw [List.append_cons]
    exact hkey.trimmed.append hvalue.solid.trimmed hkey.ne_nil hne ['=']
  · rw [List.mem_append, List.mem_cons]
    rintro (h | h | h)
    · exact hkey.no_ampersand h
    · exact absurd h (by decide)
    · exact hvalue.not_mem_ampersand h

/-- The tokens of filters, of an order with its blank names, and of the page: all that a request
asks for. -/
def fullTokens (r : Request) : List Text :=
  (r.filters.entries.map fun e => e.1 ++ '=' :: e.2.text) ++ itemsTokens r.sorting.entries ++
    [pageToken .limit r.limit, pageToken .offset r.offset]

lemma tokens_eq (r : Request) : r.tokens = r.written.fullTokens := by
  rw [tokens, orderTokens_eq]
  rfl

lemma cut_of_mem_fullTokens {r : Request} (hkeys : ∀ e ∈ r.filters.entries, IsKey e.1) {p : Text}
    (hp : p ∈ r.fullTokens) : (Trimmed p ∧ p ≠ []) ∧ '&' ∉ p := by
  rw [fullTokens, List.mem_append, List.mem_append] at hp
  rcases hp with (hp | hp) | hp
  · obtain ⟨e, he, rfl⟩ := List.mem_map.1 hp
    exact token_cut (hkeys e he) e.2.written_text e.2.text_ne_nil
  · rw [itemsTokens] at hp
    split at hp
    · cases hp
    · next hne =>
      rw [List.mem_singleton] at hp
      subst hp
      refine token_cut Token.isKey_order (Sorting.written_itemsText _) fun hnil => hne ?_
      exact List.isEmpty_iff.2 (Sorting.itemsText_eq_nil_iff.1 hnil)
  · have hpage (key : PageKey) (n : Nat) :=
      token_cut (Token.isKey_page key) (Numeral.written_ofNat n) (Numeral.ofNat_ne_nil n)
    simp only [List.mem_cons, List.not_mem_nil, or_false] at hp
    rcases hp with rfl | rfl
    · exact hpage .limit r.limit
    · exact hpage .offset r.offset

/-- The first token is that of the first filter, or starts with a letter. -/
lemma head?_fullTokens {r : Request} (hkeys : ∀ e ∈ r.filters.entries, IsKey e.1)
    (hmark : ∀ e ∈ r.filters.entries.head?, e.1.head? ≠ some '?') :
    ∀ t ∈ r.fullTokens.head?, t.head? ≠ some '?' := by
  intro t ht
  rw [fullTokens] at ht
  cases hentries : r.filters.entries with
  | cons e entries =>
    have he := hkeys e (by simp [hentries])
    obtain ⟨c, cs, hc⟩ := List.exists_cons_of_ne_nil he.ne_nil
    have hne := hmark e (by simp [hentries])
    simp only [hentries, List.map_cons, List.cons_append, List.head?_cons, Option.mem_def,
      Option.some.injEq] at ht
    rw [← ht]
    simpa [hc] using hne
  | nil =>
    rw [hentries, itemsTokens] at ht
    split at ht
    · simp only [List.map_nil, List.nil_append, List.head?_cons, Option.mem_def,
        Option.some.injEq] at ht
      rw [← ht, head?_pageToken_limit]
      decide
    · simp only [List.map_nil, List.nil_append, List.cons_append, List.head?_cons, Option.mem_def,
        Option.some.injEq] at ht
      rw [← ht]
      simp

lemma splitTokens_fullTokens {r : Request} (hkeys : ∀ e ∈ r.filters.entries, IsKey e.1)
    (hmark : ∀ e ∈ r.filters.entries.head?, e.1.head? ≠ some '?') :
    splitTokens (joined "&" r.fullTokens) = r.fullTokens := by
  have hcut := fun p hp => cut_of_mem_fullTokens hkeys (p := p) hp
  have hfirst := head?_fullTokens hkeys hmark
  obtain ⟨t, rest, htokens⟩ : ∃ t rest, r.fullTokens = t :: rest :=
    List.exists_cons_of_ne_nil (by simp [fullTokens])
  rw [htokens] at hcut hfirst ⊢
  exact splitTokens_joined (fun p hp => (hcut p hp).1) (fun p hp => (hcut p hp).2) (hfirst t rfl)

lemma splitTokens_text {r : Request} (hkeys : ∀ e ∈ r.written.filters.entries, IsKey e.1)
    (hmark : ∀ e ∈ r.written.filters.entries.head?, e.1.head? ≠ some '?') :
    splitTokens r.text = r.tokens := by
  rw [text, tokens_eq]
  exact splitTokens_fullTokens hkeys hmark

/-- **A request is read back from its query string**, without notes and up to what is not written:
filters without values and sort fields with a blank name. -/
theorem read_text_eq_written {r : Request} (hr : r.Built)
    (hkeys : ∀ e ∈ r.written.filters.entries, IsKey e.1)
    (hmark : ∀ e ∈ r.written.filters.entries.head?, e.1.head? ≠ some '?') :
    read r.text = ⟨[], .ok r.written⟩ := by
  have hwf := built_iff.1 hr
  have hnames : (r.written.filters.entries.map Prod.fst).Nodup :=
    hwf.filters.nodup.sublist (List.Sublist.map _ List.filter_sublist)
  have hread : ∀ e ∈ r.written.filters.entries,
      Token.read (e.1 ++ '=' :: e.2.text) = .ok (.filter e.1 e.2) := by
    intro e he
    obtain ⟨hmem, hvalues⟩ := List.mem_filter.1 he
    exact Token.read_filter (hkeys e he) (hwf.filters.unreserved e hmem)
      (by simpa using hvalues) (hwf.filters.solid e hmem)
  have htokens : r.tokens = (r.written.filters.entries.map fun e => e.1 ++ '=' :: e.2.text) ++
      (orderTokens r.sorting ++ [pageToken .limit r.limit, pageToken .offset r.offset]) := by
    rw [tokens, List.append_assoc]
    rfl
  rw [read, splitTokens_text hkeys hmark, htokens, readTokens_filters hread,
    readTokens_order hwf.nodup rfl, readTokens_page hwf.limit_le hwf.offset_le]
  have hfold := Fields.ofList_of_nodup hnames
  rw [Fields.ofList] at hfold
  exact congrArg (fun m : Filters => Reading.mk [] (.ok { r.written with filters := m })) hfold

/-- Separators, blanks and a sign of another script in the values, a question mark within a name, a
filter without values and a blank sort field. -/
theorem read_text_eq_written_mixed :
    read (text
      { filters := ⟨[("a?b", ⟨.contains, ["x&y=1", "50%,:+?"]⟩), ("unused", ⟨.equals, []⟩),
          ("c", ⟨.between, ["é ", "null"]⟩)]⟩
        sorting := ⟨[(" ", .ascending), (" d,", .descending)]⟩
        limit := 20 }) =
      ⟨[], .ok
        { filters := ⟨[("a?b", ⟨.contains, ["x&y=1", "50%,:+?"]⟩),
            ("c", ⟨.between, ["é ", "null"]⟩)]⟩
          sorting := ⟨[(" d,", .descending)]⟩
          limit := 20 }⟩ :=
  read_text_eq_written
    (built_iff.2 ⟨⟨by decide, by decide, by decide⟩, by decide, by decide, by decide⟩)
    (by decide) (by decide)

end Request

end Listing
