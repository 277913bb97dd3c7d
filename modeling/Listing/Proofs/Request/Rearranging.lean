import Mathlib
import Listing.Proofs.Request.Range
import Listing.Proofs.Text.Cells

/-!
# Query strings in another order

The tokens of a query string are applied one after the other, and each writes what its key stands
for: the order, a number of the page, or the filter of one field.  What it writes depends on
nothing but what was there under the same key.  So a request can be taken apart by keys, and what
is asked for under a key is what the tokens with this key ask for by themselves.

It follows that the tokens of a query string can be put in any other order as long as those with one
key stay in theirs: the one query string can be read exactly if the other can, and the requests
differ in the order of their filters at most.  Only a question mark in front of a token would get
in the way, since it is taken off the first one.
-/

namespace Listing

open Text

/-- The key of a token: what stands before its first equals sign, trimmed. -/
def Token.key (t : Text) : Text :=
  trim (t.takeWhile fun c => c ≠ '=')

/-- The same tokens in another order, in which those with one key come one after the other as
before. -/
structure Rearranged (ts us : List Text) : Prop where
  perm : us.Perm ts
  order : ∀ t ∈ ts, us.filter (fun u => Token.key u = Token.key t) =
    ts.filter fun u => Token.key u = Token.key t

namespace Request

/-- What a request asks for under one key, and nothing else. -/
def only (r : Request) (key : Text) : Request where
  filters := r.filters.keep [key]
  sorting := if key = "order" then r.sorting else Fields.empty
  limit := if key = PageKey.limit.word then r.limit else PageKey.limit.default
  offset := if key = PageKey.offset.word then r.offset else PageKey.offset.default

/-- Requests that ask for the same, with filters that may be in another order. -/
structure Same (r r' : Request) : Prop where
  limit : r.limit = r'.limit
  offset : r.offset = r'.offset
  sorting : r.sorting = r'.sorting
  filter : ∀ name, r.filters.get? name = r'.filters.get? name
  entries : r.filters.entries.Perm r'.filters.entries

end Request

/-! ### Tokens but for the blanks around them -/

namespace Token

lemma key_of_cutAt {t key value : Text} (h : CutAt '=' t key value) : Token.key t = trim key := by
  have hbefore : ∀ c ∈ key, decide (c ≠ '=') = true := by
    intro c hc
    have : c ≠ '=' := fun heq => h.before (heq ▸ hc)
    simpa using this
  rw [Token.key, h.eq, List.takeWhile_append_of_pos hbefore, List.takeWhile_cons_of_neg (by simp),
    List.append_nil]

lemma IsPair.key_eq {t key value : Text} (h : IsPair t key value) : Token.key t = key := by
  obtain ⟨k, v, hcut, -, -, rfl, -⟩ := h
  exact key_of_cutAt hcut

/-- A cut at the equals sign is a cut, too, where there are other blanks around the text. -/
lemma exists_cutAt_of_trim_eq {t u key value : Text} (h : trim t = trim u)
    (hcut : CutAt '=' t key value) :
    ∃ k v, CutAt '=' u k v ∧ trim k = trim key ∧ trim v = trim value :=
  hcut.of_parts_eq (parts_eq_of_trim_eq (by decide) h)

lemma IsPair.of_trim_eq {t u key value : Text} (h : trim t = trim u) (hpair : IsPair t key value) :
    IsPair u key value := by
  obtain ⟨k, v, hcut, hk, hv, rfl, rfl⟩ := hpair
  obtain ⟨k', v', hcut', hk', hv'⟩ := exists_cutAt_of_trim_eq h hcut
  refine ⟨k', v', hcut', ?_, ?_, hk', hv'⟩
  · rw [blank_eq_of_trim_eq hk', hk]
  · rw [blank_eq_of_trim_eq hv', hv]

/-- The blanks around a token do not matter for what is read of it. -/
lemma read_of_trim_eq {t u : Text} (h : trim t = trim u) {token : Token}
    (hread : read t = .ok token) : read u = .ok token := by
  rw [read_eq_ok_iff_asks] at hread ⊢
  cases hread with
  | blank hb =>
    rw [blank_eq_of_trim_eq h] at hb
    exact .blank hb
  | noValue hcut hkey hvalue =>
    obtain ⟨k, v, hcut', hk, hv⟩ := exists_cutAt_of_trim_eq h hcut
    rw [← blank_eq_of_trim_eq hk] at hkey
    rw [← blank_eq_of_trim_eq hv] at hvalue
    exact .noValue hcut' hkey hvalue
  | order hpair hcolon => exact .order (hpair.of_trim_eq h) hcolon
  | page hpair hdigits => exact .page (hpair.of_trim_eq h) hdigits
  | filter hpair hkey hcut hc hne => exact .filter (hpair.of_trim_eq h) hkey hcut hc hne
  | noFilter hpair hkey hcut hc hnil => exact .noFilter (hpair.of_trim_eq h) hkey hcut hc hnil
  | value hpair hkey hcolon hb => exact .value (hpair.of_trim_eq h) hkey hcolon hb
  | blankValue hpair hkey hcolon hb => exact .blankValue (hpair.of_trim_eq h) hkey hcolon hb

end Token

namespace Request

lemma readTokens_of_map_trim_eq {ts us : List Text} (h : ts.map trim = us.map trim)
    {r r' : Request} (hr' : (readTokens r ts).outcome = .ok r') :
    (readTokens r us).outcome = .ok r' := by
  induction ts generalizing r us with
  | nil =>
    rw [List.map_nil, eq_comm, List.map_eq_nil_iff] at h
    rwa [h]
  | cons t ts ih =>
    obtain ⟨u, us, rfl, hu, hus⟩ := List.map_eq_cons_iff.1 (h.symm.trans (List.map_cons ..))
    rw [readTokens] at hr'
    cases hread : Token.read t with
    | error fault => simp [hread] at hr'
    | ok token =>
      simp only [hread] at hr'
      rw [readTokens, Token.read_of_trim_eq hu.symm hread]
      exact ih hus.symm hr'

/-- No question mark is taken off a query string if its first token does not start with one. -/
lemma head?_trim_joined {ts : List Text} (hamp : ∀ t ∈ ts, '&' ∉ t)
    (hmark : ∀ t ∈ ts, (trim t).head? ≠ some '?') :
    (trim (joined "&" ts)).head? ≠ some '?' := by
  intro hhead
  cases ts with
  | nil => cases hhead
  | cons t ts =>
    have hparts := map_trim_splitOn_trim (c := '&') (by decide) (joined "&" (t :: ts))
    obtain ⟨rest, hrest⟩ := List.head?_eq_some_iff.1 hhead
    obtain ⟨p, ps, hps⟩ := List.exists_cons_of_ne_nil (List.splitOn_ne_nil '&' rest)
    have hjoined : (joined "&" (t :: ts)).splitOn '&' = t :: ts := splitOn_joined (by simp) hamp
    rw [hjoined, hrest, List.splitOn_cons_eq_if_modifyHead, if_neg (by decide), hps,
      List.modifyHead_cons, List.map_cons, List.map_cons] at hparts
    -- the first part of the trimmed text starts with the mark, and it is the first token but for
    -- blanks around it
    apply hmark t (by simp)
    rw [← (List.cons.inj hparts).1]
    exact head?_trim_cons (by decide) p

/-- Joined tokens are read as they would be one by one. -/
lemma read_joined_eq_ok_iff {ts : List Text} (hamp : ∀ t ∈ ts, '&' ∉ t)
    (hmark : ∀ t ∈ ts, (trim t).head? ≠ some '?') {r : Request} :
    (read (joined "&" ts)).outcome = .ok r ↔ (readTokens {} ts).outcome = .ok r := by
  have htext : queryText (joined "&" ts) = trim (joined "&" ts) := by
    rw [queryText, if_neg (head?_trim_joined hamp hmark), trim_trim]
  rw [read, splitTokens_eq, htext]
  rcases eq_or_ne ts [] with rfl | hne
  · -- without any token there is still the empty one, which asks for nothing
    rfl
  · have hparts := map_trim_splitOn_trim (c := '&') (by decide) (joined "&" ts)
    have hjoined : (joined "&" ts).splitOn '&' = ts := splitOn_joined hne hamp
    rw [hjoined] at hparts
    exact ⟨readTokens_of_map_trim_eq hparts, readTokens_of_map_trim_eq hparts.symm⟩

/-! ### One key -/

section Only

variable (r : Request) {key name : Text}

lemma only_setSorting_of_ne (h : key ≠ "order") (m : Sorting) :
    only { r with sorting := m } key = r.only key := by
  simp only [only, if_neg h]

lemma only_setPage_self (pageKey : PageKey) (n : ℕ) :
    (r.setPage pageKey n).only pageKey.word = (r.only pageKey.word).setPage pageKey n := by
  cases pageKey <;> rfl

lemma only_setPage_of_ne {pageKey : PageKey} (h : key ≠ pageKey.word) (n : ℕ) :
    (r.setPage pageKey n).only key = r.only key := by
  cases pageKey with
  | limit => simp only [only, setPage, if_neg h]
  | offset => simp only [only, setPage, if_neg h]

lemma only_setFilter_self (f : Filter) :
    only { r with filters := r.filters.set name f } name =
      { r.only name with filters := (r.only name).filters.set name f } := by
  simp only [only, Fields.keep_set_self]

lemma only_setFilter_of_ne (h : name ≠ key) (f : Filter) :
    only { r with filters := r.filters.set name f } key = r.only key := by
  simp only [only, Fields.keep_set_of_ne h]

lemma only_addValue_self (v : Text) :
    (r.addValue name v).only name = (r.only name).addValue name v := by
  have hget : (r.only name).filters.get? name = r.filters.get? name :=
    Fields.get?_keep_self r.filters name
  rw [addValue, addValue, hget]
  cases r.filters.get? name with
  | none => exact only_setFilter_self r _
  | some f =>
    simp only
    split
    · exact only_setFilter_self r _
    · rfl

lemma only_addValue_of_ne (h : name ≠ key) (v : Text) :
    (r.addValue name v).only key = r.only key := by
  rw [addValue]
  split
  · exact only_setFilter_of_ne r h _
  · split
    · exact only_setFilter_of_ne r h _
    · rfl

end Only

/-- **One token** changes what is asked for under its key, and in this it goes by nothing else. -/
lemma only_apply (r : Request) {t : Text} {token : Token} (h : Token.Asks t token) (key : Text) :
    (r.apply token).only key =
      if Token.key t = key then (r.only key).apply token else r.only key := by
  cases h with
  | blank | noValue | noFilter | blankValue => exact (ite_self _).symm
  | @order value hpair hcolon =>
    rw [hpair.key_eq, apply, apply]
    cases Sorting.read value with
    | error cause => exact (ite_self _).symm
    | ok m =>
      by_cases hkey : ("order" : Text) = key
      · rw [if_pos hkey, ← hkey]
        rfl
      · rw [if_neg hkey]
        exact only_setSorting_of_ne r (Ne.symm hkey) m
  | @page value pageKey hpair hdigits =>
    rw [hpair.key_eq]
    split
    · next hkey =>
      subst hkey
      exact only_setPage_self r pageKey _
    · next hkey => exact only_setPage_of_ne r (Ne.symm hkey) _
  | filter hpair hname hcut hc hne =>
    rw [hpair.key_eq]
    split
    · next hkey =>
      subst hkey
      exact only_setFilter_self r _
    · next hkey => exact only_setFilter_of_ne r hkey _
  | value hpair hname hcolon hb =>
    rw [hpair.key_eq]
    split
    · next hkey =>
      subst hkey
      exact only_addValue_self r _
    · next hkey => exact only_addValue_of_ne r hkey _

/-- **What a run of tokens asks for under a key** is what those with this key ask for. -/
lemma readTokens_filter_key {r r' : Request} {ts : List Text}
    (h : (readTokens r ts).outcome = .ok r') (key : Text) :
    (readTokens (r.only key) (ts.filter fun t => Token.key t = key)).outcome =
      .ok (r'.only key) := by
  induction ts generalizing r with
  | nil =>
    rw [readTokens, Except.ok.injEq] at h
    rw [← h]
    rfl
  | cons t ts ih =>
    rw [readTokens] at h
    cases hread : Token.read t with
    | error fault => simp [hread] at h
    | ok token =>
      simp only [hread] at h
      -- a token with another key is not among those on the right, and changes nothing on the left
      have honly := only_apply r (Token.read_eq_ok_iff_asks.1 hread) key
      by_cases hkey : Token.key t = key
      · rw [if_pos hkey] at honly
        rw [List.filter_cons_of_pos (by simpa using hkey), readTokens, hread]
        simp only
        rw [← honly]
        exact ih h
      · rw [if_neg hkey] at honly
        rw [List.filter_cons_of_neg (by simpa using hkey), ← honly]
        exact ih h

/-- Requests that ask for the same under every key ask for the same. -/
lemma same_of_only_eq {r r' : Request} (hr : r.WellFormed) (hr' : r'.WellFormed)
    (h : ∀ key, r.only key = r'.only key) : Same r r' := by
  have hfilter : ∀ name, r.filters.get? name = r'.filters.get? name := by
    intro name
    have hname := congrArg (fun q => q.filters.get? name) (h name)
    simpa only [only, Fields.get?_keep_self] using hname
  exact
    { limit := congrArg (fun q => q.limit) (h PageKey.limit.word)
      offset := congrArg (fun q => q.offset) (h PageKey.offset.word)
      sorting := congrArg (fun q => q.sorting) (h "order")
      filter := hfilter
      entries := Fields.perm_of_get?_eq hr.filters.nodup hr'.filters.nodup hfilter }

end Request

/-! ### Any other order -/

namespace Rearranged

variable {ts us : List Text}

/-- The tokens with one key, be it one that does not occur. -/
lemma filter_eq (h : Rearranged ts us) (key : Text) :
    us.filter (fun u => Token.key u = key) = ts.filter fun u => Token.key u = key := by
  by_cases hkey : ∃ t ∈ ts, Token.key t = key
  · obtain ⟨t, ht, rfl⟩ := hkey
    exact h.order t ht
  · have hnone (vs : List Text) (hvs : ∀ v ∈ vs, v ∈ ts) :
        vs.filter (fun u => Token.key u = key) = [] := by
      rw [List.filter_eq_nil_iff]
      intro v hv
      simpa using fun heq => hkey ⟨v, hvs v hv, heq⟩
    rw [hnone us fun v hv => h.perm.subset hv, hnone ts fun v hv => hv]

end Rearranged

namespace Request

/-- **Another order of independent tokens.**  Tokens that are put in another order, those with one
key as before, make a query string that can be read exactly if the first one can, and then asks for
the same. -/
theorem same_of_rearranged {ts us : List Text} (hamp : ∀ t ∈ ts, '&' ∉ t)
    (hmark : ∀ t ∈ ts, (trim t).head? ≠ some '?') (h : Rearranged ts us) :
    ((∃ fault, (read (joined "&" ts)).outcome = .error fault) ∧
        ∃ fault, (read (joined "&" us)).outcome = .error fault) ∨
      ∃ r r', (read (joined "&" ts)).outcome = .ok r ∧ (read (joined "&" us)).outcome = .ok r' ∧
        Same r r' := by
  have hread (r : Request) := read_joined_eq_ok_iff hamp hmark (r := r)
  have hamp' : ∀ u ∈ us, '&' ∉ u := fun u hu => hamp u (h.perm.subset hu)
  have hmark' : ∀ u ∈ us, (trim u).head? ≠ some '?' := fun u hu => hmark u (h.perm.subset hu)
  have hread' (r : Request) := read_joined_eq_ok_iff hamp' hmark' (r := r)
  -- whether tokens can be read does not depend on their order
  have hiff : (∃ r, (readTokens {} ts).outcome = .ok r) ↔
      ∃ r, (readTokens {} us).outcome = .ok r := by
    rw [readTokens_eq_ok_iff, readTokens_eq_ok_iff]
    exact forall_congr' fun t => by rw [h.perm.mem_iff]
  cases hts : (read (joined "&" ts)).outcome with
  | ok r =>
    right
    obtain ⟨r', hr'⟩ := hiff.1 ⟨r, (hread r).1 hts⟩
    refine ⟨r, r', rfl, (hread' r').2 hr', ?_⟩
    refine same_of_only_eq (readable_of_read hts).wellFormed
      (readable_of_read ((hread' r').2 hr')).wellFormed fun key => ?_
    have honly := readTokens_filter_key ((hread r).1 hts) key
    have honly' := readTokens_filter_key hr' key
    rw [h.filter_eq key, honly] at honly'
    exact Except.ok.inj honly'
  | error fault =>
    left
    refine ⟨⟨fault, rfl⟩, ?_⟩
    cases hus : (read (joined "&" us)).outcome with
    | error fault' => exact ⟨fault', rfl⟩
    | ok r' =>
      obtain ⟨r, hr⟩ := hiff.2 ⟨r', (hread' r').1 hus⟩
      rw [(hread r).2 hr] at hts
      cases hts

/-- Two values of one field and two orders, each pair in its own order, around a filter on another
field and a limit. -/
theorem same_of_rearranged_interleaved :
    Rearranged ["a=1", "order=x:asc", "b=contains:y ", "a = 2", "limit=7", "order=z:desc"]
        ["b=contains:y ", "order=x:asc", "a=1", "limit=7", "order=z:desc", "a = 2"] ∧
      ∃ r r', (read (joined "&"
          ["a=1", "order=x:asc", "b=contains:y ", "a = 2", "limit=7", "order=z:desc"])).outcome
            = .ok r ∧
        (read (joined "&"
          ["b=contains:y ", "order=x:asc", "a=1", "limit=7", "order=z:desc", "a = 2"])).outcome
            = .ok r' ∧ Same r r' := by
  have h : Rearranged ["a=1", "order=x:asc", "b=contains:y ", "a = 2", "limit=7", "order=z:desc"]
      ["b=contains:y ", "order=x:asc", "a=1", "limit=7", "order=z:desc", "a = 2"] :=
    ⟨by decide, by decide⟩
  refine ⟨h, (same_of_rearranged (by decide) (by decide) h).resolve_left ?_⟩
  rintro ⟨⟨fault, hfault⟩, -⟩
  have hread : (read (joined "&"
      ["a=1", "order=x:asc", "b=contains:y ", "a = 2", "limit=7", "order=z:desc"])).outcome =
        .ok ⟨⟨[("a", ⟨.equals, ["1", "2"]⟩), ("b", ⟨.contains, ["y"]⟩)]⟩, ⟨[("z", .descending)]⟩,
          7, 0⟩ := by decide
  rw [hread] at hfault
  cases hfault

end Request

end Listing
