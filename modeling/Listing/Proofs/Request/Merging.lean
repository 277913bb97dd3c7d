import Mathlib
import Listing.Proofs.Request.Range

/-!
# Keys that occur again

A query string may name a field more than once.  What comes of that is said here in closed form.
Each token is a demand on the filter of one field, or on none: `Demand.ofToken?` finds the demand
in the text of the token.  A filter replaces what was demanded before it; a plain value joins the
values that its field has to equal, but is lost on a field that is compared in another way.  So of
the demands on a field only the last filter counts, and the plain values after it or, without a
filter, all of them: this is `Settles`.  Fields stand in the order of the first demands on them.
-/

namespace Listing

open Text

/-- What a token asks of the filter on a field. -/
inductive Demand where
  /-- This filter, whatever was asked for before. -/
  | filter (f : Filter)
  /-- One more value that the field has to equal. -/
  | value (v : Text)
deriving DecidableEq, Repr

namespace Demand

/-- The values in a list separated by commas, each trimmed and then unescaped, without the blank
ones. -/
def solidValues (t : Text) : List Text :=
  ((t.splitOn ',').map fun v => Percent.decode (trim v)).filter fun v => !blank v

/-- The demand of the value of a key: a filter if it has a colon, else a plain value.  Blank values
demand nothing. -/
def ofValue? (value : Text) : Option Demand :=
  match value.splitOn ':' with
  | [plain] =>
    if blank (Percent.decode plain) then none else some (.value (Percent.decode plain))
  | [word, values] =>
    if solidValues values = [] then none
    else (Comparison.ofWord? (trim word)).map fun c => .filter ⟨c, solidValues values⟩
  | _ => none

/-- The field of which a token demands something, and what it demands. -/
def ofToken? (t : Text) : Option (Text × Demand) :=
  match (t.splitOn '=').map trim with
  | [key, rest] =>
    if Filters.reserved.contains key then none else (ofValue? rest).map fun d => (key, d)
  | _ => none

/-- The filter after a demand, given the one before it. -/
def answer : Demand → Option Filter → Filter
  | .filter f, _ => f
  | .value v, none => ⟨.equals, [v]⟩
  | .value v, some f => if f.comparison = .equals then ⟨.equals, f.values ++ [v]⟩ else f

/-- The filter that the demands on a field, in order, settle on. -/
inductive Settles : List Demand → Option Filter → Prop
  /-- Without demands there is no filter. -/
  | nothing : Settles [] none
  /-- Plain values alone are the values that the field has to equal. -/
  | values {vs : List Text} : vs ≠ [] → Settles (vs.map value) (some ⟨.equals, vs⟩)
  /-- If the last filter asks for equality, the plain values after it join its own. -/
  | equals {before : List Demand} {us vs : List Text} :
      Settles (before ++ filter ⟨.equals, us⟩ :: vs.map value) (some ⟨.equals, us ++ vs⟩)
  /-- If the last filter compares in another way, it stays as it is. -/
  | other {before : List Demand} {f : Filter} {vs : List Text} : f.comparison ≠ .equals →
      Settles (before ++ filter f :: vs.map value) (some f)

/-! ### Demands on one field -/

/-- The filter after all demands of a list. -/
def settled (ds : List Demand) : Option Filter :=
  ds.foldl (fun held d => some (d.answer held)) none

lemma settled_concat (ds : List Demand) (d : Demand) :
    settled (ds ++ [d]) = some (d.answer (settled ds)) :=
  List.foldl_concat _ _ _ _

/-- Plain values leave a comparison other than equality alone, and else join the others. -/
lemma foldl_answer_values (f : Filter) (vs : List Text) :
    (vs.map value).foldl (fun held d => some (d.answer held)) (some f) =
      some (if f.comparison = .equals then ⟨.equals, f.values ++ vs⟩ else f) := by
  induction vs using List.reverseRecOn with
  | nil =>
    obtain ⟨c, values⟩ := f
    by_cases h : c = .equals <;> simp [h]
  | append_singleton vs v ih =>
    rw [List.map_append, List.foldl_append, ih]
    by_cases h : f.comparison = .equals <;> simp [answer, h]

lemma settled_eq_of_settles {ds : List Demand} {held : Option Filter} (h : Settles ds held) :
    settled ds = held := by
  cases h with
  | nothing => rfl
  | @values vs hne =>
    obtain ⟨v, vs, rfl⟩ := List.exists_cons_of_ne_nil hne
    have hfold := foldl_answer_values ⟨.equals, [v]⟩ vs
    rw [if_pos rfl] at hfold
    exact hfold
  | @equals before us vs =>
    have hfold := foldl_answer_values ⟨.equals, us⟩ vs
    rw [if_pos rfl] at hfold
    rw [settled, List.foldl_append, List.foldl_cons]
    exact hfold
  | @other before f vs hne =>
    have hfold := foldl_answer_values f vs
    rw [if_neg hne] at hfold
    rw [settled, List.foldl_append, List.foldl_cons]
    exact hfold

/-- One more demand. -/
lemma Settles.concat {ds : List Demand} {held : Option Filter} (h : Settles ds held)
    (d : Demand) : Settles (ds ++ [d]) (some (d.answer held)) := by
  cases d with
  | filter f =>
    -- a filter is the last one of the list, with no plain values after it
    obtain ⟨c, us⟩ := f
    by_cases hc : c = .equals
    · have hlast : Settles (ds ++ filter ⟨.equals, us⟩ :: [].map value)
          (some ⟨.equals, us ++ []⟩) := .equals
      simpa [answer, hc] using hlast
    · have hlast : Settles (ds ++ filter ⟨c, us⟩ :: [].map value) (some ⟨c, us⟩) := .other hc
      exact hlast
  | value v =>
    -- a plain value comes after those that are there
    cases h with
    | nothing =>
      have hvalues : Settles ([v].map value) (some ⟨.equals, [v]⟩) := .values (by simp)
      exact hvalues
    | @values vs hne =>
      have hvalues : Settles ((vs ++ [v]).map value) (some ⟨.equals, vs ++ [v]⟩) :=
        .values (by simp)
      simpa [answer] using hvalues
    | @equals before us vs =>
      have hlast : Settles (before ++ filter ⟨.equals, us⟩ :: (vs ++ [v]).map value)
          (some ⟨.equals, us ++ (vs ++ [v])⟩) := .equals
      simpa [answer] using hlast
    | @other before f vs hne =>
      have hlast : Settles (before ++ filter f :: (vs ++ [v]).map value) (some f) := .other hne
      simpa [answer, hne] using hlast

/-- **Demands settle on one filter**, which is the one that answering them in turn leads to. -/
lemma settles_iff {ds : List Demand} {held : Option Filter} :
    Settles ds held ↔ settled ds = held := by
  refine ⟨settled_eq_of_settles, ?_⟩
  rintro rfl
  induction ds using List.reverseRecOn with
  | nil => exact Settles.nothing
  | append_singleton ds d ih =>
    rw [settled_concat]
    exact ih.concat d

/-! ### The demand of a token -/

lemma ofToken?_of_isPair {t key value : Text} (h : Token.IsPair t key value) :
    ofToken? t = if key ∈ Filters.reserved then none
      else (ofValue? value).map fun d => (key, d) := by
  obtain ⟨k, v, hcut, -, -, rfl, rfl⟩ := h
  have hreserved : Filters.reserved.contains (trim k) = true ↔ trim k ∈ Filters.reserved :=
    List.contains_iff_mem
  rw [ofToken?, splitOn_eq_pair_iff.2 hcut]
  simp only [List.map_cons, List.map_nil, hreserved]

lemma ofToken?_of_blank {t : Text} (h : blank t = true) : ofToken? t = none := by
  have hsign : '=' ∉ t := not_mem_of_blank (by decide) h
  rw [ofToken?, List.splitOn_eq_singleton hsign]
  rfl

lemma ofToken?_of_blank_value {t key value : Text} (hcut : CutAt '=' t key value)
    (h : blank value = true) : ofToken? t = none := by
  have hvalue : ofValue? (trim value) = none := by
    rw [trim_eq_nil_iff.2 h]
    rfl
  rw [ofToken?, splitOn_eq_pair_iff.2 hcut]
  simp [hvalue]

lemma ofValue?_of_not_mem {value : Text} (h : ':' ∉ value) :
    ofValue? value =
      if blank (Percent.decode value) then none else some (.value (Percent.decode value)) := by
  rw [ofValue?, List.splitOn_eq_singleton h]

lemma ofValue?_of_cutAt {value word values : Text} {c : Comparison}
    (hcut : CutAt ':' value word values) (hc : trim word = c.word) :
    ofValue? value =
      if (Filter.of c (Filter.readValues values)).values = [] then none
      else some (.filter (.of c (Filter.readValues values))) := by
  have hof : Filter.of c (Filter.readValues values) = ⟨c, solidValues values⟩ := rfl
  rw [ofValue?, splitOn_eq_pair_iff.2 hcut, hof]
  simp only [hc, Comparison.ofWord?_word, Option.map_some]

end Demand

namespace Request

open Demand

/-- The demands of a query string, in order, each with its field. -/
def demands (search : Text) : List (Text × Demand) :=
  ((queryText search).splitOn '&').filterMap ofToken?

/-- The demands of a query string on one field. -/
def demandsOn (search key : Text) : List Demand :=
  ((demands search).filter fun e => e.1 = key).map Prod.snd

example : demands "b=1&a=contains:x&b=equals:2,%20&c=&b=3" =
    ([("b", .value "1"), ("a", .filter ⟨.contains, ["x"]⟩), ("b", .filter ⟨.equals, ["2"]⟩),
      ("b", .value "3")] : List (Text × Demand)) := by decide

/-! ### Reading answers the demands -/

/-- The filters after one more demand. -/
def answered (m : Filters) (e : Text × Demand) : Filters :=
  m.set e.1 (e.2.answer (m.get? e.1))

lemma filters_addValue {r : Request} (h : r.Readable) (name : Text) {v : Text}
    (hv : blank v = false) : (r.addValue name v).filters = answered r.filters (name, .value v) := by
  rw [addValue, answered]
  cases hget : r.filters.get? name with
  | none =>
    have hof : Filter.of .equals [v] = ⟨.equals, [v]⟩ :=
      Filters.of_eq_self (f := ⟨.equals, [v]⟩) (by simpa using hv)
    simp only [answer, hof]
  | some f =>
    by_cases hc : f.comparison = .equals
    · have hsolid := h.wellFormed.filters.solid _ (Fields.mem_of_get? hget)
      have hof : f.append v = ⟨.equals, f.values ++ [v]⟩ := by
        rw [Filter.append, hc]
        refine Filters.of_eq_self (f := ⟨.equals, f.values ++ [v]⟩) ?_
        intro u hu
        rcases List.mem_append.1 hu with hu | hu
        · exact hsolid u hu
        · rw [List.mem_singleton.1 hu]
          exact hv
      simp only [answer, hc, if_true, hof]
    · simp only [answer, hc, if_false, Fields.set_of_get? hget]

/-- **One token** answers its demand, and leaves the filters alone if it demands nothing. -/
lemma filters_apply {r : Request} (h : r.Readable) {t : Text} {token : Token}
    (htoken : Token.Asks t token) :
    (r.apply token).filters = (ofToken? t).elim r.filters (answered r.filters) := by
  cases htoken with
  | blank hb =>
    rw [ofToken?_of_blank hb]
    rfl
  | noValue hcut hkey hvalue =>
    rw [ofToken?_of_blank_value hcut hvalue]
    rfl
  | @order value hpair hcolon =>
    rw [ofToken?_of_isPair hpair, if_pos (by decide), apply]
    cases Sorting.read value <;> rfl
  | @page value key hpair hdigits =>
    have hreserved : key.word ∈ Filters.reserved := by cases key <;> decide
    rw [ofToken?_of_isPair hpair, if_pos hreserved, apply]
    cases key <;> rfl
  | filter hpair hkey hcut hc hne =>
    rw [ofToken?_of_isPair hpair, if_neg hkey, ofValue?_of_cutAt hcut hc, if_neg hne]
    rfl
  | noFilter hpair hkey hcut hc hnil =>
    rw [ofToken?_of_isPair hpair, if_neg hkey, ofValue?_of_cutAt hcut hc, if_pos hnil]
    rfl
  | value hpair hkey hcolon hb =>
    rw [ofToken?_of_isPair hpair, if_neg hkey, ofValue?_of_not_mem hcolon, if_neg (by simp [hb])]
    exact filters_addValue h _ hb
  | blankValue hpair hkey hcolon hb =>
    rw [ofToken?_of_isPair hpair, if_neg hkey, ofValue?_of_not_mem hcolon, if_pos hb]
    rfl

/-- **A run of tokens** answers their demands in turn. -/
lemma filters_readTokens {r r' : Request} (h : r.Readable) {ts : List Text}
    (hamp : ∀ t ∈ ts, '&' ∉ t) (hr' : (readTokens r ts).outcome = .ok r') :
    r'.filters = (ts.filterMap ofToken?).foldl answered r.filters := by
  induction ts generalizing r with
  | nil =>
    simp only [readTokens, Except.ok.injEq] at hr'
    rw [← hr']
    rfl
  | cons t ts ih =>
    rw [List.forall_mem_cons] at hamp
    rw [readTokens] at hr'
    cases hread : Token.read t with
    | error fault => simp [hread] at hr'
    | ok token =>
      simp only [hread] at hr'
      have hasks := Token.read_eq_ok_iff_asks.1 hread
      rw [ih (h.apply hamp.1 hasks) hamp.2 hr', filters_apply h hasks, List.filterMap_cons]
      cases ofToken? t <;> rfl

lemma filters_eq_changed {search : Text} {r : Request} (h : (read search).outcome = .ok r) :
    r.filters = Fields.changed Demand.answer (demands search) := by
  have hamp : ∀ t ∈ splitTokens search, '&' ∉ t := fun _ ht =>
    ampersand_not_mem_of_mem_splitTokens ht
  rw [filters_readTokens readable_empty hamp h, splitTokens_eq]
  rfl

/-- **Repeated keys.**  The filter of each field is the one that the demands on this field settle
on, and the fields stand in the order of the first demands on them, each once. -/
theorem filters_of_read {search : Text} {r : Request} (h : (read search).outcome = .ok r) :
    (∀ key held, r.filters.get? key = held ↔ Settles (demandsOn search key) held) ∧
      r.filters.names = ((demands search).map Prod.fst).eraseDups := by
  rw [filters_eq_changed h]
  refine ⟨fun key held => ?_, Fields.names_changed _ _⟩
  rw [Fields.get?_changed, settles_iff]
  rfl

/-- A plain value that a filter replaces, one that joins the filter, one that is lost on a
comparison, and a filter of blank values, over three fields. -/
theorem filters_of_read_interleaved :
    (read "b=1&a=contains:x&c=ends-with:%20&b=equals:2,%20&a=4&b=3").outcome =
        .ok { filters := ⟨[("b", ⟨.equals, ["2", "3"]⟩), ("a", ⟨.contains, ["x"]⟩)]⟩ } ∧
      Settles (demandsOn "b=1&a=contains:x&c=ends-with:%20&b=equals:2,%20&a=4&b=3" "b")
        (some ⟨.equals, ["2", "3"]⟩) ∧
      Settles (demandsOn "b=1&a=contains:x&c=ends-with:%20&b=equals:2,%20&a=4&b=3" "a")
        (some ⟨.contains, ["x"]⟩) ∧
      Settles (demandsOn "b=1&a=contains:x&c=ends-with:%20&b=equals:2,%20&a=4&b=3" "c") none := by
  have h : (read "b=1&a=contains:x&c=ends-with:%20&b=equals:2,%20&a=4&b=3").outcome =
      .ok { filters := ⟨[("b", ⟨.equals, ["2", "3"]⟩), ("a", ⟨.contains, ["x"]⟩)]⟩ } := by
    decide
  have hsettled := (filters_of_read h).1
  exact ⟨h, (hsettled "b" _).1 rfl, (hsettled "a" _).1 rfl, (hsettled "c" _).1 rfl⟩

end Request

end Listing
