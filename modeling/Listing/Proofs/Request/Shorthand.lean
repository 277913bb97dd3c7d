import Mathlib
import Listing.Proofs.Request.Built
import Listing.Proofs.Request.Latest
import Listing.Proofs.Request.Noise

/-!
# Plain values in place of an equality

That a field is to equal one of several values can be asked for by one token, which is the filter
`name=equals:value,value`, or by a token `name=value` for each value.  Both spell the same request,
whatever stands around them, as long as no token before them has asked for anything of the field:
an earlier filter would be replaced in the first case and joined in the second.

The filter puts its values on the field in one go and the plain values one by one.  On a field
without a filter the two come to the same, and from there on the query string is read alike.
-/

namespace Listing

open Text

namespace Token

/-- The token that asks a field to equal one of some values. -/
def equality (key : Text) (vs : List Text) : Text :=
  key ++ '=' :: ("equals" ++ ':' :: joined "," vs)

/-- The token that asks a field to equal a value. -/
def plain (key v : Text) : Text :=
  key ++ '=' :: v

/-- What values are spelled out as, without the blank ones. -/
def spelledOut (vs : List Text) : List Text :=
  (vs.map fun v => Percent.decode (trim v)).filter fun v => !blank v

/-- A key that names a field, possibly a blank one, and values for it, at least one, none of which
is cut at a separator. -/
structure Separable (key : Text) (vs : List Text) : Prop where
  uncut : ∀ c ∈ ['&', '='], c ∉ key
  field : trim key ∉ Filters.reserved
  ne_nil : vs ≠ []
  values : ∀ v ∈ vs, ∀ c ∈ ['&', '=', ':', ','], c ∉ v

/-! ### What the tokens are read as -/

section Read

variable {key : Text} {vs : List Text} (h : Separable key vs)

include h

lemma Separable.cutAt_plain {v : Text} (hv : v ∈ vs) : CutAt '=' (plain key v) key v :=
  ⟨rfl, h.uncut '=' (by simp), h.values v hv '=' (by simp)⟩

lemma Separable.cutAt_equality :
    CutAt '=' (equality key vs) key ("equals" ++ ':' :: joined "," vs) := by
  have hjoined : '=' ∉ joined "," vs :=
    not_mem_joined (by decide) fun v hv => h.values v hv '=' (by simp)
  exact ⟨rfl, h.uncut '=' (by simp), by simpa using hjoined⟩

lemma Separable.read_plain (hblank : blank key = false) {v : Text} (hv : v ∈ vs) :
    read (plain key v) =
      .ok (if blank (Percent.decode (trim v)) then .nothing
        else .value (trim key) (Percent.decode (trim v))) := by
  have hcolon : ':' ∉ trim v :=
    mt (mem_trim (by decide)).1 (h.values v hv ':' (by simp))
  rw [read_of_cutAt (h.cutAt_plain hv), if_neg (by simp [hblank])]
  split
  · next hv =>
    rw [trim_eq_nil_iff.2 hv]
    rfl
  · rw [readPair_field h.field, readField_of_not_mem hcolon]

lemma Separable.read_equality (hblank : blank key = false) :
    read (equality key vs) =
      .ok (if spelledOut vs = [] then .nothing
        else .filter (trim key) ⟨.equals, spelledOut vs⟩) := by
  have hword : CutAt ':' ("equals" ++ ':' :: joined "," vs) "equals" (joined "," vs) :=
    ⟨rfl, by decide, not_mem_joined (by decide) fun v hv => h.values v hv ':' (by simp)⟩
  have hvalue : blank ("equals" ++ ':' :: joined "," vs) = false :=
    blank_eq_false_iff.2 ⟨':', by simp, by decide⟩
  have hsplit : (joined "," vs).splitOn ',' = vs :=
    splitOn_joined h.ne_nil fun v hv => h.values v hv ',' (by simp)
  -- the value of the token is trimmed first, which may take blanks off the last of the values
  obtain ⟨word, values, hcut, htrim, hvalues⟩ :=
    hword.of_parts_eq (parts_trim (by decide) _).symm
  have hread : Filter.of .equals (Filter.readValues values) = ⟨.equals, spelledOut vs⟩ := by
    rw [Filter.readValues_of_parts_eq (parts_eq_of_trim_eq (by decide) hvalues), Filter.of,
      Filter.readValues, hsplit, spelledOut]
  have hequals : trim word = Comparison.equals.word := htrim
  rw [read_of_cutAt h.cutAt_equality, if_neg (by simp [hblank]),
    if_neg (Bool.eq_false_iff.1 hvalue), readPair_field h.field,
    readField_of_cutAt (trim_trim _) hcut hequals, hread]
  simp only [List.isEmpty_iff]

end Read

end Token

namespace Request

/-! ### Values on a field without a filter -/

lemma addValue_of_equals {r : Request} {name : Text} {vs : List Text} {v : Text}
    (h : ∀ w ∈ vs ++ [v], blank w = false) :
    addValue { r with filters := r.filters.set name ⟨.equals, vs⟩ } name v =
      { r with filters := r.filters.set name ⟨.equals, vs ++ [v]⟩ } := by
  have hget : (r.filters.set name ⟨.equals, vs⟩).get? name = some ⟨.equals, vs⟩ := by
    rw [Fields.get?_set, if_pos rfl]
  have happend : Filter.append ⟨.equals, vs⟩ v = ⟨.equals, vs ++ [v]⟩ :=
    Filters.of_eq_self (f := ⟨.equals, vs ++ [v]⟩) h
  rw [addValue]
  simp only [hget, if_true, happend, Fields.set_set]

/-- **Plain values** on a field without a filter make the filter that has them all. -/
lemma foldl_addValue {r : Request} {name : Text} (hnone : r.filters.get? name = none)
    {vs : List Text} (h : ∀ v ∈ vs, blank v = false) :
    vs.foldl (fun r v => r.addValue name v) r =
      if vs = [] then r else { r with filters := r.filters.set name ⟨.equals, vs⟩ } := by
  induction vs using List.reverseRecOn with
  | nil => rfl
  | append_singleton vs v ih =>
    have hvs : ∀ w ∈ vs, blank w = false := fun w hw => h w (List.mem_append_left _ hw)
    have hlast : vs ++ [v] ≠ [] := by simp
    rw [List.foldl_append, ih hvs, if_neg hlast, List.foldl_cons, List.foldl_nil]
    rcases eq_or_ne vs [] with rfl | hne
    · have hof : Filter.of .equals [v] = ⟨.equals, [v]⟩ :=
        Filters.of_eq_self (f := ⟨.equals, [v]⟩) h
      rw [if_pos rfl, addValue]
      simp only [hnone, hof, List.nil_append]
    · rw [if_neg hne]
      exact addValue_of_equals h

/-- A token without a value for a key leaves the filter under this key as it is. -/
lemma get?_apply {r : Request} {t name : Text} {token : Token} (h : Token.Asks t token)
    (hvalue : Token.valueOf? name t = none) :
    (r.apply token).filters.get? name = r.filters.get? name := by
  have hne {key value : Text} (hpair : Token.IsPair t key value) : key ≠ name := by
    rintro rfl
    rw [Token.valueOf?_of_isPair hpair, if_pos rfl] at hvalue
    cases hvalue
  cases h with
  | blank | noValue | noFilter | blankValue => rfl
  | @order value =>
    rw [apply]
    cases Sorting.read value <;> rfl
  | @page value key => cases key <;> rfl
  | filter hpair => rw [apply, Fields.get?_set, if_neg (hne hpair)]
  | value hpair =>
    rw [apply, addValue]
    split
    · rw [Fields.get?_set, if_neg (hne hpair)]
    · split
      · rw [Fields.get?_set, if_neg (hne hpair)]
      · rfl

lemma get?_readTokens {r r' : Request} {ts : List Text} {name : Text}
    (h : (readTokens r ts).outcome = .ok r') (hvalues : ∀ t ∈ ts, Token.valueOf? name t = none) :
    r'.filters.get? name = r.filters.get? name := by
  induction ts generalizing r with
  | nil =>
    rw [readTokens, Except.ok.injEq] at h
    rw [← h]
  | cons t ts ih =>
    rw [List.forall_mem_cons] at hvalues
    rw [readTokens] at h
    cases hread : Token.read t with
    | error fault => simp [hread] at h
    | ok token =>
      simp only [hread] at h
      rw [ih h hvalues.2, get?_apply (Token.read_eq_ok_iff_asks.1 hread) hvalues.1]

/-! ### One token or several -/

section Tokens

variable {key : Text} {vs : List Text} (h : Token.Separable key vs)

include h

/-- Plain values are put on their field one after the other. -/
lemma readTokens_plain (hblank : blank key = false) {ws : List Text} (hws : ws ⊆ vs) (r : Request) :
    (readTokens r (ws.map (Token.plain key))).outcome =
      .ok ((Token.spelledOut ws).foldl (fun r v => r.addValue (trim key) v) r) := by
  induction ws generalizing r with
  | nil => rfl
  | cons w ws ih =>
    rw [List.cons_subset] at hws
    rw [List.map_cons, readTokens, h.read_plain hblank hws.1]
    simp only
    rw [ih hws.2, Token.spelledOut, Token.spelledOut, List.map_cons]
    by_cases hw : blank (Percent.decode (trim w)) = true
    · rw [if_pos hw, List.filter_cons_of_neg (by simp [hw])]
      rfl
    · rw [if_neg hw, List.filter_cons_of_pos (by simp [hw])]
      rfl

/-- **On a field without a filter** the plain values do what the filter does. -/
lemma readTokens_shorthand (hblank : blank key = false) {r : Request}
    (hnone : r.filters.get? (trim key) = none) (after : List Text) :
    (readTokens r (Token.equality key vs :: after)).outcome =
      (readTokens r (vs.map (Token.plain key) ++ after)).outcome := by
  have hsolid : ∀ v ∈ Token.spelledOut vs, blank v = false := by
    intro v hv
    simpa using (List.mem_filter.1 hv).2
  rw [readTokens_append, readTokens_plain h hblank (List.Subset.refl vs), readTokens,
    h.read_equality hblank, foldl_addValue hnone hsolid]
  by_cases hnil : Token.spelledOut vs = []
  · rw [if_pos hnil, if_pos hnil]
    rfl
  · rw [if_neg hnil, if_neg hnil]
    rfl

/-- With a blank key neither spelling can be read. -/
lemma mapError_readTokens_of_blank_key (hblank : blank key = true) (r : Request)
    (after : List Text) :
    (readTokens r (Token.equality key vs :: after)).outcome.mapError Fault.kind =
      (readTokens r (vs.map (Token.plain key) ++ after)).outcome.mapError Fault.kind := by
  obtain ⟨v, ws, rfl⟩ := List.exists_cons_of_ne_nil h.ne_nil
  rw [List.map_cons, List.cons_append, readTokens, readTokens, Token.read_of_cutAt h.cutAt_equality,
    Token.read_of_cutAt (h.cutAt_plain List.mem_cons_self), if_pos hblank, if_pos hblank]
  rfl

lemma mapError_readTokens_shorthand {before : List Text}
    (hbefore : ∀ t ∈ before, Token.valueOf? (trim key) t = none) (after : List Text) :
    (readTokens {} (before ++ Token.equality key vs :: after)).outcome.mapError Fault.kind =
      (readTokens {} (before ++ vs.map (Token.plain key) ++ after)).outcome.mapError
        Fault.kind := by
  rw [List.append_assoc, readTokens_append, readTokens_append]
  cases hread : (readTokens {} before).outcome with
  | error fault => rfl
  | ok r =>
    cases hblank : blank key with
    | true => exact mapError_readTokens_of_blank_key h hblank r after
    | false =>
      have hnone : r.filters.get? (trim key) = none := get?_readTokens hread hbefore
      exact congrArg (Except.mapError Fault.kind) (readTokens_shorthand h hblank hnone after)

end Tokens

/-! ### Query strings -/

/-- A query string after its front is read by its tokens, as they are. -/
lemma mapError_read_front {front : Text} {ts : List Text} (hfront : Front front (joined "&" ts))
    (hne : ts ≠ []) (hamp : ∀ t ∈ ts, '&' ∉ t) :
    (read (front ++ joined "&" ts)).outcome.mapError Fault.kind =
      (readTokens {} ts).outcome.mapError Fault.kind := by
  have hsplit : (joined "&" ts).splitOn '&' = ts := splitOn_joined hne hamp
  rw [mapError_read, hfront.effects_queryText, effects, hsplit, mapError_readTokens]

/-- **Plain values and an equality.**  A token that asks a field to equal one of some values can be
written as a token for each of the values, in their order.  If no token before it has a value for
the key, the query string is read as the same request, or with a fault of the same kind. -/
theorem read_of_shorthand {front key : Text} {vs before after : List Text}
    (hfront : Front front (joined "&" (before ++ Token.equality key vs :: after)))
    (h : Token.Separable key vs) (hamp : ∀ t ∈ before ++ after, '&' ∉ t)
    (hbefore : ∀ t ∈ before, Token.valueOf? (trim key) t = none) :
    (read (front ++ joined "&" (before ++ Token.equality key vs :: after))).outcome.mapError
        Fault.kind =
      (read (front ++ joined "&" (before ++ vs.map (Token.plain key) ++ after))).outcome.mapError
        Fault.kind := by
  have hkey : '&' ∉ key := h.uncut '&' (by simp)
  have hequality : '&' ∉ Token.equality key vs := by
    have hjoined : '&' ∉ joined "," vs :=
      not_mem_joined (by decide) fun v hv => h.values v hv '&' (by simp)
    simpa [Token.equality, hkey] using hjoined
  have hplain : ∀ t ∈ vs.map (Token.plain key), '&' ∉ t := by
    rw [List.forall_mem_map]
    intro v hv
    simpa [Token.plain, hkey] using h.values v hv '&' (by simp)
  have hfront' : Front front (joined "&" (before ++ vs.map (Token.plain key) ++ after)) := by
    obtain ⟨v, ws, rfl⟩ := List.exists_cons_of_ne_nil h.ne_nil
    rw [List.map_cons, List.append_assoc, List.cons_append]
    exact hfront.of_joined
  rw [List.forall_mem_append] at hamp
  rw [mapError_read_front hfront (by simp), mapError_read_front hfront' (by simp [h.ne_nil]),
    mapError_readTokens_shorthand h hbefore]
  · simp only [List.forall_mem_append]
    exact ⟨⟨hamp.1, hplain⟩, hamp.2⟩
  · rw [List.forall_mem_append, List.forall_mem_cons]
    exact ⟨hamp.1, hequality, hamp.2⟩

/-- Padded values, one that is escaped, one that is blank and one that spells a blank, between a
token without a value for the key and one with a further value. -/
theorem read_of_shorthand_between :
    (read "b=1&a=& a =equals: %C3%A9 ,,%20,2 &a=3&limit=5").outcome =
        .ok ⟨⟨[("b", ⟨.equals, ["1"]⟩), ("a", ⟨.equals, ["é", "2", "3"]⟩)]⟩, ⟨[]⟩, 5, 0⟩ ∧
      (read "b=1&a=& a = %C3%A9 & a =& a =%20& a =2 &a=3&limit=5").outcome.mapError Fault.kind =
        .ok ⟨⟨[("b", ⟨.equals, ["1"]⟩), ("a", ⟨.equals, ["é", "2", "3"]⟩)]⟩, ⟨[]⟩, 5, 0⟩ := by
  have hread : (read "b=1&a=& a =equals: %C3%A9 ,,%20,2 &a=3&limit=5").outcome =
      .ok ⟨⟨[("b", ⟨.equals, ["1"]⟩), ("a", ⟨.equals, ["é", "2", "3"]⟩)]⟩, ⟨[]⟩, 5, 0⟩ := by
    decide +kernel
  have hseparable : Token.Separable " a " [" %C3%A9 ", "", "%20", "2 "] :=
    ⟨by simp, by decide, by decide, by simp⟩
  have heq := @read_of_shorthand [] " a " [" %C3%A9 ", "", "%20", "2 "] ["b=1", "a="]
    ["a=3", "limit=5"] (.bare (by decide)) hseparable (by decide) (by decide)
  exact ⟨hread, heq.symm.trans (congrArg (Except.mapError Fault.kind) hread)⟩

-- a filter that the field has already is replaced by an equality, and joined by plain values
example : (read "a=1&a=equals:2,3").outcome ≠ (read "a=1&a=2&a=3").outcome := by decide

end Request

end Listing
