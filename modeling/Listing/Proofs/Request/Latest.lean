import Mathlib
import Listing.Proofs.Request.Asking

/-!
# Orders and pages that are asked for again

A query string may ask for an order, or for a number of the page, more than once.  Of the orders the
last one counts that can be read; one that cannot is ignored as a whole, and leaves the order as the
earlier ones made it.  With the numbers of the page it is otherwise: the last one decides by itself,
and if it is no number of a page the default takes its place, whatever was asked for before.
-/

namespace Listing

open Text

/-- The value of a token with a given key, both trimmed, if the value is not empty. -/
def Token.valueOf? (key t : Text) : Option Text :=
  match (t.splitOn '=').map trim with
  | [k, v] => if k = key ∧ v ≠ [] then some v else none
  | _ => none

/-- The values, none of them empty, that a query string has for a key, in order. -/
def Request.valuesOf (search key : Text) : List Text :=
  ((queryText search).splitOn '&').filterMap (Token.valueOf? key)

/-- The order that a list of orders comes to. -/
inductive Sorting.Latest : List Text → Sorting → Prop
  /-- Nothing is sorted by orders that cannot be read. -/
  | nothing {vs : List Text} : (∀ v ∈ vs, ∃ cause, Sorting.read v = .error cause) →
      Latest vs Fields.empty
  /-- The last order that can be read counts, whatever comes before it. -/
  | last {before after : List Text} {v : Text} {m : Sorting} : Sorting.read v = .ok m →
      (∀ w ∈ after, ∃ cause, Sorting.read w = .error cause) → Latest (before ++ v :: after) m

/-- The number of a page that a list of values comes to. -/
inductive PageKey.Latest (default : ℕ) : List Text → ℕ → Prop
  /-- The default stands if there is no value. -/
  | nothing : Latest default [] default
  /-- The last value counts if it is a run of digits and in range. -/
  | number {before : List Text} {v : Text} : Numeral.isDigits v = true →
      Numeral.value v ≤ 2 ^ 63 - 1 → Latest default (before ++ [v]) (Numeral.value v)
  /-- A last value of any other kind stands for the default. -/
  | other {before : List Text} {v : Text} :
      ¬(Numeral.isDigits v = true ∧ Numeral.value v ≤ 2 ^ 63 - 1) →
      Latest default (before ++ [v]) default

/-! ### Orders in turn -/

namespace Sorting

/-- The order after one more, given the one before it. -/
def later (m : Sorting) (v : Text) : Sorting :=
  (Sorting.read v).toOption.getD m

lemma foldl_later_of_unreadable {m : Sorting} {vs : List Text}
    (h : ∀ v ∈ vs, ∃ cause, Sorting.read v = .error cause) : vs.foldl later m = m := by
  induction vs with
  | nil => rfl
  | cons v vs ih =>
    rw [List.forall_mem_cons] at h
    obtain ⟨⟨cause, hv⟩, hvs⟩ := h
    have hlater : later m v = m := by
      rw [later, hv]
      rfl
    rw [List.foldl_cons, hlater, ih hvs]

/-- **The last order that can be read** is what orders come to in turn. -/
lemma latest_iff {vs : List Text} {m : Sorting} :
    Latest vs m ↔ vs.foldl later Fields.empty = m := by
  constructor
  · intro h
    cases h with
    | nothing h => exact foldl_later_of_unreadable h
    | last hv hafter =>
      rw [List.foldl_append, List.foldl_cons, foldl_later_of_unreadable hafter, later, hv]
      rfl
  · rintro rfl
    -- by the last order: it is read, or it can be put behind what there was
    induction vs using List.reverseRecOn with
    | nil => exact .nothing (by simp)
    | append_singleton vs v ih =>
      rw [List.foldl_concat, later]
      cases hv : Sorting.read v with
      | ok m => exact .last hv (by simp)
      | error cause =>
        have hlast {ws : List Text} (h : ∀ w ∈ ws, ∃ cause, Sorting.read w = .error cause) :
            ∀ w ∈ ws ++ [v], ∃ cause, Sorting.read w = .error cause := by
          intro w hw
          rcases List.mem_append.1 hw with hw | hw
          · exact h w hw
          · exact ⟨cause, List.mem_singleton.1 hw ▸ hv⟩
        change Latest (vs ++ [v]) (vs.foldl later Fields.empty)
        generalize vs.foldl later Fields.empty = m at ih
        cases ih with
        | nothing h => exact .nothing (hlast h)
        | last hread hafter =>
          rw [List.append_assoc, List.cons_append]
          exact .last hread (hlast hafter)

end Sorting

/-! ### Numbers of the page in turn -/

namespace PageKey

/-- The number after one more value, whatever it was before. -/
def later (default : ℕ) (_ : ℕ) (v : Text) : ℕ :=
  (Token.pageNumber? v).getD default

/-- **The last value** decides on what values come to in turn. -/
lemma latest_iff {default n : ℕ} {vs : List Text} :
    Latest default vs n ↔ vs.foldl (later default) default = n := by
  constructor
  · intro h
    cases h with
    | nothing => rfl
    | number hdigits hle =>
      rw [List.foldl_concat, later, Token.pageNumber?, if_pos]
      · rfl
      · rw [hdigits, Bool.true_and, decide_eq_true_eq]
        exact hle
    | other h =>
      rw [List.foldl_concat, later, Token.pageNumber?, if_neg]
      · rfl
      · rw [Bool.and_eq_true, decide_eq_true_eq]
        exact h
  · rintro rfl
    rcases List.eq_nil_or_concat vs with rfl | ⟨vs, v, rfl⟩
    · exact .nothing
    · rw [List.concat_eq_append, List.foldl_concat, later, Token.pageNumber?]
      split
      · next h =>
        rw [Bool.and_eq_true, decide_eq_true_eq] at h
        exact .number h.1 h.2
      · next h =>
        rw [Bool.and_eq_true, decide_eq_true_eq] at h
        exact .other h

end PageKey

/-! ### The value of a token -/

namespace Token

variable {t key : Text}

/-- The value that a token has for a key that is reserved. -/
def value? (key : Text) : Token → Option Text
  | .order v => if "order" = key then some v else none
  | .page pageKey v => if pageKey.word = key then some v else none
  | .nothing | .filter _ _ | .value _ _ => none

lemma valueOf?_of_isPair {k v : Text} (h : IsPair t k v) :
    valueOf? key t = if k = key then some v else none := by
  obtain ⟨k, v, hcut, -, hv, rfl, rfl⟩ := h
  have hne : trim v ≠ [] := by
    rw [Ne, trim_eq_nil_iff, hv]
    simp
  rw [valueOf?, splitOn_eq_pair_iff.2 hcut]
  simp [hne]

lemma valueOf?_of_blank (h : blank t = true) : valueOf? key t = none := by
  have hsign : '=' ∉ t := not_mem_of_blank (by decide) h
  rw [valueOf?, List.splitOn_eq_singleton hsign]
  rfl

lemma valueOf?_of_blank_value {k v : Text} (hcut : CutAt '=' t k v) (h : blank v = true) :
    valueOf? key t = none := by
  rw [valueOf?, splitOn_eq_pair_iff.2 hcut]
  simp [trim_eq_nil_iff.2 h]

/-- The value that is found in the text of a token is the one that the token asks for. -/
lemma valueOf?_eq_value? (hkey : key ∈ Filters.reserved) {token : Token} (h : Asks t token) :
    valueOf? key t = token.value? key := by
  have hfield {name : Text} (hname : name ∉ Filters.reserved) : name ≠ key := by
    rintro rfl
    exact hname hkey
  cases h with
  | blank hb => exact valueOf?_of_blank hb
  | noValue hcut _ hvalue => exact valueOf?_of_blank_value hcut hvalue
  | order hpair _ => exact valueOf?_of_isPair hpair
  | page hpair _ => exact valueOf?_of_isPair hpair
  | filter hpair hname _ _ _ =>
    rw [valueOf?_of_isPair hpair, if_neg (hfield hname)]
    rfl
  | noFilter hpair hname _ _ _ =>
    rw [valueOf?_of_isPair hpair, if_neg (hfield hname)]
    rfl
  | value hpair hname _ _ =>
    rw [valueOf?_of_isPair hpair, if_neg (hfield hname)]
    rfl
  | blankValue hpair hname _ _ =>
    rw [valueOf?_of_isPair hpair, if_neg (hfield hname)]
    rfl

end Token

namespace Request

/-- A number of the page. -/
def page (r : Request) : PageKey → ℕ
  | .limit => r.limit
  | .offset => r.offset

/-- One more value changes the filters only. -/
lemma addValue_eq (r : Request) (name v : Text) :
    ∃ filters, r.addValue name v = { r with filters := filters } := by
  rw [addValue]
  split
  · exact ⟨_, rfl⟩
  · split
    · exact ⟨_, rfl⟩
    · exact ⟨r.filters, rfl⟩

/-- **One token** changes the order if it has the key of orders, and not otherwise. -/
lemma sorting_apply (r : Request) (token : Token) :
    (r.apply token).sorting =
      (token.value? "order").elim r.sorting (Sorting.later r.sorting) := by
  cases token with
  | nothing => rfl
  | filter name f => rfl
  | order v =>
    have hvalue : (Token.order v).value? "order" = some v := rfl
    rw [apply, hvalue, Option.elim_some, Sorting.later]
    cases Sorting.read v <;> rfl
  | page key v => cases key <;> rfl
  | value name v =>
    obtain ⟨filters, heq⟩ := r.addValue_eq name v
    rw [apply, heq]
    rfl

/-- **One token** changes a number of the page if it has its key, and not otherwise. -/
lemma page_apply (r : Request) (key : PageKey) (token : Token) :
    (r.apply token).page key =
      (token.value? key.word).elim (r.page key) (PageKey.later key.default (r.page key)) := by
  cases token with
  | nothing => rfl
  | filter name f => cases key <;> rfl
  | order v =>
    rw [apply]
    cases Sorting.read v <;> cases key <;> rfl
  | page other v => cases other <;> cases key <;> rfl
  | value name v =>
    obtain ⟨filters, heq⟩ := r.addValue_eq name v
    rw [apply, heq]
    cases key <;> rfl

/-- **A run of tokens**: what each of them does to a part of the request by its value for a reserved
key, all of them do by their values in turn. -/
lemma readTokens_part {α : Type} (part : Request → α) {key : Text} {step : α → Text → α}
    (hkey : key ∈ Filters.reserved)
    (hstep : ∀ r token, part (apply r token) = (token.value? key).elim (part r) (step (part r)))
    {r r' : Request} {ts : List Text} (h : (readTokens r ts).outcome = .ok r') :
    part r' = (ts.filterMap (Token.valueOf? key)).foldl step (part r) := by
  induction ts generalizing r with
  | nil =>
    rw [readTokens, Except.ok.injEq] at h
    rw [← h]
    rfl
  | cons t ts ih =>
    rw [readTokens] at h
    cases hread : Token.read t with
    | error fault => simp [hread] at h
    | ok token =>
      simp only [hread] at h
      have hvalue := Token.valueOf?_eq_value? hkey (Token.read_eq_ok_iff_asks.1 hread)
      rw [ih h, hstep, ← hvalue, List.filterMap_cons]
      cases Token.valueOf? key t <;> rfl

/-- **The last order, the last page.**  The order of a request is the last one that can be read
among those that its query string has, and none if there is no such order.  Either number of the
page is decided by the last of its values alone. -/
theorem latest_of_read {search : Text} {r : Request} (h : (read search).outcome = .ok r) :
    (∀ m, r.sorting = m ↔ Sorting.Latest (valuesOf search "order") m) ∧
      (∀ n, r.limit = n ↔ PageKey.Latest 50 (valuesOf search "limit") n) ∧
      ∀ n, r.offset = n ↔ PageKey.Latest 0 (valuesOf search "offset") n := by
  rw [read, splitTokens_eq] at h
  have hsorting := readTokens_part Request.sorting (by decide) sorting_apply h
  have hpage (key : PageKey) := readTokens_part (fun q => q.page key) (by cases key <;> decide)
    (fun q => page_apply q key) h
  refine ⟨fun m => ?_, fun n => ?_, fun n => ?_⟩
  · rw [Sorting.latest_iff, hsorting]
    rfl
  · rw [PageKey.latest_iff, show r.limit = r.page .limit from rfl, hpage .limit]
    rfl
  · rw [PageKey.latest_iff, show r.offset = r.page .offset from rfl, hpage .offset]
    rfl

/-- An order between two that are ignored, a limit that falls back to the default, and an offset,
around filters. -/
theorem latest_of_read_fallback :
    (read ("order=x:asc&limit=7&a=1&order=y:desc , ,z:asc" ++
        "&order=w:asc,v&limit=-1&offset=3&order=")).outcome =
        .ok ⟨⟨[("a", ⟨.equals, ["1"]⟩)]⟩, ⟨[("y", .descending), ("z", .ascending)]⟩, 50, 3⟩ ∧
      Sorting.Latest ["x:asc", "y:desc , ,z:asc", "w:asc,v"]
        ⟨[("y", .descending), ("z", .ascending)]⟩ ∧
      PageKey.Latest 50 ["7", "-1"] 50 ∧ PageKey.Latest 0 ["3"] 3 := by
  have h : (read ("order=x:asc&limit=7&a=1&order=y:desc , ,z:asc" ++
      "&order=w:asc,v&limit=-1&offset=3&order=")).outcome =
      .ok ⟨⟨[("a", ⟨.equals, ["1"]⟩)]⟩, ⟨[("y", .descending), ("z", .ascending)]⟩, 50, 3⟩ := by
    decide
  obtain ⟨hsorting, hlimit, hoffset⟩ := latest_of_read h
  exact ⟨h, (hsorting _).1 rfl, (hlimit _).1 rfl, (hoffset _).1 rfl⟩

end Request

end Listing
