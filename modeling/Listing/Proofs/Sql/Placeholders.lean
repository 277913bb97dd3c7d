import Mathlib
import Listing.Proofs.Sql.Conditions

/-!
# Placeholders and the values bound to them

The text of a request and its values are made by two runs over the filters that know nothing of
each other.  They agree all the same: a question mark that stands before the page stands in the
condition of some filter, as many question marks are before that condition as values are bound for
the filters before it, and the value of the question mark is the next one of that filter.  For this
the names of fields, which are written as they are, must not hold question marks.
-/

namespace Listing.Sql

open Text

/-- What stands before the condition of a filter: the keyword, and the conditions of the filters
before it. -/
def whereStart (before : List (Text × Filter)) : Text :=
  "WHERE " ++ (conditions ⟨before⟩).flatMap fun c => c.text ++ (" AND " : Text)

lemma whereStart_eq (before : List (Text × Filter)) : whereStart before =
    "WHERE " ++ (conditions ⟨before⟩).flatMap fun c => c.text ++ (" AND " : Text) := rfl

/-- The start of a condition up to a placeholder of a range on a column: it ends in the words before
the low end if the placeholders so far are in pairs, and in those before the high end if not. -/
structure RangeStart (column start : Text) : Prop where
  low : start.count '?' % 2 = 0 → (column ++ " BETWEEN " : Text) <:+ start
  high : start.count '?' % 2 = 1 → (column ++ " BETWEEN ? AND " : Text) <:+ start

/-- The place of a question mark that has `left` before it and `right` after it in the conditions of
filters, where `v` is bound to it. -/
structure Place (m : Filters) (left right : Text) (v : Value) where
  /-- The filters before the one in whose condition the question mark stands. -/
  before : List (Text × Filter)
  /-- The name of its field. -/
  name : Text
  /-- The filter itself. -/
  filter : Filter
  /-- The filters after it. -/
  after : List (Text × Filter)
  entries : m.entries = before ++ (name, filter) :: after
  /-- The condition of the filter. -/
  condition : Condition
  condition_eq : condition? name filter = some condition
  /-- The condition up to the question mark. -/
  start : Text
  /-- The condition after the question mark. -/
  rest : Text
  text_eq : condition.text = start ++ '?' :: rest
  left_eq : left = whereStart before ++ start
  right_eq : rest <+: right
  /-- All values of the filters before are bound before. -/
  count_eq : left.count '?' = (bound before).length + start.count '?'
  /-- The value of the filter that is bound. -/
  raw : Text
  raw_eq : filter.values[start.count '?']? = some raw
  bind_eq : Value.bind filter.comparison raw = .ok v
  range : filter.comparison = .between → RangeStart name start

/-- The question marks of a fragment are the placeholders of its values. -/
structure Aligned (r : Request) (f : Fragment) : Prop where
  count : f.text.count '?' = f.values.length
  /-- The last two are those of the page. -/
  page : ∃ clauses vs, f.text = clauses ++ "LIMIT ? OFFSET ?" ∧
    f.values = vs ++ [.integer r.limit, .integer r.offset] ∧ clauses.count '?' = vs.length
  /-- The others have their places in the conditions of the filters. -/
  place : ∀ left right, f.text = left ++ '?' :: right → left.count '?' + 2 < f.values.length →
    ∃ v, f.values[left.count '?']? = some v ∧ Nonempty (Place r.filters left right v)

/-! ### Places in conditions -/

/-- A place in alternatives is in one of the parts, with whole parts before it. -/
lemma Condition.alternatives_eq_append_cons {parts : List Text} {left right : Text}
    (h : alternatives parts = left ++ '?' :: right) :
    ∃ before p after opening start rest, parts = before ++ p :: after ∧ p = start ++ '?' :: rest ∧
      left = opening ++ start ∧ opening.count '?' = (before.map (List.count '?')).sum := by
  by_cases hone : parts.length = 1
  · obtain ⟨part, rfl⟩ := List.length_eq_one_iff.1 hone
    exact ⟨[], part, [], [], left, right, rfl, h, rfl, rfl⟩
  · -- the place is in neither of the parentheses, so it is between them
    rw [alternatives_of_length_ne_one hone, List.append_assoc] at h
    rcases append_eq_append_cons h with ⟨rest, hparen, -⟩ | ⟨u, hleft, h⟩
    · exact absurd (show '?' ∈ ("(" : Text) by simp [hparen]) (by simp)
    · rcases append_eq_append_cons h with ⟨rest, hjoined, -⟩ | ⟨u', -, hparen⟩
      · obtain ⟨before, p, after, start, rest, hparts, hp, hu, -⟩ :=
          joined_eq_append_cons (by simp) hjoined
        refine ⟨before, p, after, "(" ++ before.flatMap fun q => q ++ (" OR " : Text), start, rest,
          hparts, hp, by rw [hleft, hu, List.append_assoc], ?_⟩
        simp [List.count_flatMap, Function.comp_def]
      · exact absurd (show '?' ∈ (")" : Text) by simp [hparen]) (by simp)

/-- A placeholder of one range test is that of its low end or that of its high end. -/
lemma range_eq_append_cons {name left right : Text} (hname : '?' ∉ name)
    (h : name ++ ' ' :: Test.between.text = left ++ '?' :: right) :
    left = name ++ " BETWEEN " ∨ left = name ++ " BETWEEN ? AND " := by
  have hlow : '?' ∉ (name ++ " BETWEEN " : Text) := by
    rw [List.mem_append, not_or]
    exact ⟨hname, by decide⟩
  have htext : name ++ ' ' :: Test.between.text
      = (name ++ " BETWEEN " : Text) ++ '?' :: (" AND ?" : Text) := by
    rw [List.append_assoc]
    rfl
  rw [htext] at h
  rcases append_cons_eq_append_cons hlow h with hleft | ⟨start, hleft, hy⟩
  · exact .inl hleft
  · have hhigh : (" AND ?" : Text) = (" AND " : Text) ++ '?' :: [] := by simp
    rw [hhigh] at hy
    rcases append_cons_eq_append_cons (by simp) hy with hstart | ⟨start', -, hnil⟩
    · exact .inr (by simp [hleft, hstart])
    · simp at hnil

lemma rangeStart_of_text {name start rest : Text} {count : ℕ} (hname : '?' ∉ name)
    (h : (Condition.any name .between count).text = start ++ '?' :: rest) :
    RangeStart name start := by
  obtain ⟨before, p, after, opening, u, w, hparts, hp, rfl, hopening⟩ :=
    Condition.alternatives_eq_append_cons h
  have hall : ∀ q ∈ before ++ p :: after, q = name ++ ' ' :: Test.between.text := by
    intro q hq
    rw [← hparts] at hq
    exact List.eq_of_mem_replicate hq
  have hname0 : name.count '?' = 0 := List.count_eq_zero_of_not_mem hname
  -- the ranges before the place have two placeholders each
  have hbefore : before.map (List.count '?') = List.replicate before.length 2 := by
    rw [List.eq_replicate_iff]
    refine ⟨by simp, fun n hn => ?_⟩
    obtain ⟨q, hq, rfl⟩ := List.mem_map.1 hn
    rw [hall q (by simp [hq])]
    simp [hname0, Test.count_text, Test.arity]
  rw [hbefore, List.sum_replicate, smul_eq_mul] at hopening
  rw [hall p (by simp)] at hp
  rcases range_eq_append_cons hname hp with rfl | rfl
  · have hcount : (opening ++ (name ++ " BETWEEN " : Text)).count '?' = before.length * 2 := by
      rw [List.count_append, List.count_append, hopening, hname0]
      rfl
    exact ⟨fun _ => List.suffix_append _ _, fun hodd => by omega⟩
  · have hcount : (opening ++ (name ++ " BETWEEN ? AND " : Text)).count '?'
        = before.length * 2 + 1 := by
      rw [List.count_append, List.count_append, hopening, hname0]
      rfl
    exact ⟨fun heven => by omega, fun _ => List.suffix_append _ _⟩

/-- A place in the conditions of filters is in the condition of one of them. -/
lemma whereText_eq_append_cons {m : Filters} {left right : Text}
    (h : whereText m = left ++ '?' :: right) :
    ∃ before name f after c start rest, m.entries = before ++ (name, f) :: after ∧
      condition? name f = some c ∧ c.text = start ++ '?' :: rest ∧
      "WHERE " ++ left = whereStart before ++ start ∧ rest <+: right := by
  obtain ⟨before, p, after, start, rest, hparts, hp, hleft, hrest⟩ :=
    joined_eq_append_cons (by simp) h
  -- the parts come from conditions, and these from filters, some of which are skipped
  obtain ⟨cs, cs', hsplit, hbefore, hafter⟩ := List.map_eq_append_iff.1 hparts
  obtain ⟨c, cs'', rfl, hc, -⟩ := List.map_eq_cons_iff.1 hafter
  obtain ⟨es, es', hentries, hes, hes'⟩ := List.filterMap_eq_append_iff.1 hsplit
  obtain ⟨skipped, e, after', rfl, hskipped, hcondition, -⟩ := List.filterMap_eq_cons_iff.1 hes'
  refine ⟨es ++ skipped, e.1, e.2, after', c, start, rest, by simp [hentries], hcondition,
    hc.trans hp, ?_, hrest⟩
  have hconditions : conditions ⟨es ++ skipped⟩ = cs := by
    rw [conditions, List.filterMap_append, hes, List.filterMap_eq_nil_iff.2 hskipped,
      List.append_nil]
  rw [whereStart_eq, hconditions, hleft, ← hbefore, List.flatMap_map, List.append_assoc]

/-! ### Question marks in the text of a request -/

lemma count_whereText {m : Filters} (hnames : ∀ e ∈ m.entries, '?' ∉ e.1) :
    (whereText m).count '?' = (bound m.entries).length := by
  rw [whereText, count_joined (by simp), List.map_map]
  exact count_conditions hnames

lemma count_whereStart {before : List (Text × Filter)} (hnames : ∀ e ∈ before, '?' ∉ e.1) :
    (whereStart before).count '?' = (bound before).length := by
  have hand (c : Condition) : (c.text ++ (" AND " : Text)).count '?' = c.text.count '?' := by
    rw [List.count_append]
    rfl
  rw [whereStart_eq, List.count_append, List.count_flatMap, ← count_conditions hnames]
  simp only [Function.comp_def, hand]
  exact Nat.zero_add _

lemma not_mem_orderText {m : Sorting} (hnames : ∀ e ∈ m.entries, '?' ∉ e.1) :
    '?' ∉ orderText m := by
  have hparts : ∀ p ∈ (m.entries.filter fun e => !blank e.1).map
      (fun e => e.1 ++ ' ' :: keyword e.2), ∀ c ∈ p, c ≠ '?' := by
    intro p hp
    obtain ⟨e, he, rfl⟩ := List.mem_map.1 hp
    have hname : '?' ∉ e.1 := hnames e (List.mem_filter.1 he).1
    have hkeyword : '?' ∉ keyword e.2 := by cases e.2 <;> decide
    intro c hc heq
    subst heq
    simp only [List.mem_append, List.mem_cons, hname, hkeyword, or_false, false_or] at hc
    exact absurd hc (by decide)
  exact fun h => forall_mem_joined (by simp) hparts '?' h rfl

/-- The names of a request are those of its filters and of its sort fields. -/
lemma forall_fieldNames {r : Request} {P : Text → Prop} :
    (∀ name ∈ r.fieldNames, P name) ↔
      (∀ e ∈ r.filters.entries, P e.1) ∧ ∀ e ∈ r.sorting.entries, P e.1 := by
  simp only [Request.fieldNames, Fields.names, List.mem_append, or_imp, forall_and,
    List.forall_mem_map]

lemma count_clause {start t : Text} (h : '?' ∉ start) :
    ((clause start t).flatMap fun p => p ++ (" " : Text)).count '?' = t.count '?' := by
  rw [flatMap_clause]
  split
  · next ht => simp [ht]
  · simp [List.count_eq_zero_of_not_mem h]

lemma count_clausesText {r : Request} (hnames : ∀ name ∈ r.fieldNames, '?' ∉ name) :
    (clausesText r).count '?' = (bound r.filters.entries).length := by
  obtain ⟨hfilters, hsorting⟩ := forall_fieldNames.1 hnames
  rw [clausesText, List.flatMap_append, List.count_append, count_clause (by decide),
    count_clause (by decide), count_whereText hfilters,
    List.count_eq_zero_of_not_mem (not_mem_orderText hsorting), Nat.add_zero]

/-- The question marks before the page are in the conditions of the filters. -/
lemma clausesText_eq_append_cons {r : Request} (hnames : ∀ name ∈ r.fieldNames, '?' ∉ name)
    {left right : Text} (h : clausesText r = left ++ '?' :: right) :
    ∃ left' rest, left = "WHERE " ++ left' ∧ whereText r.filters = left' ++ '?' :: rest ∧
      rest <+: right := by
  obtain ⟨hfilters, hsorting⟩ := forall_fieldNames.1 hnames
  rw [clausesText, List.flatMap_append] at h
  rcases append_eq_append_cons h with ⟨rest, hwhere, hright⟩ | ⟨start, -, horder⟩
  · -- neither the keyword of the clause nor the blank after it holds the place
    rw [flatMap_clause] at hwhere
    split at hwhere
    · simp at hwhere
    · have hstart : ("WHERE" : Text) ++ ' ' :: (whereText r.filters ++ [' '])
          = ("WHERE " : Text) ++ (whereText r.filters ++ [' ']) := rfl
      rw [hstart] at hwhere
      rcases append_eq_append_cons hwhere with ⟨rest', hword, -⟩ | ⟨left', hleft, hwhere⟩
      · exact absurd (show '?' ∈ ("WHERE " : Text) by simp [hword]) (by decide)
      · rcases append_eq_append_cons hwhere with ⟨rest', hwhere, hrest⟩ | ⟨start, -, hblank⟩
        · refine ⟨left', rest', hleft, hwhere, ?_⟩
          rw [hright, hrest, List.append_assoc]
          exact List.prefix_append _ _
        · exact absurd (show '?' ∈ [' '] by simp [hblank]) (by decide)
  · have hnone : ((clause "ORDER BY" (orderText r.sorting)).flatMap
        fun p => p ++ (" " : Text)).count '?' = (orderText r.sorting).count '?' :=
      count_clause (by decide)
    rw [List.count_eq_zero_of_not_mem (not_mem_orderText hsorting), horder] at hnone
    simp at hnone

/-! ### Values in their places -/

lemma getElem?_bound {before after : List (Text × Filter)} {name : Text} {f : Filter} {i : ℕ}
    {raw : Text} (h : (boundTexts f)[i]? = some raw) :
    (bound (before ++ (name, f) :: after))[(bound before).length + i]?
      = some (f.comparison, raw) := by
  have hi : i < ((boundTexts f).map fun t => (f.comparison, t)).length := by
    simpa using (List.getElem?_eq_some_iff.1 h).1
  rw [bound_append, bound_cons, List.getElem?_append_right (by omega), Nat.add_sub_cancel_left,
    List.getElem?_append_left hi, List.getElem?_map, h]
  rfl

lemma getElem?_of_forall₂ {α β : Type} {R : α → β → Prop} {xs : List α} {ys : List β}
    (h : List.Forall₂ R xs ys) {i : ℕ} {x : α} (hx : xs[i]? = some x) :
    ∃ y, ys[i]? = some y ∧ R x y := by
  induction h generalizing i with
  | nil => simp at hx
  | @cons x' y' xs ys hxy hrest ih =>
    cases i with
    | zero =>
      obtain rfl : x' = x := by simpa using hx
      exact ⟨y', rfl, hxy⟩
    | succ i => exact ih hx

/-- The condition in whose text a place is has a value bound at this place. -/
lemma exists_raw {name : Text} {f : Filter} {c : Condition} {start rest : Text}
    (hname : '?' ∉ name) (hc : condition? name f = some c) (htext : c.text = start ++ '?' :: rest) :
    ∃ raw, (boundTexts f)[start.count '?']? = some raw := by
  have hcolumn : '?' ∉ c.column := by rwa [column_of_condition? hc]
  have hcount := Condition.count_text hcolumn
  rw [placeholders_of_condition? hc, htext, List.count_append, List.count_cons_self] at hcount
  exact ⟨_, List.getElem?_eq_getElem (by omega)⟩

/-- A question mark in the conditions has its place in one of them, and the value there. -/
lemma exists_place {m : Filters} (hnames : ∀ e ∈ m.entries, '?' ∉ e.1) {ws : List Value}
    (hws : List.Forall₂ (fun b v => Value.bind b.1 b.2 = .ok v) (bound m.entries) ws)
    {left rest right : Text} (h : whereText m = left ++ '?' :: rest) (hrest : rest <+: right) :
    ∃ v, ws[left.count '?']? = some v ∧ Nonempty (Place m ("WHERE " ++ left) right v) := by
  obtain ⟨before, name, g, after, c, start, rest', hentries, hc, htext, hstart, hrest'⟩ :=
    whereText_eq_append_cons h
  have hname : '?' ∉ name := hnames (name, g) (by simp [hentries])
  have hbefore : (whereStart before).count '?' = (bound before).length :=
    count_whereStart fun e he => hnames e (by simp [hentries, he])
  obtain ⟨raw, hraw⟩ := exists_raw hname hc htext
  have hcount : left.count '?' = (bound before).length + start.count '?' := by
    have hwhere := congrArg (List.count '?') hstart
    rw [List.count_append, List.count_append, hbefore] at hwhere
    exact (Nat.zero_add _).symm.trans hwhere
  obtain ⟨v, hv, hbind⟩ := getElem?_of_forall₂ hws (hentries ▸ getElem?_bound hraw)
  rw [hcount]
  refine ⟨v, hv, ⟨{
    before := before
    name := name
    filter := g
    after := after
    entries := hentries
    condition := c
    condition_eq := hc
    start := start
    rest := rest'
    text_eq := htext
    left_eq := hstart
    right_eq := hrest'.trans hrest
    count_eq := ?_
    raw := raw
    raw_eq := getElem?_of_boundTexts hraw
    bind_eq := hbind
    range := fun hbetween => ?_ }⟩⟩
  · rw [List.count_append, hcount]
    exact Nat.zero_add _
  · obtain ⟨test, htest, rfl⟩ | ⟨hequals, -⟩ := condition?_cases hc
    · obtain rfl : test = .between := by simpa [hbetween] using htest.symm
      exact rangeStart_of_text hname htext
    · simp [hbetween] at hequals

/-- **Placeholders and values are aligned.**  A compiled request has a value for every question mark
of its text; those of the page come last, and each of the others stands in the condition of the
filter that its value is taken from. -/
theorem aligned_of_compile {r : Request} {f : Fragment} (hnames : ∀ name ∈ r.fieldNames, '?' ∉ name)
    (h : compile r = .ok f) : Aligned r f := by
  obtain ⟨htext, hvalues⟩ := compile_eq_ok_iff.1 h
  obtain ⟨-, -, ws, hws, hvs⟩ := values_eq_ok_iff.1 hvalues
  obtain ⟨hfilters, -⟩ := forall_fieldNames.1 hnames
  have hcount : (clausesText r).count '?' = ws.length :=
    (count_clausesText hnames).trans hws.length_eq
  rw [text_eq] at htext
  refine ⟨?_, ⟨_, ws, htext, hvs, hcount⟩, fun left right hplace hleft => ?_⟩
  · rw [htext, hvs, List.count_append, hcount, List.length_append]
    rfl
  · have hlt : left.count '?' < ws.length := by simpa [hvs] using hleft
    rw [htext] at hplace
    rw [hvs, List.getElem?_append_left hlt]
    rcases append_eq_append_cons hplace with ⟨rest, hclauses, hright⟩ | ⟨start, rfl, -⟩
    · obtain ⟨left', rest', rfl, hwhere, hrest⟩ := clausesText_eq_append_cons hnames hclauses
      have hprefix : rest' <+: right := hrest.trans (hright ▸ List.prefix_append _ _)
      obtain ⟨v, hv, hvplace⟩ := exists_place hfilters hws hwhere hprefix
      refine ⟨v, ?_, hvplace⟩
      rw [List.count_append]
      exact (congrArg (ws[·]?) (Nat.zero_add _)).trans hv
    · -- a place in the page has all values of the filters before it
      rw [List.count_append, hcount] at hlt
      omega

/-- The null word alone, a range with an odd last value, a filter without values, a list with the
null word in it, and a question mark among the values. -/
theorem aligned_of_compile_mixed :
    Aligned
      { filters := ⟨[("a", ⟨.equals, ["null"]⟩), ("b", ⟨.between, ["1", "2.5", "3"]⟩),
          ("c", ⟨.contains, []⟩), ("d", ⟨.equals, ["x", "null"]⟩), ("e", ⟨.endsWith, ["?"]⟩)]⟩
        sorting := ⟨[("n", .descending)]⟩
        limit := 20 }
      { text := "WHERE a IS ? AND b BETWEEN ? AND ? AND d IN (?, ?) AND e LIKE ? " ++
          "ORDER BY n DESC LIMIT ? OFFSET ?"
        values := [.null, .integer 1, .real (.ofRatio false 5 2), .text "x", .null, .text "%?",
          .integer 20, .integer 0] } :=
  aligned_of_compile (by decide) (by decide +kernel)

end Listing.Sql
