import Mathlib
import Listing.Proofs.Sql.Values
import Listing.Proofs.Text.Splitting

/-!
# Conditions and clauses

What the compiler of requests writes, taken apart: the forms of a condition, and the clauses before
that of the page.  The text of a condition is made from the number of values that are bound for it,
and from nothing else of the values but whether the only value of an equality is the null word.
Here this is turned round: a condition has as many question marks as there are values bound for its
filter, provided that the column adds none of its own.
-/

namespace Listing.Sql

open Text

/-- The column that a condition is put on. -/
def Condition.column : Condition → Text
  | is column => column
  | equal column => column
  | among column _ => column
  | any column _ _ => column

/-! ### The condition of a filter -/

lemma testOf?_eq_none_iff {c : Comparison} : testOf? c = none ↔ c = .equals := by
  cases c <;> decide

lemma testOf?_eq_between_iff {c : Comparison} : testOf? c = some .between ↔ c = .between := by
  cases c <;> decide

lemma condition?_eq_none_iff {column : Text} {f : Filter} :
    condition? column f = none ↔ boundTexts f = [] := by
  rw [condition?]
  split
  · next h => simpa using h
  · next h =>
    have hne : boundTexts f ≠ [] := by simpa using h
    simp only [hne, iff_false]
    split
    · simp
    · split
      · simp
      · split <;> simp

/-- Where there is a condition, there are values to bind. -/
lemma boundTexts_ne_nil_of_condition? {column : Text} {f : Filter} {c : Condition}
    (h : condition? column f = some c) : boundTexts f ≠ [] := by
  intro hnil
  rw [condition?_eq_none_iff.2 hnil] at h
  cases h

/-- **The forms of a condition**, by the comparison and the number of bound values. -/
lemma condition?_cases {column : Text} {f : Filter} {c : Condition}
    (h : condition? column f = some c) :
    (∃ test, testOf? f.comparison = some test ∧
      c = .any column test ((boundTexts f).length / test.arity)) ∨
    (f.comparison = .equals ∧
      ((f.values = [Value.nullWord] ∧ c = .is column) ∨
        (∃ v, v ≠ Value.nullWord ∧ f.values = [v] ∧ c = .equal column) ∨
        (1 < f.values.length ∧ c = .among column f.values.length))) := by
  have hne := boundTexts_ne_nil_of_condition? h
  rw [condition?, if_neg (by simpa using hne)] at h
  cases htest : testOf? f.comparison with
  | some test =>
    rw [htest] at h
    exact .inl ⟨test, rfl, (Option.some.inj h).symm⟩
  | none =>
    have hequals := testOf?_eq_none_iff.1 htest
    have hbound : boundTexts f = f.values := boundTexts_of_ne_between (by simp [hequals])
    rw [htest, hbound] at h
    rw [hbound] at hne
    refine .inr ⟨hequals, ?_⟩
    by_cases hnull : f.values = [Value.nullWord]
    · rw [if_pos hnull] at h
      exact .inl ⟨hnull, (Option.some.inj h).symm⟩
    · rw [if_neg hnull] at h
      by_cases hone : f.values.length = 1
      · rw [if_pos hone] at h
        obtain ⟨v, hv⟩ := List.length_eq_one_iff.1 hone
        refine .inr (.inl ⟨v, ?_, hv, (Option.some.inj h).symm⟩)
        rintro rfl
        exact hnull hv
      · rw [if_neg hone] at h
        have hpos := List.length_pos_iff.2 hne
        exact .inr (.inr ⟨by omega, (Option.some.inj h).symm⟩)

lemma column_of_condition? {column : Text} {f : Filter} {c : Condition}
    (h : condition? column f = some c) : c.column = column := by
  obtain ⟨test, -, rfl⟩ | ⟨-, ⟨-, rfl⟩ | ⟨v, -, -, rfl⟩ | ⟨-, rfl⟩⟩ := condition?_cases h <;> rfl

/-- The bound values of a filter fill up its tests. -/
lemma arity_dvd_length_boundTexts {f : Filter} {test : Test}
    (h : testOf? f.comparison = some test) : test.arity ∣ (boundTexts f).length := by
  by_cases hbetween : f.comparison = .between
  · obtain rfl : test = .between := by simpa [hbetween] using h.symm
    exact two_dvd_length_boundTexts hbetween
  · have harity : test.arity = 1 := by
      cases test with
      | between => exact absurd (testOf?_eq_between_iff.1 h) hbetween
      | _ => rfl
    simp [harity]

/-- A condition has a placeholder for every bound value of its filter. -/
lemma placeholders_of_condition? {column : Text} {f : Filter} {c : Condition}
    (h : condition? column f = some c) : c.placeholders = (boundTexts f).length := by
  obtain ⟨test, htest, rfl⟩ | ⟨hequals, hc⟩ := condition?_cases h
  · exact Nat.div_mul_cancel (arity_dvd_length_boundTexts htest)
  · rw [boundTexts_of_ne_between (by simp [hequals])]
    obtain ⟨hv, rfl⟩ | ⟨v, -, hv, rfl⟩ | ⟨-, rfl⟩ := hc
    · rw [hv]
      rfl
    · rw [hv]
      rfl
    · rfl

@[simp] lemma conditions_nil : conditions ⟨[]⟩ = [] := rfl

lemma conditions_cons (e : Text × Filter) (entries : List (Text × Filter)) :
    conditions ⟨e :: entries⟩ = (condition? e.1 e.2).toList ++ conditions ⟨entries⟩ := by
  rw [conditions, List.filterMap_cons]
  cases condition? e.1 e.2 <;> rfl

/-! ### Clauses -/

/-- The clauses of a request before the page, each with a blank after it. -/
def clausesText (r : Request) : Text :=
  (clause "WHERE" (whereText r.filters) ++ clause "ORDER BY" (orderText r.sorting)).flatMap
    fun p => p ++ (" " : Text)

lemma text_eq (r : Request) : text r = clausesText r ++ pageText := by
  rw [text, joined_concat, clausesText]

lemma flatMap_clause (start t : Text) :
    (clause start t).flatMap (fun p => p ++ (" " : Text))
      = if t = [] then [] else start ++ ' ' :: (t ++ [' ']) := by
  cases t <;> simp [clause]

/-! ### Question marks in conditions -/

lemma Test.count_text (test : Test) : test.text.count '?' = test.arity := by
  cases test <;> decide

namespace Condition

@[simp] lemma alternatives_singleton (part : Text) : alternatives [part] = part := rfl

lemma alternatives_of_length_ne_one {parts : List Text} (h : parts.length ≠ 1) :
    alternatives parts = "(" ++ joined " OR " parts ++ ")" := by
  match parts, h with
  | [], _ => rfl
  | p :: q :: rest, _ => rfl

lemma count_alternatives (parts : List Text) :
    (alternatives parts).count '?' = (parts.map (List.count '?')).sum := by
  by_cases h : parts.length = 1
  · obtain ⟨part, rfl⟩ := List.length_eq_one_iff.1 h
    simp
  · have hjoined : (joined " OR " parts).count '?' = (parts.map (List.count '?')).sum :=
      count_joined (by simp) parts
    rw [alternatives_of_length_ne_one h, List.count_append, List.count_append, hjoined]
    simp

/-- A condition has as many question marks as placeholders. -/
lemma count_text {c : Condition} (h : '?' ∉ c.column) : c.text.count '?' = c.placeholders := by
  have hcolumn : c.column.count '?' = 0 := List.count_eq_zero_of_not_mem h
  cases c with
  | is name =>
    rw [Condition.column] at hcolumn
    simp [text, placeholders, hcolumn]
  | equal name =>
    rw [Condition.column] at hcolumn
    simp [text, placeholders, hcolumn]
  | among name count =>
    have hjoined : (joined ", " (List.replicate count "?")).count '?'
        = ((List.replicate count ("?" : Text)).map (List.count '?')).sum :=
      count_joined (by simp) _
    rw [Condition.column] at hcolumn
    rw [text, List.count_append, List.count_append, List.count_append, hcolumn, hjoined]
    simp [placeholders]
  | any name test count =>
    rw [Condition.column] at hcolumn
    simp [text, count_alternatives, placeholders, hcolumn, Test.count_text]

end Condition

/-- The conditions of filters have as many question marks as values are bound for them. -/
lemma count_conditions {entries : List (Text × Filter)} (hnames : ∀ e ∈ entries, '?' ∉ e.1) :
    ((conditions ⟨entries⟩).map fun c => c.text.count '?').sum = (bound entries).length := by
  induction entries with
  | nil => rfl
  | cons e entries ih =>
    have ih := ih fun e' he' => hnames e' (List.mem_cons_of_mem _ he')
    rw [conditions_cons, bound_cons, List.map_append, List.sum_append, ih, List.length_append,
      List.length_map]
    cases hc : condition? e.1 e.2 with
    | none => simp [condition?_eq_none_iff.1 hc]
    | some c =>
      have hcolumn : '?' ∉ c.column := by
        rw [column_of_condition? hc]
        exact hnames e (by simp)
      simp [Condition.count_text hcolumn, placeholders_of_condition? hc]

end Listing.Sql
