import Mathlib
import Listing.Proofs.Sql.Truth

/-!
# Several values of one filter

A filter with several values is meant to keep the rows that one of its values would keep by itself,
and it does, for every comparison and every row, but for one case: an equality with several values
cannot find null by the null word among them, since what is compared with null is not true, while
the null word alone is asked for in a way that finds it.  `keeps_iff_exists_part` says exactly this.
-/

namespace Listing.Sql

variable {Datum : Type} {e : Engine Datum} {row : Text → Option Datum} {column : Text} {f : Filter}
  {vs : List Value}

/-- The number of values that a comparison is made with. -/
def partSize (c : Comparison) : ℕ :=
  if c = .between then 2 else 1

/-- The filters that a filter is made of: each has one of its values, or one complete range. -/
def parts (f : Filter) : List Filter :=
  (groups (partSize f.comparison) (f.values.length / partSize f.comparison) f.values).map
    fun vs => ⟨f.comparison, vs⟩

example : parts ⟨.equals, ["1", "2"]⟩ = [⟨.equals, ["1"]⟩, ⟨.equals, ["2"]⟩] ∧
    parts ⟨.between, ["1", "2", "3", "4", "5"]⟩
      = [⟨.between, ["1", "2"]⟩, ⟨.between, ["3", "4"]⟩] := by
  decide

/-- A filter on a column keeps a row if its values can be bound and its condition is true then;
where it makes no condition, there is none to fail. -/
def Keeps (e : Engine Datum) (row : Text → Option Datum) (column : Text) (f : Filter) : Prop :=
  ∃ vs, valuesOf f = .ok vs ∧ ∀ c ∈ condition? column f, c.truth e row vs = .yes

instance [DecidableEq Datum] : Decidable (Keeps e row column f) :=
  match hvs : valuesOf f with
  | .error _ => isFalse fun h => by simp [Keeps, hvs] at h
  | .ok vs =>
    decidable_of_iff (∀ c ∈ condition? column f, c.truth e row vs = .yes) (by simp [Keeps, hvs])

/-- A filter on a column keeps a row, going by the text of its condition: the text is cut into
lexemes, which stand for a tree in the grammar, and the tree is true. -/
def KeepsByText (e : Engine Datum) (row : Text → Option Datum) (column : Text) (f : Filter) :
    Prop :=
  ∃ vs, valuesOf f = .ok vs ∧ ∀ c ∈ condition? column f, ∃ ls g, Lexeme.read c.text = some ls ∧
    Derives .disjunction ls g ∧ (g.truth e row vs).1 = .yes

/-- An equality with several values, the null word among them, which does not find null. -/
def MissesNull (f : Filter) : Prop :=
  f.comparison = .equals ∧ 1 < f.values.length ∧ Value.nullWord ∈ f.values

instance : Decidable (MissesNull f) :=
  inferInstanceAs (Decidable (_ ∧ _ ∧ _))

/-! ### Groups -/

section Groups

variable {α β : Type}

@[simp] lemma length_groups (size count : ℕ) (xs : List α) :
    (groups size count xs).length = count := by
  induction count generalizing xs with
  | zero => rfl
  | succ count ih => rw [groups, List.length_cons, ih]

@[simp] lemma groups_one (xs : List α) : groups 1 xs.length xs = xs.map fun x => [x] := by
  induction xs with
  | nil => rfl
  | cons x xs ih => simpa [groups] using ih

lemma length_of_mem_groups {size count : ℕ} {xs : List α} (h : count * size ≤ xs.length)
    {g : List α} (hg : g ∈ groups size count xs) : g.length = size := by
  induction count generalizing xs with
  | zero => simp [groups] at hg
  | succ count ih =>
    rw [Nat.succ_mul] at h
    rcases List.mem_cons.1 hg with rfl | hg
    · rw [List.length_take]
      omega
    · exact ih (by rw [List.length_drop]; omega) hg

/-- Further elements come in further groups. -/
lemma groups_append {size count : ℕ} {xs : List α} (h : count * size ≤ xs.length) (zs : List α)
    (more : ℕ) : groups size count xs <+: groups size (count + more) (xs ++ zs) := by
  induction count generalizing xs with
  | zero => exact List.nil_prefix
  | succ count ih =>
    rw [Nat.succ_mul] at h
    rw [Nat.add_right_comm, groups, groups, List.take_append_of_le_length (by omega),
      List.drop_append_of_le_length (by omega), List.prefix_cons_inj]
    exact ih (by rw [List.length_drop]; omega)

lemma forall₂_groups {R : α → β → Prop} {xs : List α} {ys : List β} (h : List.Forall₂ R xs ys)
    (size count : ℕ) :
    List.Forall₂ (List.Forall₂ R) (groups size count xs) (groups size count ys) := by
  induction count generalizing xs ys with
  | zero => exact .nil
  | succ count ih => exact .cons (List.forall₂_take size h) (ih (List.forall₂_drop size h))

/-- What holds of one of some elements holds of one of those that are related to them. -/
lemma exists_mem_iff_of_forall₂ {R : α → β → Prop} {P : α → Prop} {Q : β → Prop} {xs : List α}
    {ys : List β} (hall : List.Forall₂ R xs ys) (h : ∀ x ∈ xs, ∀ y, R x y → (P x ↔ Q y)) :
    (∃ x ∈ xs, P x) ↔ ∃ y ∈ ys, Q y := by
  induction hall with
  | nil => simp
  | @cons x y xs ys hxy _ ih =>
    have hrest := ih fun x' hx' => h x' (List.mem_cons_of_mem _ hx')
    rw [List.exists_mem_cons_iff, List.exists_mem_cons_iff, h x (by simp) y hxy, hrest]

end Groups

/-! ### The parts of a filter -/

lemma partSize_eq_arity {c : Comparison} {t : Test} (h : testOf? c = some t) :
    partSize c = t.arity := by
  cases c <;> cases h <;> rfl

lemma partSize_ne_between {c : Comparison} (h : c ≠ .between) : partSize c = 1 :=
  if_neg h

lemma parts_of_ne_between (h : f.comparison ≠ .between) :
    parts f = f.values.map fun v => ⟨f.comparison, [v]⟩ := by
  rw [parts, partSize_ne_between h, Nat.div_one, groups_one, List.map_map]
  rfl

/-- The bound values are those of the complete parts. -/
lemma length_boundTexts_div (f : Filter) :
    (boundTexts f).length / partSize f.comparison = f.values.length / partSize f.comparison := by
  by_cases h : f.comparison = .between
  · rw [boundTexts_between h, List.length_take, partSize, if_pos h]
    omega
  · rw [boundTexts_of_ne_between h]

lemma parts_eq_of_bound (f : Filter) :
    parts f = (groups (partSize f.comparison) ((boundTexts f).length / partSize f.comparison)
      (boundTexts f)).map fun vs => ⟨f.comparison, vs⟩ := by
  obtain ⟨rest, hrest⟩ := boundTexts_prefix f
  have hstart := groups_append (Nat.div_mul_le_self (boundTexts f).length (partSize f.comparison))
    rest 0
  rw [hrest, Nat.add_zero] at hstart
  rw [parts, ← length_boundTexts_div,
    hstart.eq_of_length (by rw [length_groups, length_groups])]

lemma boundTexts_ne_nil (h : parts f ≠ []) : boundTexts f ≠ [] := by
  intro hnil
  rw [parts_eq_of_bound, hnil, List.length_nil, Nat.zero_div] at h
  exact h rfl

/-- A filter with further values has further parts. -/
lemma parts_append (f : Filter) (more : List Text) :
    parts f <+: parts { f with values := f.values ++ more } := by
  have hcount : f.values.length / partSize f.comparison
      ≤ (f.values ++ more).length / partSize f.comparison :=
    Nat.div_le_div_right (by simp)
  obtain ⟨extra, hextra⟩ := Nat.exists_eq_add_of_le hcount
  rw [parts, parts]
  exact hextra ▸ (groups_append (Nat.div_mul_le_self _ _) more extra).map _

/-! ### The rows that a filter keeps -/

/-- A condition is as true as its text is. -/
lemma keepsByText_iff (hcolumn : IsIdentifier column) :
    KeepsByText e row column f ↔ Keeps e row column f := by
  refine exists_congr fun vs => and_congr_right fun hvs => forall₂_congr fun c hc => ?_
  have hlength : vs.length = c.placeholders := by
    rw [placeholders_of_condition? hc]
    exact (mapM_eq_ok_iff.1 hvs).length_eq.symm
  obtain ⟨ls, g, hread, hderives, htruth⟩ :
      ∃ ls g, Lexeme.read c.text = some ls ∧ (∀ g', Derives .disjunction ls g' ↔ g' = g) ∧
        (g.truth e row vs).1 = c.truth e row vs := truth_eq_of_derives hcolumn hc hlength
  rw [← htruth]
  constructor
  · rintro ⟨ls', g', hread', hderives', hyes⟩
    obtain rfl := Option.some.inj (hread.symm.trans hread')
    rwa [(hderives g').1 hderives'] at hyes
  · intro hyes
    exact ⟨ls, g, hread, (hderives g).2 rfl, hyes⟩

lemma keeps_iff (hvs : valuesOf f = .ok vs) {c : Condition} (hc : condition? column f = some c) :
    Keeps e row column f ↔ c.truth e row vs = .yes := by
  simp [Keeps, hvs, hc]

/-- A filter that makes tests keeps a row if one of them is true. -/
lemma keeps_iff_exists_test {t : Test} (ht : testOf? f.comparison = some t)
    (hvs : valuesOf f = .ok vs) (hne : boundTexts f ≠ []) :
    Keeps e row column f ↔ ∃ g ∈ groups t.arity ((boundTexts f).length / t.arity) vs,
      e.test column (row column) t.predicate (g.map e.stored) = .yes := by
  have hc : condition? column f = some (.any column t ((boundTexts f).length / t.arity)) := by
    rw [condition?, if_neg (by simpa using hne), ht]
  rw [keeps_iff hvs hc, Condition.truth, Truth.any_eq_yes_iff, List.mem_map]

/-- A filter that makes one test keeps a row if the test is true. -/
lemma keeps_iff_test {c : Comparison} {t : Test} (ht : testOf? c = some t) {g : List Text}
    (hg : g.length = t.arity) {ws : List Value}
    (hbind : List.Forall₂ (fun x v => Value.bind c x = .ok v) g ws) :
    Keeps e row column ⟨c, g⟩ ↔
      e.test column (row column) t.predicate (ws.map e.stored) = .yes := by
  have hpos : 0 < t.arity := by cases t <;> decide
  -- a range that is a part has no odd last value, so all of it is bound
  have hbound : boundTexts ⟨c, g⟩ = g := by
    have hstart := boundTexts_prefix ⟨c, g⟩
    refine hstart.eq_of_length ?_
    by_cases hbetween : c = .between
    · obtain rfl : t = .between := by simpa [hbetween] using ht.symm
      rw [boundTexts_between hbetween, List.length_take, hg]
      rfl
    · rw [boundTexts_of_ne_between hbetween]
  have hvs : valuesOf ⟨c, g⟩ = .ok ws := by
    rw [valuesOf, hbound]
    exact mapM_eq_ok_iff.2 hbind
  have hne : boundTexts ⟨c, g⟩ ≠ [] := by
    rw [hbound]
    exact List.ne_nil_of_length_pos (hg ▸ hpos)
  have hone : groups t.arity 1 ws = [ws] := by
    rw [groups, groups, List.take_of_length_le (hbind.length_eq ▸ hg.le)]
  rw [keeps_iff_exists_test ht hvs hne, hbound, hg, Nat.div_self hpos, hone]
  simp

/-- Tests are alternatives. -/
lemma keeps_iff_exists_part_of_testOf? {t : Test} (ht : testOf? f.comparison = some t)
    (hvs : valuesOf f = .ok vs) (hparts : parts f ≠ []) :
    Keeps e row column f ↔ ∃ p ∈ parts f, Keeps e row column p := by
  rw [keeps_iff_exists_test ht hvs (boundTexts_ne_nil hparts), parts_eq_of_bound,
    partSize_eq_arity ht]
  simp only [List.mem_map, exists_exists_and_eq_and]
  refine (exists_mem_iff_of_forall₂ (forall₂_groups (mapM_eq_ok_iff.1 hvs) _ _) ?_).symm
  intro g hg ws hbind
  exact keeps_iff_test ht (length_of_mem_groups (Nat.div_mul_le_self _ _) hg) hbind

/-- An equality with one value finds null by the null word, and by no other. -/
lemma keeps_equals_iff {v : Text} {y : Value} (hy : Value.bind .equals v = .ok y) :
    Keeps e row column ⟨.equals, [v]⟩ ↔
      if v = Value.nullWord then row column = none
      else e.compare column (· == .eq) (row column) (e.stored y) = .yes := by
  have hvs : valuesOf ⟨.equals, [v]⟩ = .ok [y] := mapM_eq_ok_iff.2 (.cons hy .nil)
  split
  · next hnull =>
    obtain rfl := hnull
    obtain rfl : Value.null = y := Except.ok.inj hy
    rw [keeps_iff hvs rfl, Condition.truth, List.map_singleton, e.stored_null]
    exact e.same_none_eq_yes_iff column
  · next hnull =>
    have hc : condition? column ⟨.equals, [v]⟩ = some (.equal column) := by
      simp [condition?, boundTexts, hnull]
    rw [keeps_iff hvs hc]
    rfl

/-- In a row where the column is null, an equality with one value is true of the null word only. -/
lemma eq_nullWord_of_keeps_equals {v : Text} (hcell : row column = none)
    (h : Keeps e row column ⟨.equals, [v]⟩) : v = Value.nullWord := by
  obtain ⟨ws, hws, -⟩ := id h
  obtain ⟨y, -, hy, -⟩ := List.forall₂_cons_left_iff.1 (mapM_eq_ok_iff.1 hws)
  by_contra hne
  rw [keeps_equals_iff hy, if_neg hne] at h
  exact e.compare_ne_yes column (.inl hcell) h

/-- An equality with several values keeps a row if one of them compares equal. -/
lemma keeps_equals_many_iff (hequals : f.comparison = .equals) (hmany : 1 < f.values.length)
    (hvs : valuesOf f = .ok vs) :
    Keeps e row column f ↔
      ∃ y ∈ vs, e.compare column (· == .eq) (row column) (e.stored y) = .yes := by
  have hbound : boundTexts f = f.values := boundTexts_of_ne_between (by simp [hequals])
  have hc : condition? column f = some (.among column f.values.length) := by
    have hnull : f.values ≠ [Value.nullWord] := fun h => by simp [h] at hmany
    have hne : f.values ≠ [] := List.ne_nil_of_length_pos (by omega)
    simp [condition?, hbound, hequals, hnull, hne, hmany.ne']
  rw [keeps_iff hvs hc]
  simp only [Condition.truth, Engine.test, Truth.any_eq_yes_iff, List.mem_map,
    exists_exists_and_eq_and]

/-- An equality with several values keeps what the equalities with one of them keep, but for null
that the null word alone would find. -/
lemma keeps_equals_iff_exists_part (hequals : f.comparison = .equals) (hmany : 1 < f.values.length)
    (hvs : valuesOf f = .ok vs) :
    Keeps e row column f ↔
      (∃ p ∈ parts f, Keeps e row column p) ∧ ¬(row column = none ∧ MissesNull f) := by
  have hbind : List.Forall₂ (fun x v => Value.bind .equals x = .ok v) f.values vs := by
    rw [valuesOf, boundTexts_of_ne_between (by simp [hequals]), hequals] at hvs
    exact mapM_eq_ok_iff.1 hvs
  rw [keeps_equals_many_iff hequals hmany hvs, parts_of_ne_between (by simp [hequals]), hequals]
  simp only [List.mem_map, exists_exists_and_eq_and]
  by_cases hcell : row column = none
  · -- nothing compares with null, so only the null word could have found it
    refine iff_of_false ?_ ?_
    · rintro ⟨y, -, hy⟩
      exact e.compare_ne_yes column (.inl hcell) hy
    · rintro ⟨⟨v, hv, hkeeps⟩, hfound⟩
      obtain rfl := eq_nullWord_of_keeps_equals hcell hkeeps
      exact hfound ⟨hcell, hequals, hmany, hv⟩
  · rw [and_iff_left fun h => hcell h.1]
    refine (exists_mem_iff_of_forall₂ hbind fun v _ y hy => ?_).symm
    rw [keeps_equals_iff hy]
    split
    · next hnull =>
      obtain rfl := hnull
      obtain rfl : Value.null = y := Except.ok.inj hy
      exact iff_of_false hcell (e.compare_ne_yes column (.inr e.stored_null))
    · rfl

/-- A filter keeps a row if one of its parts does, unless it misses null. -/
lemma keeps_iff_exists_part_of_bindable (hvs : valuesOf f = .ok vs) (hparts : parts f ≠ []) :
    Keeps e row column f ↔
      (∃ p ∈ parts f, Keeps e row column p) ∧ ¬(row column = none ∧ MissesNull f) := by
  cases ht : testOf? f.comparison with
  | some t =>
    have hmisses : ¬MissesNull f := fun h => by simp [h.1] at ht
    rw [keeps_iff_exists_part_of_testOf? ht hvs hparts, and_iff_left fun h => hmisses h.2]
  | none =>
    have hequals := testOf?_eq_none_iff.1 ht
    by_cases hmany : 1 < f.values.length
    · exact keeps_equals_iff_exists_part hequals hmany hvs
    · have hlength : f.values.length = 1 := by
        have hpos : 0 < f.values.length := by
          rw [← boundTexts_of_ne_between (f := f) (by simp [hequals])]
          exact List.length_pos_iff.2 (boundTexts_ne_nil hparts)
        omega
      obtain ⟨v, hv⟩ := List.length_eq_one_iff.1 hlength
      -- a single value makes the filter its only part, and it asks for null as that does
      have hself : parts f = [f] := by
        rw [parts_of_ne_between (by simp [hequals]), hv, List.map_singleton, ← hv]
      rw [hself, and_iff_left fun h => hmany h.2.2.1]
      simp

/-- **Several values of one filter.**  A filter that has a part keeps a row exactly if one of its
parts does, except that an equality with several values does not find null by the null word among
them.  So further values remove a row only if the column is null and they make the filter miss it.
If the name of the column can stand in a statement, it is all the same to go by the text of the
condition. -/
theorem keeps_iff_exists_part (hvs : valuesOf f = .ok vs) (hparts : parts f ≠ []) :
    (Keeps e row column f ↔
      (∃ p ∈ parts f, Keeps e row column p) ∧ ¬(row column = none ∧ MissesNull f)) ∧
    (∀ more ws, valuesOf { f with values := f.values ++ more } = .ok ws → Keeps e row column f →
      (Keeps e row column { f with values := f.values ++ more } ↔
        ¬(row column = none ∧ MissesNull { f with values := f.values ++ more }))) ∧
    (IsIdentifier column → (KeepsByText e row column f ↔
      (∃ p ∈ parts f, KeepsByText e row column p) ∧ ¬(row column = none ∧ MissesNull f))) := by
  have hself : Keeps e row column f ↔
      (∃ p ∈ parts f, Keeps e row column p) ∧ ¬(row column = none ∧ MissesNull f) :=
    keeps_iff_exists_part_of_bindable hvs hparts
  refine ⟨hself, fun more ws hws hkeeps => ?_, fun hcolumn => ?_⟩
  · have hstart := parts_append f more
    obtain ⟨⟨p, hp, hkept⟩, -⟩ := hself.1 hkeeps
    have hmore : parts { f with values := f.values ++ more } ≠ [] :=
      List.ne_nil_of_mem (hstart.subset hp)
    rw [keeps_iff_exists_part_of_bindable hws hmore]
    exact and_iff_right ⟨p, hstart.subset hp, hkept⟩
  · simp only [keepsByText_iff hcolumn, hself]

/-- Seven is in the second of two ranges, and a third range does not change that. -/
theorem keeps_iff_exists_part_ranges :
    valuesOf ⟨.between, ["1", "3", "5", "9"]⟩
        = .ok [.integer 1, .integer 3, .integer 5, .integer 9] ∧
      parts ⟨.between, ["1", "3", "5", "9"]⟩ ≠ [] ∧
      Keeps .ofInts (fun _ => some 7) "age" ⟨.between, ["1", "3", "5", "9"]⟩ ∧
      Keeps .ofInts (fun _ => some 7) "age" ⟨.between, ["1", "3", "5", "9", "20", "null"]⟩ ∧
      KeepsByText .ofInts (fun _ => some 7) "age" ⟨.between, ["1", "3", "5", "9"]⟩ := by
  have hvs : valuesOf ⟨.between, ["1", "3", "5", "9"]⟩
      = .ok [.integer 1, .integer 3, .integer 5, .integer 9] := by
    decide +kernel
  have hmore : valuesOf ⟨.between, ["1", "3", "5", "9", "20", "null"]⟩
      = .ok [.integer 1, .integer 3, .integer 5, .integer 9, .integer 20, .null] := by
    decide +kernel
  have hparts : parts ⟨.between, ["1", "3", "5", "9"]⟩ ≠ [] := by decide
  have hkept : Keeps .ofInts (fun _ => some 7) "age" ⟨.between, ["1", "3", "5", "9"]⟩ :=
    (keeps_iff_exists_part hvs hparts).1.2
      ⟨⟨⟨.between, ["5", "9"]⟩, by decide, by decide⟩, by decide⟩
  have hcolumn : IsIdentifier "age" := by decide
  have hpart : KeepsByText .ofInts (fun _ => some 7) "age" ⟨.between, ["5", "9"]⟩ :=
    (keepsByText_iff hcolumn).2 (by decide)
  exact ⟨hvs, hparts, hkept,
    ((keeps_iff_exists_part hvs hparts).2.1 ["20", "null"] _ hmore hkept).2 (by decide),
    ((keeps_iff_exists_part hvs hparts).2.2 hcolumn).2 ⟨⟨_, by decide, hpart⟩, by decide⟩⟩

/-- Null is not among null and one, but it is what the null word alone asks for. -/
theorem not_keeps_iff_of_null_among :
    ¬(Keeps .ofInts (fun _ => none) "age" ⟨.equals, ["null", "1"]⟩ ↔
      ∃ p ∈ parts ⟨.equals, ["null", "1"]⟩, Keeps .ofInts (fun _ => none) "age" p) := by
  intro h
  have hkept : Keeps .ofInts (fun _ => none) "age" ⟨.equals, ["null"]⟩ := by decide
  have hmissed : ¬Keeps .ofInts (fun _ => none) "age" ⟨.equals, ["null", "1"]⟩ := by decide
  exact hmissed (h.2 ⟨_, by decide, hkept⟩)

end Listing.Sql
