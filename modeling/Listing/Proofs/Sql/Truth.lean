import Mathlib
import Listing.Proofs.Sql.Reading

/-!
# When a condition is true

Conditions have three truth values: a comparison with null is neither true nor false, and a row is
kept only if its condition is true.  How two values compare that are not null is left to the
database, and may depend on the column.

The truth of a condition is defined on the condition itself and on the values bound to it.  It is
also defined on the trees of the grammar, where every test takes its values from those left over by
the tests before it; `truth_eq_of_derives` says that it is the same for the text of a condition.
-/

namespace Listing.Sql

/-! ### Truth values -/

/-- The truth values of conditions. -/
inductive Truth where
  | no
  | unknown
  | yes
deriving DecidableEq, Repr

namespace Truth

/-- The truth value of a test that has an answer. -/
def ofBool : Bool → Truth
  | false => no
  | true => yes

/-- The truth value of a conjunction. -/
def and : Truth → Truth → Truth
  | no, _ => no
  | _, no => no
  | yes, yes => yes
  | _, _ => unknown

/-- The truth value of a disjunction. -/
def or : Truth → Truth → Truth
  | yes, _ => yes
  | _, yes => yes
  | no, no => no
  | _, _ => unknown

/-- The truth value of a disjunction of any length. -/
def any (ts : List Truth) : Truth :=
  ts.foldr or no

@[simp] lemma or_eq_yes_iff {s t : Truth} : s.or t = yes ↔ s = yes ∨ t = yes := by
  cases s <;> cases t <;> simp [or]

@[simp] lemma or_no (t : Truth) : t.or no = t := by
  cases t <;> rfl

/-- A disjunction is true if one of its parts is. -/
lemma any_eq_yes_iff {ts : List Truth} : any ts = yes ↔ yes ∈ ts := by
  induction ts with
  | nil => simp [any]
  | cons t ts ih => rw [any, List.foldr_cons, or_eq_yes_iff, List.mem_cons, eq_comm, ← any, ih]

end Truth

/-! ### Databases -/

/-- How a database stores and compares values. -/
structure Engine (Datum : Type) where
  /-- What a bound value is stored as; nothing stands for null. -/
  stored : Value → Option Datum
  stored_null : stored .null = none
  /-- How two values in a column are ordered. -/
  order : Text → Datum → Datum → Ordering
  /-- Whether a value in a column matches a pattern. -/
  like : Text → Datum → Datum → Bool

/-- A database of whole numbers, where everything else is null. -/
def Engine.ofInts : Engine ℤ where
  stored
    | .integer n => some n
    | _ => none
  stored_null := rfl
  order _ := compare
  like _ _ _ := false

namespace Engine

variable {Datum : Type} (e : Engine Datum) (column : Text)

/-- A test of two values, unknown if one of them is null. -/
def nonnull (test : Datum → Datum → Bool) : Option Datum → Option Datum → Truth
  | some x, some y => .ofBool (test x y)
  | _, _ => .unknown

/-- A comparison by the order of two values. -/
def compare (accepted : Ordering → Bool) : Option Datum → Option Datum → Truth :=
  nonnull fun x y => accepted (e.order column x y)

/-- Equality where null equals null and nothing else. -/
def same : Option Datum → Option Datum → Truth
  | none, none => .yes
  | some x, some y => .ofBool (e.order column x y == .eq)
  | _, _ => .no

/-- What is said of a column, for the value that a row has in the column. -/
def test (cell : Option Datum) : Predicate → List (Option Datum) → Truth
  | .is, [v] => e.same column cell v
  | .equal, [v] => e.compare column (· == .eq) cell v
  | .among _, vs => .any (vs.map (e.compare column (· == .eq) cell))
  | .like, [v] => nonnull (e.like column) cell v
  | .less, [v] => e.compare column (· == .lt) cell v
  | .lessOrEqual, [v] => e.compare column (· != .gt) cell v
  | .greater, [v] => e.compare column (· == .gt) cell v
  | .greaterOrEqual, [v] => e.compare column (· != .lt) cell v
  | .between, [low, high] =>
    (e.compare column (· != .lt) cell low).and (e.compare column (· != .gt) cell high)
  | _, _ => .unknown

/-- A comparison with null is not true. -/
lemma compare_ne_yes {accepted : Ordering → Bool} {x y : Option Datum} (h : x = none ∨ y = none) :
    e.compare column accepted x y ≠ .yes := by
  rcases h with rfl | rfl
  · simp [compare, nonnull]
  · cases x <;> simp [compare, nonnull]

/-- Null is the same as null only. -/
lemma same_none_eq_yes_iff {x : Option Datum} : e.same column x none = .yes ↔ x = none := by
  cases x <;> simp [same]

end Engine

/-! ### Conditions -/

/-- The first `count` groups of `size` elements each. -/
def groups {α : Type} (size : ℕ) : ℕ → List α → List (List α)
  | 0, _ => []
  | count + 1, xs => xs.take size :: groups size count (xs.drop size)

example : groups 2 2 [1, 2, 3, 4, 5] = [[1, 2], [3, 4]] := by decide

section Rows

variable {Datum : Type} (e : Engine Datum) (row : Text → Option Datum)

/-- The truth of a condition for a row, with values bound to its placeholders. -/
def Condition.truth : Condition → List Value → Truth
  | is column, vs => e.test column (row column) .is (vs.map e.stored)
  | equal column, vs => e.test column (row column) .equal (vs.map e.stored)
  | among column count, vs => e.test column (row column) (.among count) (vs.map e.stored)
  | any column test count, vs =>
    .any ((groups test.arity count vs).map fun ws =>
      e.test column (row column) test.predicate (ws.map e.stored))

/-- The number of placeholders of a predicate. -/
def Predicate.arity : Predicate → ℕ
  | among count => count
  | between => 2
  | _ => 1

/-- The truth of a tree of the grammar for a row, and the values that are left when its placeholders
have taken theirs, from left to right. -/
def Formula.truth : Formula → List Value → Truth × List Value
  | test column p, vs =>
    (e.test column (row column) p ((vs.take p.arity).map e.stored), vs.drop p.arity)
  | and f g, vs =>
    let left := f.truth vs
    let right := g.truth left.2
    (left.1.and right.1, right.2)
  | or f g, vs =>
    let left := f.truth vs
    let right := g.truth left.2
    (left.1.or right.1, right.2)

variable {e row}

lemma Test.arity_predicate (test : Test) : test.predicate.arity = test.arity := by
  cases test <;> rfl

/-- A test in a tree of the grammar takes all values if it has a placeholder for each. -/
lemma Formula.truth_test {column : Text} {p : Predicate} {vs : List Value}
    (h : vs.length = p.arity) :
    ((test column p).truth e row vs).1 = e.test column (row column) p (vs.map e.stored) := by
  rw [truth, List.take_of_length_le h.le]

/-- Alternatives in a tree of the grammar take one group of values each. -/
lemma Formula.truth_anyTest {column : Text} {t : Test} {count : ℕ} {g : Formula}
    (h : anyTest column t.predicate count = some g) (vs : List Value) :
    (g.truth e row vs).1 = (Condition.any column t count).truth e row vs := by
  -- the values vary in the induction: the first alternative takes some and leaves the rest
  induction count generalizing g vs with
  | zero => cases h
  | succ count ih =>
    rw [anyTest, any, List.replicate_succ, chain] at h
    rw [Condition.truth, groups, List.map_cons, Truth.any, List.foldr_cons, ← Truth.any]
    cases hrest : chain or (List.replicate count (test column t.predicate)) with
    | none =>
      obtain rfl : test column t.predicate = g := by simpa [hrest] using h
      obtain rfl : count = 0 := by simpa [chain_eq_none_iff] using hrest
      rw [groups, List.map_nil, Truth.any, List.foldr_nil, Truth.or_no, truth, t.arity_predicate]
    | some g' =>
      obtain rfl : or (test column t.predicate) g' = g := by simpa [hrest] using h
      have ih := ih hrest (vs.drop t.arity)
      rw [Condition.truth] at ih
      simp only [truth, t.arity_predicate, ih]

/-- **Truth and text.**  The text of the condition of a filter, on a column whose name can stand in
a statement, is cut into lexemes that stand for one tree in the grammar, and the tree has the truth
of the condition. -/
theorem truth_eq_of_derives {column : Text} (hcolumn : IsIdentifier column) {f : Filter}
    {c : Condition} (hc : condition? column f = some c) {vs : List Value}
    (hvs : vs.length = c.placeholders) :
    ∃ ls g, Lexeme.read c.text = some ls ∧ (∀ g', Derives .disjunction ls g' ↔ g' = g) ∧
      (g.truth e row vs).1 = c.truth e row vs := by
  have hcuts : Lexeme.read c.text = some c.lexemes := by
    have hname : IsIdentifier c.column := by rwa [column_of_condition? hc]
    simpa [Lexeme.read] using Condition.cuts hname []
  obtain ⟨g, hg, hprimary⟩ := derives_of_condition? hc
  have hderives : Derives .disjunction c.lexemes g := hprimary.primary.conjunction
  refine ⟨c.lexemes, g, hcuts, fun g' => ⟨fun h => h.unique hderives, fun h => h ▸ hderives⟩, ?_⟩
  obtain ⟨t, ht, rfl⟩ | ⟨hequals, hcase⟩ := condition?_cases hc
  · exact Formula.truth_anyTest ((meaning?_of_testOf? ht).symm.trans hg) vs
  · rw [meaning?_of_equals hequals] at hg
    obtain ⟨hv, rfl⟩ | ⟨v, hne, hv, rfl⟩ | ⟨hlength, rfl⟩ := hcase
    · rw [hv] at hg
      obtain rfl : Formula.test column .is = g := Option.some.inj hg
      exact Formula.truth_test hvs
    · rw [hv] at hg
      simp only [if_neg (show ¬v = "null" from hne)] at hg
      obtain rfl : Formula.test column .equal = g := Option.some.inj hg
      exact Formula.truth_test hvs
    · rcases hvalues : f.values with _ | ⟨v, _ | ⟨w, rest⟩⟩
      · simp [hvalues] at hlength
      · simp [hvalues] at hlength
      · rw [hvalues] at hg hvs
        obtain rfl : Formula.test column (.among (v :: w :: rest).length) = g := Option.some.inj hg
        exact Formula.truth_test hvs

end Rows

end Listing.Sql
