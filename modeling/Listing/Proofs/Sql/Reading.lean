import Mathlib
import Listing.Proofs.Sql.Lexing

/-!
# The statement that the text of a request is

What a request means as a statement is said here filter by filter and without its text: which test
each filter makes on its column, how often, and how the tests are joined.  The text of the request,
cut into lexemes, stands for this statement in the grammar and for no other: a filter that makes
several tests is one group of the conjunction, so its alternatives stay together, and the `AND` of
a range stays in the range.
-/

namespace Listing.Sql

/-! ### Meanings -/

namespace Formula

/-- Conditions joined by a connective, if there are any. -/
def chain (connective : Formula → Formula → Formula) : List Formula → Option Formula
  | [] => none
  | f :: fs =>
    match chain connective fs with
    | none => some f
    | some g => some (connective f g)

/-- The conjunction of conditions. -/
def all : List Formula → Option Formula :=
  chain .and

/-- The disjunction of conditions. -/
def any : List Formula → Option Formula :=
  chain .or

/-- A test on a column, made a number of times. -/
def anyTest (column : Text) (p : Predicate) (count : ℕ) : Option Formula :=
  any (List.replicate count (.test column p))

end Formula

/-- What a filter asks of its column: a range for every two values, and any other test for every
value, but one test for the values of an equality together. -/
def meaning? (column : Text) (f : Filter) : Option Formula :=
  match f.comparison with
  | .equals =>
    match f.values with
    | [] => none
    | [v] => some (.test column (if v = "null" then .is else .equal))
    | vs => some (.test column (.among vs.length))
  | .contains | .startsWith | .endsWith => Formula.anyTest column .like f.values.length
  | .between => Formula.anyTest column .between (f.values.length / 2)
  | .less => Formula.anyTest column .less f.values.length
  | .lessOrEqual => Formula.anyTest column .lessOrEqual f.values.length
  | .greater => Formula.anyTest column .greater f.values.length
  | .greaterOrEqual => Formula.anyTest column .greaterOrEqual f.values.length

/-- The statement that a request means. -/
def statement (r : Request) : Statement where
  condition := Formula.all (r.filters.entries.filterMap fun e => meaning? e.1 e.2)
  order := r.sorting.entries.filter fun e => !Text.blank e.1

/-! ### Chains -/

namespace Formula

variable {connective : Formula → Formula → Formula}

lemma chain_isSome {fs : List Formula} (h : fs ≠ []) : ∃ f, chain connective fs = some f := by
  obtain ⟨f, fs, rfl⟩ := List.exists_cons_of_ne_nil h
  rw [chain]
  cases chain connective fs <;> simp

lemma chain_eq_none_iff {fs : List Formula} : chain connective fs = none ↔ fs = [] := by
  constructor
  · intro h
    by_contra hne
    obtain ⟨f, hf⟩ : ∃ f, chain connective fs = some f := chain_isSome hne
    simp [hf] at h
  · rintro rfl
    rfl

end Formula

/-- Conditions of one level with a keyword between them are their chain on the next level. -/
lemma derives_chain {inner outer : Level} {k : Keyword}
    {connective : Formula → Formula → Formula}
    (hone : ∀ {ls f}, Derives inner ls f → Derives outer ls f)
    (hmore : ∀ {ls ms f g}, Derives inner ls f → Derives outer ms g →
      Derives outer (ls ++ .keyword k :: ms) (connective f g))
    {lss : List (List Lexeme)} {fs : List Formula} (h : List.Forall₂ (Derives inner) lss fs)
    {f : Formula} (hf : Formula.chain connective fs = some f) :
    Derives outer ([.keyword k].intercalate lss) f := by
  induction h generalizing f with
  | nil => cases hf
  | @cons ls f' lss fs hls hrest ih =>
    cases hrest with
    | nil =>
      obtain rfl : f' = f := Option.some.inj hf
      simpa using hone hls
    | @cons ms g lss fs hms hrest =>
      obtain ⟨g', hg'⟩ : ∃ g', Formula.chain connective (g :: fs) = some g' :=
        Formula.chain_isSome (by simp)
      rw [Formula.chain, hg', Option.some.injEq] at hf
      rw [List.intercalate_cons_cons, ← hf, List.append_assoc]
      exact hmore hls (ih hg')

/-! ### The condition of a filter -/

lemma meaning?_of_testOf? {column : Text} {f : Filter} {test : Test}
    (h : testOf? f.comparison = some test) :
    meaning? column f
      = Formula.anyTest column test.predicate ((boundTexts f).length / test.arity) := by
  cases hc : f.comparison with
  | equals => simp [hc] at h
  | between =>
    obtain rfl : Test.between = test := by simpa [hc] using h
    have hlength : (boundTexts f).length / 2 = f.values.length / 2 := by
      rw [boundTexts_between hc, List.length_take]
      omega
    rw [meaning?, hc, Test.arity, hlength]
    rfl
  | _ =>
    rw [hc] at h
    cases h
    rw [meaning?, hc, boundTexts_of_ne_between (by simp [hc])]
    simp [Test.arity, Test.predicate]

lemma meaning?_of_equals {column : Text} {f : Filter} (h : f.comparison = .equals) :
    meaning? column f
      = match f.values with
        | [] => none
        | [v] => some (.test column (if v = "null" then .is else .equal))
        | vs => some (.test column (.among vs.length)) := by
  rw [meaning?, h]

/-- Without a condition a filter means nothing. -/
lemma meaning?_eq_none {column : Text} {f : Filter} (h : condition? column f = none) :
    meaning? column f = none := by
  rw [condition?_eq_none_iff] at h
  cases htest : testOf? f.comparison with
  | some test =>
    rw [meaning?_of_testOf? htest, h, Formula.anyTest, Formula.any, Formula.chain_eq_none_iff]
    simp
  | none =>
    have hequals := testOf?_eq_none_iff.1 htest
    rw [boundTexts_of_ne_between (by simp [hequals])] at h
    rw [meaning?_of_equals hequals, h]

/-- A test made several times in parentheses, or once without them. -/
lemma derives_anyTest {column : Text} {test : Test} {count : ℕ} {g : Formula}
    (h : Formula.anyTest column test.predicate count = some g) :
    Derives .primary (Condition.any column test count).lexemes g := by
  rw [Condition.lexemes]
  split
  · next hone =>
    obtain rfl : Formula.test column test.predicate = g := by
      rw [hone] at h
      exact Option.some.inj h
    exact .test column test.predicate
  · refine .group (derives_chain .conjunction .or ?_ h)
    have htest : Derives .conjunction (.name column :: test.predicate.lexemes)
        (.test column test.predicate) := (Derives.test column test.predicate).primary
    rw [List.forall₂_iff_get]
    simp [htest]

/-- The lexemes of the condition of a filter stand for what the filter means. -/
lemma derives_of_condition? {column : Text} {f : Filter} {c : Condition}
    (h : condition? column f = some c) :
    ∃ g, meaning? column f = some g ∧ Derives .primary c.lexemes g := by
  obtain ⟨test, htest, rfl⟩ | ⟨hequals, hc⟩ := condition?_cases h
  · have hbound := boundTexts_ne_nil_of_condition? h
    have hle := Nat.le_of_dvd (List.length_pos_iff.2 hbound) (arity_dvd_length_boundTexts htest)
    have hne : (boundTexts f).length / test.arity ≠ 0 :=
      (Nat.div_pos hle (by cases test <;> decide)).ne'
    obtain ⟨g, hg⟩ : ∃ g, Formula.anyTest column test.predicate
        ((boundTexts f).length / test.arity) = some g :=
      Formula.chain_isSome (by simpa using hne)
    exact ⟨g, (meaning?_of_testOf? htest).trans hg, derives_anyTest hg⟩
  · rw [meaning?_of_equals hequals]
    obtain ⟨hv, rfl⟩ | ⟨v, hne, hv, rfl⟩ | ⟨hlength, rfl⟩ := hc
    · rw [hv]
      exact ⟨_, rfl, .test column .is⟩
    · rw [hv]
      simp only [if_neg (show ¬v = "null" from hne)]
      exact ⟨_, rfl, .test column .equal⟩
    · match hvs : f.values, hlength with
      | v :: w :: rest, _ => exact ⟨_, rfl, .test column (.among _)⟩

/-! ### The text of a request -/

/-- The conditions of filters stand, one by one, for what the filters mean. -/
lemma derives_conditions (entries : List (Text × Filter)) :
    List.Forall₂ (Derives .primary) ((conditions ⟨entries⟩).map Condition.lexemes)
      (entries.filterMap fun e => meaning? e.1 e.2) := by
  induction entries with
  | nil => exact .nil
  | cons e entries ih =>
    rw [conditions_cons]
    cases hc : condition? e.1 e.2 with
    | none =>
      rw [List.filterMap_cons_none (by exact meaning?_eq_none hc)]
      exact ih
    | some c =>
      obtain ⟨g, hg, hderives⟩ := derives_of_condition? hc
      rw [List.filterMap_cons_some (by exact hg)]
      exact .cons hderives ih

lemma derivesWhere_conditions (m : Filters) :
    Statement.DerivesWhere (whereLexemes m)
      (Formula.all (m.entries.filterMap fun e => meaning? e.1 e.2)) := by
  have hparts := derives_conditions m.entries
  rw [whereLexemes]
  split
  · next hnil =>
    rw [show conditions ⟨m.entries⟩ = [] from hnil, List.map_nil, List.forall₂_nil_left_iff]
      at hparts
    rw [hparts]
    exact .none
  · next hne =>
    have hmeanings : (m.entries.filterMap fun e => meaning? e.1 e.2) ≠ [] := by
      intro hnil
      rw [hnil, List.forall₂_nil_right_iff, List.map_eq_nil_iff] at hparts
      exact hne hparts
    obtain ⟨g, hg⟩ : ∃ g, Formula.chain .and (m.entries.filterMap fun e => meaning? e.1 e.2)
        = some g := Formula.chain_isSome hmeanings
    rw [Formula.all, hg]
    exact .some (derives_chain .primary .and hparts hg).conjunction

lemma derivesItems {items : List (Text × Direction)} (h : items ≠ []) :
    Statement.DerivesItems
      ([.comma].intercalate (items.map fun e => [.name e.1, .keyword (.ofDirection e.2)]))
      items := by
  induction items with
  | nil => exact absurd rfl h
  | cons e items ih =>
    cases items with
    | nil => exact .last e.1 e.2
    | cons e' items =>
      rw [List.map_cons, List.map_cons, List.intercalate_cons_cons]
      exact .cons e.1 e.2 (ih (by simp))

lemma derivesOrder_named (m : Sorting) :
    Statement.DerivesOrder (orderLexemes m) m.named := by
  rw [orderLexemes]
  split
  · next hnil =>
    rw [hnil]
    exact .none
  · next hne => exact .some (derivesItems hne)

/-- **The text of a request says what the request means.**  Field names that can stand in a
statement given, the text is cut into lexemes that stand for the statement of the request, and for
no other statement. -/
theorem text_derives_iff {r : Request} (hfilters : ∀ e ∈ r.filters.entries, IsIdentifier e.1)
    (hsorting : ∀ e ∈ r.sorting.entries, Text.blank e.1 = false → IsIdentifier e.1) :
    ∃ ls, Lexeme.read (text r) = some ls ∧ ∀ s, Statement.Derives ls s ↔ s = statement r := by
  have hnamed : ∀ e ∈ r.sorting.named, IsIdentifier e.1 := by
    intro e he
    obtain ⟨hmem, hblank⟩ := List.mem_filter.1 he
    exact hsorting e hmem (by simpa using hblank)
  have hderives : Statement.Derives
      (whereLexemes r.filters ++ orderLexemes r.sorting ++ Statement.pageLexemes) (statement r) :=
    .intro (derivesWhere_conditions r.filters) (derivesOrder_named r.sorting)
  refine ⟨_, read_text hfilters hnamed, fun s => ⟨fun hs => hs.unique hderives, ?_⟩⟩
  rintro rfl
  exact hderives

/-- Alternatives and a range in a conjunction, a range with an odd last value, the null word alone,
and a filter without values. -/
theorem text_derives_iff_groups :
    ∃ ls, Lexeme.read
        (text
          { filters := ⟨[("a", ⟨.startsWith, ["x", "y"]⟩), ("b", ⟨.between, ["1", "2", "3"]⟩),
              ("c", ⟨.equals, ["null"]⟩), ("d", ⟨.less, []⟩)]⟩
            sorting := ⟨[(" ", .ascending), ("n", .descending)]⟩ }) = some ls ∧
      ∀ s, Statement.Derives ls s ↔ s =
        { condition := some (.and (.or (.test "a" .like) (.test "a" .like))
            (.and (.test "b" .between) (.test "c" .is)))
          order := [("n", .descending)] } :=
  text_derives_iff (by decide) (by decide)

end Listing.Sql
