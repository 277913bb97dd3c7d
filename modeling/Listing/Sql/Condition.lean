import Listing.Sql.Value

/-!
# The condition of a filter

A filter becomes one condition on its column, a tree whose leaves compare the column with
placeholders. A condition knows how many placeholders it has and not what is bound to them, so its
text cannot depend on the values, but for the one question whether the only value of an equality
is the null word.
-/

namespace Listing.Sql

/-- A comparison of a column with one placeholder, or with two for a range. -/
inductive Test where
  | like
  | less
  | lessOrEqual
  | greater
  | greaterOrEqual
  | between
deriving DecidableEq, Repr

namespace Test

/-- What follows the column. -/
def text : Test → Text
  | like => "LIKE ?"
  | less => "< ?"
  | lessOrEqual => "<= ?"
  | greater => "> ?"
  | greaterOrEqual => ">= ?"
  | between => "BETWEEN ? AND ?"

/-- The number of placeholders. -/
def arity : Test → Nat
  | between => 2
  | _ => 1

end Test

/-- The condition that a filter puts on its column. -/
inductive Condition where
  /-- The column is the bound value, null included. -/
  | is (column : Text)
  /-- The column equals the bound value. -/
  | equal (column : Text)
  /-- The column equals one of `count` bound values. -/
  | among (column : Text) (count : Nat)
  /-- One of `count` like tests holds. -/
  | any (column : Text) (test : Test) (count : Nat)
deriving DecidableEq, Repr

namespace Condition

/-- Alternatives, in parentheses if there are several. -/
def alternatives (parts : List Text) : Text :=
  match parts with
  | [part] => part
  | parts => "(" ++ Text.joined " OR " parts ++ ")"

/-- The condition as text. -/
def text : Condition → Text
  | is column => column ++ " IS ?"
  | equal column => column ++ " = ?"
  | among column count => column ++ " IN (" ++ Text.joined ", " (List.replicate count "?") ++ ")"
  | any column test count => alternatives (List.replicate count (column ++ ' ' :: test.text))

/-- The number of placeholders. -/
def placeholders : Condition → Nat
  | is _ | equal _ => 1
  | among _ count => count
  | any _ test count => count * test.arity

end Condition

/-- How a condition is put together from the bound values. -/
inductive Builder where
  /-- One equality takes all of them. -/
  | equality
  /-- There is a test for each of them, or for each range. -/
  | tests (test : Test)
deriving DecidableEq, Repr

/-- The table of comparisons that are supported, each with its builder. -/
def builders : List (Comparison × Builder) :=
  [(.equals, .equality), (.contains, .tests .like), (.startsWith, .tests .like),
    (.endsWith, .tests .like), (.between, .tests .between), (.less, .tests .less),
    (.lessOrEqual, .tests .lessOrEqual), (.greater, .tests .greater),
    (.greaterOrEqual, .tests .greaterOrEqual)]

/-- The builder of a comparison; one that is not in the table is not supported. -/
def builder? (c : Comparison) : Option Builder :=
  builders.lookup c

/-- The table is complete: no filter is refused because its comparison is not supported. -/
theorem isSome_builder? (c : Comparison) : (builder? c).isSome = true := by
  cases c <;> rfl

/-- The test that a comparison other than equality makes. -/
def testOf? (c : Comparison) : Option Test :=
  match (builder? c).get (isSome_builder? c) with
  | .equality => none
  | .tests test => some test

@[simp] theorem testOf?_equals : testOf? .equals = none := rfl

@[simp] theorem testOf?_between : testOf? .between = some .between := rfl

/-- The values of a filter that are bound: a range needs both its ends, so an odd last value of a
range is not. -/
def boundTexts (f : Filter) : List Text :=
  if f.comparison = .between then f.values.take (f.values.length - f.values.length % 2)
  else f.values

/-- The condition of a filter on a column; without a bound value there is none. -/
def condition? (column : Text) (f : Filter) : Option Condition :=
  let bound := boundTexts f
  if bound.isEmpty then none
  else
    match testOf? f.comparison with
    | some test => some (.any column test (bound.length / test.arity))
    | none =>
      if bound = [Value.nullWord] then some (.is column)
      else if bound.length = 1 then some (.equal column)
      else some (.among column bound.length)

end Listing.Sql
