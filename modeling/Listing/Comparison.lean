import Listing.Malformed

/-!
# Comparisons

How a filter compares a field with its values. Each comparison has one word in a query string.
-/

namespace Listing

/-- A way to compare a field with the values of a filter. -/
inductive Comparison where
  | equals
  | contains
  | startsWith
  | endsWith
  | between
  | less
  | lessOrEqual
  | greater
  | greaterOrEqual
deriving DecidableEq, Repr

namespace Comparison

/-- Every comparison. -/
def all : List Comparison :=
  [equals, contains, startsWith, endsWith, between, less, lessOrEqual, greater, greaterOrEqual]

/-- The word for a comparison in a query string. -/
def word : Comparison → Text
  | equals => "equals"
  | contains => "contains"
  | startsWith => "starts-with"
  | endsWith => "ends-with"
  | between => "between"
  | less => "lesser"
  | lessOrEqual => "lesser-or-equal"
  | greater => "greater"
  | greaterOrEqual => "greater-or-equal"

/-- The comparison with exactly this word. -/
def ofWord? (t : Text) : Option Comparison :=
  all.find? fun c => c.word == t

/-- Reads the word for a comparison. -/
def read (t : Text) : Except Malformed Comparison :=
  match ofWord? t with
  | some c => .ok c
  | none => .error (.comparison t)

/-- The word as a name made of letters and underscores. -/
def identifier (c : Comparison) : Text :=
  c.word.map fun x => if x = '-' then '_' else x

@[simp] theorem ofWord?_word (c : Comparison) : ofWord? c.word = some c := by
  cases c <;> decide

theorem word_of_ofWord? {t : Text} {c : Comparison} (h : ofWord? t = some c) : t = c.word := by
  have := List.find?_some h
  exact (beq_iff_eq.1 this).symm

end Comparison

end Listing
