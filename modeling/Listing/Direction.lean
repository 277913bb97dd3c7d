import Listing.Malformed

/-!
# Sort directions
-/

namespace Listing

/-- The direction in which a field is sorted. -/
inductive Direction where
  | ascending
  | descending
deriving DecidableEq, Repr

namespace Direction

/-- The word for a direction in a query string. -/
def word : Direction → Text
  | ascending => "asc"
  | descending => "desc"

/-- The name of a direction in full. -/
def identifier : Direction → Text
  | ascending => "ascending"
  | descending => "descending"

/-- The direction with exactly this word. -/
def ofWord? (t : Text) : Option Direction :=
  [ascending, descending].find? fun d => d.word == t

/-- Reads the word for a direction. -/
def read (t : Text) : Except Malformed Direction :=
  match ofWord? t with
  | some d => .ok d
  | none => .error (.direction t)

@[simp] theorem ofWord?_word (d : Direction) : ofWord? d.word = some d := by
  cases d <;> decide

theorem word_of_ofWord? {t : Text} {d : Direction} (h : ofWord? t = some d) : t = d.word := by
  have := List.find?_some h
  exact (beq_iff_eq.1 this).symm

end Direction

end Listing
