import Listing.Text.Basic

/-!
# Fields in the order of their first write

A finite map from field names that remembers the order in which the names were first written.
Writing a name again replaces what it holds and leaves it where it stands. The map is its list of
entries; every map built by the operations below has each name once.
-/

namespace Listing

/-- A map from field names, as the list of its entries in the order of the first writes. -/
structure Fields (α : Type) where
  entries : List (Text × α) := []
deriving DecidableEq, Repr

namespace Fields

variable {α : Type}

/-- The map without entries. -/
def empty : Fields α := {}

/-- The names, in order. -/
def names (m : Fields α) : List Text :=
  m.entries.map Prod.fst

/-- The number of entries. -/
def size (m : Fields α) : Nat :=
  m.entries.length

/-- What a name holds. -/
def get? (m : Fields α) (name : Text) : Option α :=
  (m.entries.find? fun e => e.1 == name).map Prod.snd

/-- Whether a name holds anything. -/
def contains (m : Fields α) (name : Text) : Bool :=
  m.names.contains name

/-- Writes a name into a list of entries: in its place if it is there, else at the end. -/
def put (name : Text) (value : α) : List (Text × α) → List (Text × α)
  | [] => [(name, value)]
  | e :: rest => if e.1 = name then (name, value) :: rest else e :: put name value rest

/-- Writes a name. -/
def set (m : Fields α) (name : Text) (value : α) : Fields α :=
  ⟨put name value m.entries⟩

/-- The map after writing every pair in turn. -/
def ofList (pairs : List (Text × α)) : Fields α :=
  pairs.foldl (fun m e => m.set e.1 e.2) empty

/-- The entries whose name is among `wanted`. -/
def keep (m : Fields α) (wanted : List Text) : Fields α :=
  ⟨m.entries.filter fun e => wanted.contains e.1⟩

/-- The entries whose name is not among `unwanted`. -/
def drop (m : Fields α) (unwanted : List Text) : Fields α :=
  ⟨m.entries.filter fun e => !unwanted.contains e.1⟩

/-- A write adds its name at the end if it is new, and else keeps all names where they are. -/
theorem names_set (m : Fields α) (name : Text) (value : α) :
    (m.set name value).names = if name ∈ m.names then m.names else m.names ++ [name] := by
  obtain ⟨entries⟩ := m
  simp only [set, names]
  induction entries with
  | nil => simp [put]
  | cons e rest ih =>
    by_cases h : e.1 = name
    · simp [put, h]
    · have hne : ¬name = e.1 := fun h' => h h'.symm
      by_cases hm : name ∈ rest.map Prod.fst
      · simp [put, h, hne, hm, ih]
      · simp [put, h, hne, hm, ih]

/-- A write is read back, and other names hold what they held. -/
theorem get?_set (m : Fields α) (name other : Text) (value : α) :
    (m.set name value).get? other = if name = other then some value else m.get? other := by
  obtain ⟨entries⟩ := m
  simp only [set, get?]
  induction entries with
  | nil => by_cases h : name = other <;> simp [put, h]
  | cons e rest ih =>
    by_cases h : e.1 = name
    · by_cases h' : name = other <;> simp [put, h, h']
    · by_cases h' : e.1 = other
      · have hne : ¬name = other := fun h'' => h (h'.trans h''.symm)
        have hne' : ¬other = name := fun h'' => hne h''.symm
        simp [put, h', hne, hne']
      · simp [put, h, h', ih]

end Fields

end Listing
