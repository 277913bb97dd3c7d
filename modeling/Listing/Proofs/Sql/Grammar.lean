import Mathlib
import Listing.Direction

/-!
# A grammar of conditions, orders and pages

The part of a select statement that follows the table, as far as requests need it, as a grammar
that knows nothing of how requests are compiled.  A text is cut into lexemes, words as long as
possible; keywords are words in upper or lower case.  In conditions a range binds tighter than
`AND`, because its own `AND` belongs to the test on its column, `AND` binds tighter than `OR`, and
parentheses make a group.  Chains of one connective are grouped to the right.

The grammar is unambiguous (`Statement.Derives.unique`): for conditions this is an induction on the
derivation, in which the lexemes that may follow are carried along.
-/

namespace Listing.Sql

/-! ### Lexemes -/

/-- The words that cannot be names. -/
inductive Keyword where
  | WHERE
  | ORDER
  | BY
  | LIMIT
  | OFFSET
  | IS
  | IN
  | LIKE
  | BETWEEN
  | AND
  | OR
  | ASC
  | DESC
deriving DecidableEq, Repr

namespace Keyword

/-- Every keyword. -/
def all : List Keyword :=
  [WHERE, ORDER, BY, LIMIT, OFFSET, IS, IN, LIKE, BETWEEN, AND, OR, ASC, DESC]

/-- The keyword in upper case. -/
def text : Keyword → Text
  | WHERE => "WHERE"
  | ORDER => "ORDER"
  | BY => "BY"
  | LIMIT => "LIMIT"
  | OFFSET => "OFFSET"
  | IS => "IS"
  | IN => "IN"
  | LIKE => "LIKE"
  | BETWEEN => "BETWEEN"
  | AND => "AND"
  | OR => "OR"
  | ASC => "ASC"
  | DESC => "DESC"

/-- The keyword that a word is, in upper or lower case. -/
def ofWord? (word : Text) : Option Keyword :=
  all.find? fun k => k.text == word.map Char.toUpper

lemma mem_all (k : Keyword) : k ∈ all := by
  cases k <;> decide

lemma ofWord?_eq_none_iff {word : Text} :
    ofWord? word = none ↔ ∀ k : Keyword, word.map Char.toUpper ≠ k.text := by
  rw [ofWord?, List.find?_eq_none]
  constructor
  · intro h k heq
    exact h k k.mem_all (beq_iff_eq.2 heq.symm)
  · intro h k _ heq
    exact h k (beq_iff_eq.1 heq).symm

/-- The keyword for a direction. -/
def ofDirection : Direction → Keyword
  | .ascending => ASC
  | .descending => DESC

end Keyword

/-- The smallest parts of a statement that mean something. -/
inductive Lexeme where
  | name (word : Text)
  | keyword (k : Keyword)
  /-- The question mark of a placeholder. -/
  | mark
  | opening
  | closing
  | comma
  | equal
  | less
  | lessOrEqual
  | greater
  | greaterOrEqual
deriving DecidableEq, Repr

/-- The characters that words are made of: letters, digits, the underscore, the dot between the
parts of a qualified name, and everything that is not ASCII. -/
def isWordChar (c : Char) : Bool :=
  c.isAlphanum || c == '_' || c == '.' || 0x80 ≤ c.toNat

/-- A name that can stand in a statement: a word, and no keyword. -/
structure IsIdentifier (name : Text) : Prop where
  ne_nil : name ≠ []
  word : ∀ c ∈ name, isWordChar c = true
  not_keyword : ∀ k : Keyword, name.map Char.toUpper ≠ k.text

instance : DecidablePred IsIdentifier := fun name =>
  decidable_of_iff (name ≠ [] ∧ name.all isWordChar = true ∧ Keyword.ofWord? name = none)
    ⟨fun h => ⟨h.1, List.all_eq_true.1 h.2.1, Keyword.ofWord?_eq_none_iff.1 h.2.2⟩,
      fun h => ⟨h.ne_nil, List.all_eq_true.2 h.word, Keyword.ofWord?_eq_none_iff.2 h.not_keyword⟩⟩

namespace Lexeme

/-- The lexeme of a word, if there is a word. -/
def ofWord (word : Text) : List Lexeme :=
  if word.isEmpty then []
  else
    match Keyword.ofWord? word with
    | some k => [keyword k]
    | none => [name word]

/-- The lexeme of a single character that is not part of a word. -/
def ofChar? : Char → Option Lexeme
  | '?' => some mark
  | '(' => some opening
  | ')' => some closing
  | ',' => some comma
  | '=' => some equal
  | '<' => some less
  | '>' => some greater
  | _ => none

/-- Cuts a text into lexemes, where `word` has just been read of a word. -/
def scan (word : Text) : Text → Option (List Lexeme)
  | [] => some (ofWord word)
  | '<' :: '=' :: rest => (scan [] rest).map fun ls => ofWord word ++ lessOrEqual :: ls
  | '>' :: '=' :: rest => (scan [] rest).map fun ls => ofWord word ++ greaterOrEqual :: ls
  | ' ' :: rest => (scan [] rest).map fun ls => ofWord word ++ ls
  | c :: rest =>
    if isWordChar c then scan (word ++ [c]) rest
    else
      match ofChar? c with
      | some l => (scan [] rest).map fun ls => ofWord word ++ l :: ls
      | none => none

/-- Cuts a text into lexemes. -/
def read (t : Text) : Option (List Lexeme) :=
  scan [] t

example : read "(a_1<=?)Or b.c" = some [.opening, .name "a_1", .lessOrEqual, .mark, .closing,
    .keyword .OR, .name "b.c"] := by
  decide

end Lexeme

/-! ### Conditions -/

/-- What is said of a column. -/
inductive Predicate where
  | is
  | equal
  | among (count : ℕ)
  | like
  | less
  | lessOrEqual
  | greater
  | greaterOrEqual
  | between
deriving DecidableEq, Repr

/-- Placeholders with commas between them. -/
def marks (count : ℕ) : List Lexeme :=
  [.comma].intercalate (List.replicate count [.mark])

/-- What follows the column. -/
def Predicate.lexemes : Predicate → List Lexeme
  | is => [.keyword .IS, .mark]
  | equal => [.equal, .mark]
  | among count => .keyword .IN :: .opening :: marks count ++ [.closing]
  | like => [.keyword .LIKE, .mark]
  | less => [.less, .mark]
  | lessOrEqual => [.lessOrEqual, .mark]
  | greater => [.greater, .mark]
  | greaterOrEqual => [.greaterOrEqual, .mark]
  | between => [.keyword .BETWEEN, .mark, .keyword .AND, .mark]

/-- Conditions as trees. -/
inductive Formula where
  | test (column : Text) (p : Predicate)
  | and (f g : Formula)
  | or (f g : Formula)
deriving DecidableEq, Repr

/-- The levels of a condition, from tight to loose. -/
inductive Level where
  | primary
  | conjunction
  | disjunction

/-- The grammar of conditions: what lexemes stand for a condition on a level. -/
inductive Derives : Level → List Lexeme → Formula → Prop
  | test (column : Text) (p : Predicate) :
      Derives .primary (.name column :: p.lexemes) (.test column p)
  | group {ls : List Lexeme} {f : Formula} :
      Derives .disjunction ls f → Derives .primary (.opening :: ls ++ [.closing]) f
  | primary {ls : List Lexeme} {f : Formula} : Derives .primary ls f → Derives .conjunction ls f
  | and {ls ms : List Lexeme} {f g : Formula} : Derives .primary ls f → Derives .conjunction ms g →
      Derives .conjunction (ls ++ .keyword .AND :: ms) (.and f g)
  | conjunction {ls : List Lexeme} {f : Formula} :
      Derives .conjunction ls f → Derives .disjunction ls f
  | or {ls ms : List Lexeme} {f g : Formula} :
      Derives .conjunction ls f → Derives .disjunction ms g →
      Derives .disjunction (ls ++ .keyword .OR :: ms) (.or f g)

/-! ### Statements -/

/-- The part of a statement that follows the table, but for its page. -/
structure Statement where
  condition : Option Formula := none
  order : List (Text × Direction) := []
deriving DecidableEq, Repr

namespace Statement

/-- Sort fields with their directions, at least one. -/
inductive DerivesItems : List Lexeme → List (Text × Direction) → Prop
  | last (name : Text) (d : Direction) :
      DerivesItems [.name name, .keyword (.ofDirection d)] [(name, d)]
  | cons (name : Text) (d : Direction) {ls : List Lexeme} {items : List (Text × Direction)} :
      DerivesItems ls items →
      DerivesItems (.name name :: .keyword (.ofDirection d) :: .comma :: ls) ((name, d) :: items)

/-- The clause for the condition, if there is one. -/
inductive DerivesWhere : List Lexeme → Option Formula → Prop
  | none : DerivesWhere [] none
  | some {ls : List Lexeme} {f : Formula} :
      Sql.Derives .disjunction ls f → DerivesWhere (.keyword .WHERE :: ls) (some f)

/-- The clause for the order, if there is one. -/
inductive DerivesOrder : List Lexeme → List (Text × Direction) → Prop
  | none : DerivesOrder [] []
  | some {ls : List Lexeme} {items : List (Text × Direction)} :
      DerivesItems ls items → DerivesOrder (.keyword .ORDER :: .keyword .BY :: ls) items

/-- The clause for the page. -/
def pageLexemes : List Lexeme :=
  [.keyword .LIMIT, .mark, .keyword .OFFSET, .mark]

/-- The grammar of statements: what lexemes stand for a statement. -/
inductive Derives : List Lexeme → Statement → Prop
  | intro {ls ms : List Lexeme} {condition : Option Formula} {order : List (Text × Direction)} :
      DerivesWhere ls condition → DerivesOrder ms order →
      Derives (ls ++ ms ++ pageLexemes) ⟨condition, order⟩

end Statement

/-! ### The grammar of conditions is unambiguous -/

@[simp] lemma marks_zero : marks 0 = [] := rfl

@[simp] lemma marks_one : marks 1 = [.mark] := rfl

lemma marks_succ_succ (n : ℕ) : marks (n + 2) = .mark :: .comma :: marks (n + 1) := by
  simp only [marks, List.replicate_succ]
  rw [List.intercalate_cons_cons]
  rfl

lemma marks_append_inj {m n : ℕ} {rest rest' : List Lexeme}
    (h : marks m ++ .closing :: rest = marks n ++ .closing :: rest') : m = n ∧ rest = rest' := by
  induction m generalizing n with
  | zero =>
    match n with
    | 0 => simpa using h
    | 1 => simp at h
    | n + 2 => simp [marks_succ_succ] at h
  | succ m ih =>
    match m, n with
    | 0, 0 => simp at h
    | 0, 1 => simpa using h
    | 0, n + 2 => simp [marks_succ_succ] at h
    | m + 1, 0 => simp [marks_succ_succ] at h
    | m + 1, 1 => simp [marks_succ_succ] at h
    | m + 1, n + 2 =>
      simp only [marks_succ_succ, List.cons_append, List.cons.injEq, true_and] at h
      obtain ⟨hmn, hrest⟩ := ih h
      exact ⟨by omega, hrest⟩

/-- No predicate is the start of another. -/
lemma Predicate.lexemes_append_inj {p q : Predicate} {rest rest' : List Lexeme}
    (h : p.lexemes ++ rest = q.lexemes ++ rest') : p = q ∧ rest = rest' := by
  cases p with
  | among m =>
    cases q with
    | among n =>
      simp only [lexemes, List.cons_append, List.append_assoc, List.nil_append, List.cons.injEq,
        true_and] at h
      obtain ⟨rfl, hrest⟩ := marks_append_inj h
      exact ⟨rfl, hrest⟩
    | _ => simp [lexemes] at h
  | _ => cases q <;> simp_all [lexemes]

/-- The lexemes that do not go on with a condition of a level. -/
def Stop : Level → List Lexeme → Prop
  | .primary, _ => True
  | .conjunction, rest => rest.head? ≠ some (.keyword .AND)
  | .disjunction, rest => rest.head? ≠ some (.keyword .AND) ∧ rest.head? ≠ some (.keyword .OR)

/-- Conditions at the start of the same lexemes are the same, if both end where no connective
follows. -/
lemma Derives.append_inj {level : Level} {ls ls' rest rest' : List Lexeme} {f f' : Formula}
    (h : Derives level ls f) (h' : Derives level ls' f') (hls : ls ++ rest = ls' ++ rest')
    (hrest : Stop level rest) (hrest' : Stop level rest') :
    f = f' ∧ rest = rest' := by
  -- where one derivation ends and the other goes on, a connective follows the first
  induction h generalizing ls' f' rest rest' with
  | test column p =>
    cases h' with
    | test column' p' =>
      simp only [List.cons_append, List.cons.injEq, Lexeme.name.injEq] at hls
      obtain ⟨rfl, hrest⟩ := Predicate.lexemes_append_inj hls.2
      exact ⟨by rw [hls.1], hrest⟩
    | group h' => simp at hls
  | group h ih =>
    cases h' with
    | test column' p' => simp at hls
    | group h' =>
      simp only [List.cons_append, List.append_assoc, List.cons.injEq, true_and] at hls
      obtain ⟨rfl, hclosing⟩ := ih h' hls (by simp [Stop]) (by simp [Stop])
      exact ⟨rfl, by simpa using hclosing⟩
  | primary h ih =>
    cases h' with
    | primary h' => exact ih h' hls trivial trivial
    | and h' hg' =>
      obtain ⟨-, rfl⟩ := ih h' (by simpa using hls) trivial trivial
      simp [Stop] at hrest
  | and h hg ih ihg =>
    cases h' with
    | primary h' =>
      obtain ⟨-, rfl⟩ := ih h' (by simpa using hls) trivial trivial
      simp [Stop] at hrest'
    | and h' hg' =>
      rw [List.append_assoc, List.append_assoc] at hls
      obtain ⟨rfl, hand⟩ := ih h' hls trivial trivial
      simp only [List.cons_append, List.cons.injEq, true_and] at hand
      obtain ⟨rfl, hrest⟩ := ihg hg' hand hrest hrest'
      exact ⟨rfl, hrest⟩
  | conjunction h ih =>
    cases h' with
    | conjunction h' => exact ih h' hls hrest.1 hrest'.1
    | or h' hg' =>
      obtain ⟨-, rfl⟩ := ih h' (by simpa using hls) hrest.1 (by simp [Stop])
      simp [Stop] at hrest
  | or h hg ih ihg =>
    cases h' with
    | conjunction h' =>
      obtain ⟨-, rfl⟩ := ih h' (by simpa using hls) (by simp [Stop]) hrest'.1
      simp [Stop] at hrest'
    | or h' hg' =>
      rw [List.append_assoc, List.append_assoc] at hls
      obtain ⟨rfl, hor⟩ := ih h' hls (by simp [Stop]) (by simp [Stop])
      simp only [List.cons_append, List.cons.injEq, true_and] at hor
      obtain ⟨rfl, hrest⟩ := ihg hg' hor hrest hrest'
      exact ⟨rfl, hrest⟩

lemma Derives.unique {ls : List Lexeme} {f g : Formula} (hf : Derives .disjunction ls f)
    (hg : Derives .disjunction ls g) : f = g :=
  (hf.append_inj hg (rfl : ls ++ [] = ls ++ []) (by simp [Stop]) (by simp [Stop])).1

/-! ### The grammar of statements is unambiguous -/

lemma mem_marks {l : Lexeme} {n : ℕ} (h : l ∈ marks n) : l = .mark ∨ l = .comma := by
  match n with
  | 0 => simp at h
  | 1 => exact .inl (by simpa using h)
  | n + 2 =>
    rw [marks_succ_succ, List.mem_cons, List.mem_cons] at h
    rcases h with h | h | h
    · exact .inl h
    · exact .inr h
    · exact mem_marks h

lemma Predicate.order_not_mem (p : Predicate) : .keyword .ORDER ∉ p.lexemes := by
  cases p with
  | among count =>
    have hmarks : .keyword .ORDER ∉ marks count := fun h => by simpa using mem_marks h
    simp [lexemes, hmarks]
  | _ => simp [lexemes]

lemma Derives.order_not_mem {level : Level} {ls : List Lexeme} {f : Formula}
    (h : Derives level ls f) : .keyword .ORDER ∉ ls := by
  induction h with
  | test column p => simp [p.order_not_mem]
  | group h ih => simp [ih]
  | primary h ih => exact ih
  | and h hg ih ihg => simp [ih, ihg]
  | conjunction h ih => exact ih
  | or h hg ih ihg => simp [ih, ihg]

namespace Statement

lemma DerivesItems.unique {ls : List Lexeme} {items items' : List (Text × Direction)}
    (h : DerivesItems ls items) (h' : DerivesItems ls items') : items = items' := by
  have hinj {d d' : Direction} (hd : Keyword.ofDirection d = .ofDirection d') : d = d' := by
    cases d <;> cases d' <;> simp_all [Keyword.ofDirection]
  induction h generalizing items' with
  | last name d =>
    generalize hls : [Lexeme.name name, .keyword (.ofDirection d)] = ls at h'
    cases h' with
    | last name' d' =>
      simp only [List.cons.injEq, Lexeme.name.injEq, Lexeme.keyword.injEq, and_true] at hls
      rw [hls.1, hinj hls.2]
    | cons name' d' h' => simp at hls
  | @cons name d ls items h ih =>
    generalize hls : Lexeme.name name :: .keyword (.ofDirection d) :: .comma :: ls = ls' at h'
    cases h' with
    | last name' d' => simp at hls
    | cons name' d' h' =>
      simp only [List.cons.injEq, Lexeme.name.injEq, Lexeme.keyword.injEq, true_and] at hls
      obtain ⟨rfl, hd, rfl⟩ := hls
      rw [hinj hd, ih h']

lemma DerivesWhere.order_not_mem {ls : List Lexeme} {condition : Option Formula}
    (h : DerivesWhere ls condition) : .keyword .ORDER ∉ ls := by
  cases h with
  | none => simp
  | some h => simp [h.order_not_mem]

lemma DerivesWhere.unique {ls : List Lexeme} {condition condition' : Option Formula}
    (h : DerivesWhere ls condition) (h' : DerivesWhere ls condition') : condition = condition' := by
  cases h with
  | none =>
    cases h'
    rfl
  | some h =>
    cases h' with
    | some h' => rw [h.unique h']

lemma DerivesOrder.unique {ls : List Lexeme} {order order' : List (Text × Direction)}
    (h : DerivesOrder ls order) (h' : DerivesOrder ls order') : order = order' := by
  cases h with
  | none =>
    cases h'
    rfl
  | some h =>
    cases h' with
    | some h' => exact h.unique h'

/-- The clause for the order starts at its keyword. -/
lemma takeWhile_where {ls ms : List Lexeme} {condition : Option Formula}
    {order : List (Text × Direction)} (hwhere : DerivesWhere ls condition)
    (horder : DerivesOrder ms order) :
    (ls ++ ms).takeWhile (· != .keyword .ORDER) = ls := by
  rw [List.takeWhile_append_of_pos]
  · cases horder with
    | none => simp
    | some h => simp
  · intro l hl
    have hne : l ≠ .keyword .ORDER := fun heq => hwhere.order_not_mem (heq ▸ hl)
    simpa using hne

/-- **The grammar is unambiguous**: lexemes stand for one statement at most. -/
theorem Derives.unique {ls : List Lexeme} {s s' : Statement} (h : Derives ls s)
    (h' : Derives ls s') : s = s' := by
  -- both derivations cut the lexemes at the keyword of the order, or at the page without one
  obtain ⟨hwhere, horder⟩ := h
  generalize hls : _ ++ _ ++ pageLexemes = ls at h'
  obtain ⟨hwhere', horder'⟩ := h'
  rw [List.append_cancel_right_eq] at hls
  have hprefix := takeWhile_where hwhere horder
  rw [hls, takeWhile_where hwhere' horder'] at hprefix
  subst hprefix
  rw [List.append_cancel_left_eq] at hls
  subst hls
  rw [hwhere.unique hwhere', horder.unique horder']

end Statement

end Listing.Sql
