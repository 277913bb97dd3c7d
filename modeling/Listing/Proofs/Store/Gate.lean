import Mathlib
import Listing.Proofs.Command.Statements
import Listing.Proofs.Sql.Placeholders
import Listing.Proofs.Store.Fetching

/-!
# What gets into a statement

A statement is put together from the name of the table, which is trusted, from names of fields, and
from the fixed words and signs of the language.  The names come from the request, and all of them
have been checked before: a request with a name that is not allowed ends with a complaint about the
first such name and hands no statement to the database.  The command is no way around the check.
-/

namespace Listing.Store

open Sql (Value Fragment Condition Test)

/-- The words and signs of which the fixed parts of a statement consist. -/
def vocabulary : List Text :=
  ["SELECT", "COUNT", "FROM", "WHERE", "AND", "OR", "IS", "IN", "LIKE", "BETWEEN", "ORDER", "BY",
    "ASC", "DESC", "LIMIT", "OFFSET", "*", "=", "<", "<=", ">", ">=", "?", ",", "(", ")", " "]

/-- The texts that are put together from the name of a table, names of fields of a kind, and the
vocabulary. -/
inductive Composed (table : Text) (P : Text → Prop) : Text → Prop
  | nil : Composed table P []
  | table {rest : Text} : Composed table P rest → Composed table P (table ++ rest)
  | name {name rest : Text} : P name → Composed table P rest → Composed table P (name ++ rest)
  | fixed {word rest : Text} :
      word ∈ vocabulary → Composed table P rest → Composed table P (word ++ rest)

namespace Composed

variable {table : Text} {P : Text → Prop}

lemma append {t u : Text} (ht : Composed table P t) (hu : Composed table P u) :
    Composed table P (t ++ u) := by
  induction ht with
  | nil => exact hu
  | table _ ih => exact List.append_assoc _ _ _ ▸ ih.table
  | name hname _ ih => exact List.append_assoc _ _ _ ▸ ih.name hname
  | fixed hword _ ih => exact List.append_assoc _ _ _ ▸ ih.fixed hword

/-- A text made of words and signs alone. -/
lemma of_words (words : List Text) (h : ∀ word ∈ words, word ∈ vocabulary) :
    Composed table P words.flatten := by
  induction words with
  | nil => exact .nil
  | cons word words ih =>
    exact .fixed (h word (by simp)) (ih fun w hw => h w (List.mem_cons_of_mem _ hw))

lemma of_name {name : Text} (h : P name) : Composed table P name :=
  List.append_nil name ▸ .name h .nil

lemma of_table : Composed table P table := by
  simpa using Composed.table (P := P) .nil

lemma joined {separator : Text} (hs : Composed table P separator) {parts : List Text}
    (hp : ∀ p ∈ parts, Composed table P p) : Composed table P (Text.joined separator parts) := by
  induction parts with
  | nil => exact .nil
  | cons p parts ih =>
    have ih := ih fun q hq => hp q (List.mem_cons_of_mem _ hq)
    rcases eq_or_ne parts [] with rfl | hne
    · simpa using hp p (by simp)
    · rw [Text.joined_cons hne]
      exact ((hp p (by simp)).append hs).append ih

/-! ### Conditions and clauses -/

lemma test (test : Test) : Composed table P (' ' :: test.text) := by
  cases test with
  | like => exact of_words [" ", "LIKE", " ", "?"] (by decide)
  | less => exact of_words [" ", "<", " ", "?"] (by decide)
  | lessOrEqual => exact of_words [" ", "<=", " ", "?"] (by decide)
  | greater => exact of_words [" ", ">", " ", "?"] (by decide)
  | greaterOrEqual => exact of_words [" ", ">=", " ", "?"] (by decide)
  | between =>
    exact of_words [" ", "BETWEEN", " ", "?", " ", "AND", " ", "?"] (by decide)

lemma condition {c : Condition} (h : P c.column) : Composed table P c.text := by
  have hcolumn : Composed table P c.column := of_name h
  have hopening : Composed table P "(" := of_words ["("] (by decide)
  have hclosing : Composed table P ")" := of_words [")"] (by decide)
  cases c with
  | is column => exact hcolumn.append (of_words [" ", "IS", " ", "?"] (by decide))
  | equal column => exact hcolumn.append (of_words [" ", "=", " ", "?"] (by decide))
  | among column count =>
    have hin : Composed table P " IN (" := of_words [" ", "IN", " ", "("] (by decide)
    have hcomma : Composed table P ", " := of_words [",", " "] (by decide)
    have hmarks : ∀ p ∈ List.replicate count ("?" : Text), Composed table P p := by
      intro p hp
      rw [List.eq_of_mem_replicate hp]
      exact of_words ["?"] (by decide)
    exact ((hcolumn.append hin).append (hcomma.joined hmarks)).append hclosing
  | any column test count =>
    have hor : Composed table P " OR " := of_words [" ", "OR", " "] (by decide)
    have htests : ∀ p ∈ List.replicate count (column ++ ' ' :: test.text), Composed table P p := by
      intro p hp
      rw [List.eq_of_mem_replicate hp]
      exact hcolumn.append (Composed.test test)
    -- one test stands alone, several stand in parentheses
    rw [Condition.text]
    by_cases hone : count = 1
    · simpa [hone] using htests
    · rw [Condition.alternatives_of_length_ne_one (by simpa using hone)]
      exact (hopening.append (hor.joined htests)).append hclosing

lemma whereText {m : Filters} (h : ∀ e ∈ m.entries, P e.1) :
    Composed table P (Sql.whereText m) := by
  have hand : Composed table P " AND " := of_words [" ", "AND", " "] (by decide)
  refine hand.joined fun p hp => ?_
  obtain ⟨c, hc, rfl⟩ := List.mem_map.1 hp
  obtain ⟨e, he, hce⟩ := List.mem_filterMap.1 hc
  refine condition ?_
  rw [Sql.column_of_condition? hce]
  exact h e he

lemma orderText {m : Sorting} (h : ∀ e ∈ m.entries, P e.1) :
    Composed table P (Sql.orderText m) := by
  have hcomma : Composed table P ", " := of_words [",", " "] (by decide)
  refine hcomma.joined fun p hp => ?_
  obtain ⟨e, he, rfl⟩ := List.mem_map.1 hp
  have hkeyword : Composed table P (' ' :: Sql.keyword e.2) := by
    cases e.2 with
    | ascending => exact of_words [" ", "ASC"] (by decide)
    | descending => exact of_words [" ", "DESC"] (by decide)
  exact (of_name (h e (List.mem_filter.1 he).1)).append hkeyword

lemma clause {start t : Text} (hstart : Composed table P start) (ht : Composed table P t) :
    ∀ p ∈ Sql.clause start t, Composed table P p := by
  intro p hp
  rw [Sql.clause] at hp
  split at hp
  · simp at hp
  · have hblank : Composed table P " " := of_words [" "] (by decide)
    rw [List.mem_singleton.1 hp]
    exact hstart.append (hblank.append ht)

lemma whereClause {m : Filters} (h : ∀ e ∈ m.entries, P e.1) :
    ∀ p ∈ Sql.clause "WHERE" (Sql.whereText m), Composed table P p :=
  clause (of_words ["WHERE"] (by decide)) (whereText h)

/-- The text of a request is put together from the names of its fields and the vocabulary. -/
lemma text {r : Request} (h : ∀ name ∈ r.fieldNames, P name) : Composed table P (Sql.text r) := by
  obtain ⟨hfilters, hsorting⟩ := Sql.forall_fieldNames.1 h
  have hblank : Composed table P " " := of_words [" "] (by decide)
  refine hblank.joined fun p hp => ?_
  rw [List.mem_append, List.mem_append, List.mem_singleton] at hp
  rcases hp with (hp | hp) | rfl
  · exact whereClause hfilters p hp
  · exact clause (of_words ["ORDER", " ", "BY"] (by decide)) (orderText hsorting) p hp
  · exact of_words ["LIMIT", " ", "?", " ", "OFFSET", " ", "?"] (by decide)

lemma countStatement {r : Request} (h : ∀ name ∈ r.fieldNames, P name) (vs : List Value) :
    Composed table P (Store.countStatement table r.filters vs).text := by
  have hblank : Composed table P " " := of_words [" "] (by decide)
  have hselect : Composed table P "SELECT COUNT(*) FROM " :=
    of_words ["SELECT", " ", "COUNT", "(", "*", ")", " ", "FROM", " "] (by decide)
  refine hblank.joined fun p hp => ?_
  rcases List.mem_cons.1 hp with rfl | hp
  · exact hselect.append of_table
  · exact whereClause (Sql.forall_fieldNames.1 h).1 p hp

lemma rowsStatement {r : Request} (h : ∀ name ∈ r.fieldNames, P name) {f : Fragment}
    (hf : Sql.compile r = .ok f) : Composed table P (Store.rowsStatement table f).text := by
  have hblank : Composed table P " " := of_words [" "] (by decide)
  have hselect : Composed table P "SELECT * FROM " :=
    of_words ["SELECT", " ", "*", " ", "FROM", " "] (by decide)
  have htext : Composed table P f.text := (Sql.compile_eq_ok_iff.1 hf).1 ▸ text h
  exact (hselect.append of_table).append (hblank.append htext)

end Composed

/-! ### The gate -/

/-- Counting and fetching let only allowed names into a statement. -/
structure Gated (db : Backend) (table : Text) (r : Request) (allowed : List Text) : Prop where
  /-- Nothing is done for a request with a name that is not allowed, and the first such name is
  reported. -/
  refused : (∃ name ∈ r.fieldNames, name ∉ allowed) →
    ∃ before name after, r.fieldNames = before ++ name :: after ∧ (∀ n ∈ before, n ∈ allowed) ∧
      name ∉ allowed ∧ fetchRows db table r allowed = ⟨[], .error (.disallowed name)⟩ ∧
      fetchCount db table r allowed = ⟨[], .error (.disallowed name)⟩
  /-- For any other request that can be compiled there is one statement each. -/
  executed : (∀ name ∈ r.fieldNames, name ∈ allowed) → ∀ f, Sql.compile r = .ok f →
    ∃ p c, (fetchRows db table r allowed).statements = [p] ∧
      (fetchCount db table r allowed).statements = [c] ∧
      Composed table (· ∈ allowed) p.text ∧ Composed table (· ∈ allowed) c.text
  /-- However a run ends, its statements are put together from allowed names of the request. -/
  composed : ∀ s, s ∈ (fetchRows db table r allowed).statements ∨
      s ∈ (fetchCount db table r allowed).statements →
    (∀ name ∈ r.fieldNames, name ∈ allowed) ∧
      Composed table (fun name => name ∈ r.fieldNames ∧ name ∈ allowed) s.text

variable {db : Backend} {table : Text} {r : Request} {allowed : List Text} {s : Statement}

/-- A statement of counting or of fetching holds names of the request only, and those allowed. -/
lemma composed_of_mem_statements (h : s ∈ (fetchRows db table r allowed).statements ∨
      s ∈ (fetchCount db table r allowed).statements) :
    (∀ name ∈ r.fieldNames, name ∈ allowed) ∧
      Composed table (fun name => name ∈ r.fieldNames ∧ name ∈ allowed) s.text := by
  rcases h with h | h
  · obtain ⟨hallowed, f, hf, rfl⟩ := mem_statements_fetchRows.1 h
    exact ⟨hallowed, .rowsStatement (fun name hname => ⟨hname, hallowed name hname⟩) hf⟩
  · obtain ⟨hallowed, vs, -, rfl⟩ := mem_statements_fetchCount.1 h
    exact ⟨hallowed, .countStatement (fun name hname => ⟨hname, hallowed name hname⟩) vs⟩

lemma gated_of_request (db : Backend) (table : Text) (r : Request) (allowed : List Text) :
    Gated db table r allowed where
  refused h := by
    obtain ⟨before, name, after, hsplit, hbefore, hname, hcheck⟩ := exists_first_of_not_allowed h
    exact ⟨before, name, after, hsplit, hbefore, hname, fetchRows_of_error hcheck,
      fetchCount_of_error hcheck⟩
  executed hallowed f hf := by
    obtain ⟨vs, hvs, -, -⟩ := exists_filterValues_of_compile hf
    exact ⟨_, _, statements_fetchRows hallowed hf, statements_fetchCount hallowed hvs,
      .rowsStatement hallowed hf, .countStatement hallowed vs⟩
  composed _ h := composed_of_mem_statements h

/-- **The gate.**  Counting and fetching are gated, for every database, table, request and list of
allowed fields.  So is the command: whatever query string it is given, a statement that it hands to
the database is put together from the table, the vocabulary, and names that are allowed, and all
names of the request are allowed then. -/
theorem gated (db : Backend) :
    (∀ table r allowed, Gated db table r allowed) ∧
      ∀ env arguments s, s ∈ (Command.execute db env arguments).statements →
        ∃ asked allow, (Request.read arguments.search).outcome = .ok asked ∧
          arguments.allow = some allow ∧
          (∀ name ∈ asked.fieldNames, name ∈ Command.allowedFields allow) ∧
          Composed arguments.table
            (fun name => name ∈ asked.fieldNames ∧ name ∈ Command.allowedFields allow) s.text := by
  refine ⟨gated_of_request db, fun env arguments s hs => ?_⟩
  obtain ⟨settings, asked, r, allow, hasked, hr, hallow, h⟩ := Command.mem_statements_execute hs
  -- the request that is run is not the one that was read, but it has the same names
  obtain ⟨hfilters, hsorting⟩ := filters_and_sorting_of_clamp hr
  have hnames : r.fieldNames = asked.fieldNames := by
    rw [Request.fieldNames, Request.fieldNames, hfilters, hsorting]
  obtain ⟨hallowed, hcomposed⟩ := composed_of_mem_statements h.symm
  rw [hnames] at hallowed
  simp only [hnames] at hcomposed
  exact ⟨asked, allow, hasked, hallow, hallowed, hcomposed⟩

/-- Allowed fields in a request to a database that refuses every statement. -/
theorem gated_locked :
    ∃ p c,
      (fetchRows { first := fun _ => .error "locked", all := fun _ => .error "locked" } "t"
          { filters := ⟨[("a", ⟨.less, ["1"]⟩)]⟩, sorting := ⟨[("b", .ascending)]⟩ }
          ["b", "a"]).statements = [p] ∧
      (fetchCount { first := fun _ => .error "locked", all := fun _ => .error "locked" } "t"
          { filters := ⟨[("a", ⟨.less, ["1"]⟩)]⟩, sorting := ⟨[("b", .ascending)]⟩ }
          ["b", "a"]).statements = [c] ∧
      Composed "t" (· ∈ (["b", "a"] : List Text)) p.text ∧
      Composed "t" (· ∈ (["b", "a"] : List Text)) c.text :=
  ((gated _).1 _ _ _).executed (by decide)
    ⟨"WHERE a < ? ORDER BY b ASC LIMIT ? OFFSET ?", [.integer 1, .integer 50, .integer 0]⟩
    (by decide +kernel)

end Listing.Store
