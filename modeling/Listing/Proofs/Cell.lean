import Mathlib
import Listing.Cell
import Listing.Proofs.Double.Writing
import Listing.Proofs.Text.Quoted

/-!
# A row can be told from its line

The line of a row has all of its cells in order, each behind the name of its column.  `Cell.Says` is
what the text of a cell means, and `Row.Line` what the line of a row means, neither of them put in
terms of the printer: quotation marks are read as such, and whole numbers and doubles as numerals
are.  The row that is printed is one that the line means, and there is no other, but that the
doubles that are no numbers all read alike.
-/

namespace Listing

/-! ### Cells -/

namespace Cell

/-- The cells that have a word of their own. -/
def words : List (Text × Cell) :=
  [("None", null), ("True", bool true), ("False", bool false)]

/-- What a text without quotation marks means as a cell. -/
inductive Bare : Text → Cell → Prop
  | word {t : Text} {c : Cell} : (t, c) ∈ words → Bare t c
  | int {t : Text} {n : ℤ} : Numeral.Spells t n → Bare t (int n)
  | real {t : Text} {x : Double} : (∀ n, ¬Numeral.Spells t n) →
      Double.read? t = some x.canonical → Bare t (real x)

/-- What a text means as a cell. -/
inductive Says : Text → Cell → Prop
  | bare {t : Text} {c : Cell} : Bare t c → Says t c
  | text {t s : Text} : Text.Quotes t s → Says t (text s)
  | blob {t : Text} {octets : List UInt8} : Text.Quotes t (Text.ofOctets octets) →
      Says ('b' :: t) (blob octets)

/-- The cell, where one double stands for all that are not numbers. -/
def canonical : Cell → Cell
  | real x => real x.canonical
  | c => c

lemma says_shown (c : Cell) : Says c.shown c := by
  cases c with
  | null => exact .bare (.word (by simp [words, shown, plain]))
  | bool b => cases b <;> exact .bare (.word (by simp [words, shown, plain]))
  | int n => exact .bare (.int (Numeral.spells_ofInt n))
  | real x => exact .bare (.real (Double.not_spells_text x) (Double.read?_text x))
  | text t => exact .text (Text.quotes_encode _ t)
  | blob octets => exact .blob (Text.quotes_encode _ _)

/-! ### Telling cells apart -/

variable {c c' : Cell} {t t' r r' : Text}

lemma Bare.chars (h : Bare t c) : ∀ d ∈ t, Double.Bare d := by
  cases h with
  | word hword =>
    have hletters : ∀ w ∈ words, ∀ d ∈ w.1, d.isAlphanum = true := by simp [words]
    exact fun d hd => .inl (hletters _ hword d hd)
  | int hspells => exact (Double.written_of_spells hspells).bare
  | real _ hread => exact (Double.exists_read?_iff.1 ⟨_, hread⟩).bare

/-- The words are no numbers. -/
lemma read?_of_word (h : (t, c) ∈ words) : Double.read? t = none := by
  have hwords : ∀ w ∈ words, Double.read? w.1 = none := by decide
  exact hwords _ h

lemma Bare.unique (h : Bare t c) (h' : Bare t c') : c.canonical = c'.canonical := by
  have hnumber {n : ℤ} (hspells : Numeral.Spells t n) : Double.read? t ≠ none := by
    obtain ⟨x, hx⟩ := Double.exists_read?_iff.2 (Double.written_of_spells hspells)
    simp [hx]
  cases h with
  | word hword =>
    have hnone := read?_of_word hword
    cases h' with
    | word hword' =>
      have hwords : ∀ a ∈ words, ∀ b ∈ words, a.1 = b.1 → a.2 = b.2 := by decide
      exact congrArg canonical (hwords _ hword _ hword' rfl)
    | int hspells => exact absurd hnone (hnumber hspells)
    | real _ hread => simp [hnone] at hread
  | int hspells =>
    cases h' with
    | word hword => exact absurd (read?_of_word hword) (hnumber hspells)
    | int hspells' => rw [(Numeral.spells_iff.1 hspells).2, (Numeral.spells_iff.1 hspells').2]
    | real hnot => exact absurd hspells (hnot _)
  | real hnot hread =>
    cases h' with
    | word hword => simp [read?_of_word hword] at hread
    | int hspells => exact absurd hspells (hnot _)
    | real _ hread' => exact congrArg Cell.real (Option.some.inj (hread.symm.trans hread'))

/-- What may follow the text of a cell: nothing that could belong to it. -/
def Closes (r : Text) : Prop :=
  ∀ d ∈ r.head?, ¬Double.Bare d ∧ d ∉ Text.Quoted.marks

/-- No cell without quotation marks is read where one with quotation marks stands. -/
lemma Bare.ne_quotes (h : Bare t c) {front w s : Text} (hfront : ∀ d ∈ front, Double.Bare d)
    (hquotes : Text.Quotes w s) (hr : Closes r) : t ++ r ≠ front ++ (w ++ r') := by
  obtain ⟨q, hq, body, rfl, -⟩ := hquotes
  have hmarks : ∀ q ∈ Text.Quoted.marks, ¬Double.Bare q := by
    simp [Text.Quoted.marks, Double.Bare]
  intro heq
  obtain ⟨-, rfl⟩ := Text.append_inj_of_forall h.chars hfront (fun d hd => (hr d hd).1)
    (by simpa using hmarks q hq) heq
  exact (hr q (by simp)).2 hq

/-- **A cell can be told** from its text, whatever follows in the row. -/
lemma Says.unique (h : Says t c) (h' : Says t' c') (hr : Closes r) (hr' : Closes r')
    (heq : t ++ r = t' ++ r') : c.canonical = c'.canonical ∧ r = r' := by
  have hletter : ∀ d ∈ ['b'], Double.Bare d := by simp [Double.Bare]
  -- the letter in front of octets is no quotation mark
  have hb {w s rest rest' : Text} (hquotes : Text.Quotes w s) : w ++ rest ≠ 'b' :: rest' := by
    obtain ⟨q, hq, body, rfl, -⟩ := hquotes
    intro heq
    obtain ⟨rfl, -⟩ := List.cons.inj heq
    exact absurd hq (by decide)
  cases h with
  | bare hbare =>
    cases h' with
    | bare hbare' =>
      obtain ⟨rfl, hrest⟩ := Text.append_inj_of_forall hbare.chars hbare'.chars
        (fun d hd => (hr d hd).1) (fun d hd => (hr' d hd).1) heq
      exact ⟨hbare.unique hbare', hrest⟩
    | text hquotes => exact absurd heq (hbare.ne_quotes (List.forall_mem_nil _) hquotes hr)
    | blob hquotes => exact absurd heq (hbare.ne_quotes hletter hquotes hr)
  | text hquotes =>
    cases h' with
    | bare hbare => exact absurd heq.symm (hbare.ne_quotes (List.forall_mem_nil _) hquotes hr')
    | text hquotes' =>
      obtain ⟨rfl, hrest⟩ := hquotes.unique hquotes' heq
      exact ⟨rfl, hrest⟩
    | blob hquotes' => exact absurd heq (hb hquotes)
  | blob hquotes =>
    cases h' with
    | bare hbare => exact absurd heq.symm (hbare.ne_quotes hletter hquotes hr')
    | text hquotes' => exact absurd heq.symm (hb hquotes')
    | blob hquotes' =>
      obtain ⟨hoctets, hrest⟩ := hquotes.unique hquotes' (List.cons.inj heq).2
      rw [Text.ofOctets_injective hoctets]
      exact ⟨rfl, hrest⟩

lemma cases_of_canonical_eq (h : c.canonical = c'.canonical) :
    c = c' ∨ ∃ x y : Double, c = real x ∧ c' = real y ∧ x.canonical = y.canonical := by
  cases c with
  | real x =>
    cases c' with
    | real y => exact .inr ⟨x, y, rfl, rfl, Cell.real.inj h⟩
    | _ => cases h
  | _ =>
    cases c' with
    | real y => cases h
    | _ => exact .inl h

/-- The doubles that are no numbers are all said alike. -/
lemma Says.congr (h : Says t c) (heq : c.canonical = c'.canonical) : Says t c' := by
  rcases cases_of_canonical_eq heq with rfl | ⟨x, y, rfl, rfl, hxy⟩
  · exact h
  · cases h with
    | bare hbare =>
      cases hbare with
      | word hword => simp [words] at hword
      | real hnot hread => exact .bare (.real hnot (hread.trans (congrArg some hxy)))

/-! ### Lists of parts -/

section Lists

variable {α β : Type} {R : Text → α → Prop} {f : α → β} {ending : Text}

/-- What stands behind the first of some parts. -/
def behind (ending : Text) (parts : List Text) : Text :=
  (parts.flatMap fun p => ',' :: ' ' :: p) ++ ending

@[simp] lemma behind_cons (ending p : Text) (parts : List Text) :
    behind ending (p :: parts) = ',' :: ' ' :: (p ++ behind ending parts) := by
  simp [behind]

lemma joined_cons_append (ending p : Text) (parts : List Text) :
    Text.joined ", " (p :: parts) ++ ending = p ++ behind ending parts := by
  rw [Text.joined_cons_eq_append, List.append_assoc]
  rfl

lemma closes_behind (h : Closes ending) (parts : List Text) : Closes (behind ending parts) := by
  cases parts with
  | nil => exact h
  | cons p parts =>
    intro d hd
    obtain rfl : ',' = d := by simpa using hd
    simp [Double.Bare, Text.Quoted.marks]

/-- Parts of which the texts tell exactly what `f` tells, and do not start as the list ends. -/
structure Separable (R : Text → α → Prop) (f : α → β) (ending : Text) : Prop where
  unique : ∀ {t t' r r' a a'}, R t a → R t' a' → Closes r → Closes r' → t ++ r = t' ++ r' →
    f a = f a' ∧ r = r'
  congr : ∀ {t a a'}, R t a → f a = f a' → R t a'
  ne_ending : ∀ {t r a}, R t a → t ++ r ≠ ending
  closes : Closes ending
  comma : ending.head? ≠ some ','

lemma Separable.map_eq_of_behind (h : Separable R f ending) {parts parts' : List Text}
    {as as' : List α} (hparts : List.Forall₂ R parts as) (hparts' : List.Forall₂ R parts' as')
    (heq : behind ending parts = behind ending parts') : as.map f = as'.map f := by
  have hne {p : Text} {ps : List Text} : ending ≠ behind ending (p :: ps) := by
    intro heq
    exact h.comma (by rw [heq, behind_cons]; rfl)
  induction hparts generalizing parts' as' with
  | nil =>
    cases hparts' with
    | nil => rfl
    | cons => exact absurd heq hne
  | cons ha _ ih =>
    cases hparts' with
    | nil => exact absurd heq.symm hne
    | cons ha' hrest' =>
      simp only [behind_cons, List.cons.injEq, true_and] at heq
      obtain ⟨ha, hrest⟩ :=
        h.unique ha ha' (closes_behind h.closes _) (closes_behind h.closes _) heq
      rw [List.map_cons, List.map_cons, ha, ih hrest' hrest]

lemma Separable.map_eq_of_joined (h : Separable R f ending) {parts parts' : List Text}
    {as as' : List α} (hparts : List.Forall₂ R parts as) (hparts' : List.Forall₂ R parts' as')
    (heq : Text.joined ", " parts ++ ending = Text.joined ", " parts' ++ ending) :
    as.map f = as'.map f := by
  cases hparts with
  | nil =>
    cases hparts' with
    | nil => rfl
    | cons ha' =>
      rw [joined_cons_append] at heq
      exact absurd heq.symm (h.ne_ending ha')
  | cons ha hrest =>
    cases hparts' with
    | nil =>
      rw [joined_cons_append] at heq
      exact absurd heq (h.ne_ending ha)
    | cons ha' hrest' =>
      rw [joined_cons_append, joined_cons_append] at heq
      obtain ⟨ha, heq⟩ :=
        h.unique ha ha' (closes_behind h.closes _) (closes_behind h.closes _) heq
      rw [List.map_cons, List.map_cons, ha, h.map_eq_of_behind hrest hrest' heq]

lemma Separable.forall₂_congr (h : Separable R f ending) {parts : List Text} {as as' : List α}
    (hparts : List.Forall₂ R parts as) (heq : as'.map f = as.map f) :
    List.Forall₂ R parts as' := by
  induction hparts generalizing as' with
  | nil =>
    rw [List.map_eq_nil_iff.1 heq]
    exact .nil
  | cons ha _ ih =>
    obtain ⟨a, rest, rfl, hhead, hrest⟩ := List.map_eq_cons_iff.1 heq
    exact .cons (h.congr ha hhead.symm) (ih hrest)

/-- **What a list of parts can mean** is the same for `f`. -/
lemma Separable.exists_joined_iff (h : Separable R f ending) {parts : List Text} {as as' : List α}
    (hparts : List.Forall₂ R parts as) :
    (∃ parts', Text.joined ", " parts ++ ending = Text.joined ", " parts' ++ ending ∧
      List.Forall₂ R parts' as') ↔ as'.map f = as.map f := by
  constructor
  · rintro ⟨parts', heq, hparts'⟩
    exact h.map_eq_of_joined hparts' hparts heq.symm
  · intro heq
    exact ⟨parts, rfl, h.forall₂_congr hparts heq⟩

end Lists

end Cell

/-! ### Rows -/

namespace Row

/-- What a text means as a cell with the name of its column. -/
def Entry (t : Text) (e : Text × Cell) : Prop :=
  ∃ name cell, t = name ++ ": " ++ cell ∧ Text.Quotes name e.1 ∧ Cell.Says cell e.2

/-- What a line means as a row: all cells in order, between braces. -/
def Line (row : Row) (line : Text) : Prop :=
  ∃ parts, line = '\x7b' :: Text.joined ", " parts ++ ['\x7d'] ∧
    List.Forall₂ Entry parts row.entries

/-- The row, where one double stands for all that are not numbers. -/
def canonical (row : Row) : Row :=
  ⟨row.entries.map fun e => (e.1, e.2.canonical)⟩

lemma separable_entry :
    Cell.Separable Entry (fun e => (e.1, e.2.canonical)) (['\x7d'] : Text) where
  unique := by
    rintro t t' r r' a a' ⟨name, cell, rfl, hname, hcell⟩ ⟨name', cell', rfl, hname', hcell'⟩ hr hr'
      heq
    simp only [List.append_assoc] at heq
    obtain ⟨hnames, heq⟩ := hname.unique hname' heq
    obtain ⟨hcells, hrest⟩ := hcell.unique hcell' hr hr' (List.append_cancel_left heq)
    exact ⟨Prod.ext hnames hcells, hrest⟩
  congr := by
    rintro t a a' ⟨name, cell, rfl, hname, hcell⟩ heq
    obtain ⟨hnames, hcells⟩ := Prod.mk.inj heq
    exact ⟨name, cell, rfl, hnames ▸ hname, hcell.congr hcells⟩
  ne_ending := by
    rintro t r a ⟨name, cell, rfl, ⟨q, hq, body, rfl, -⟩, -⟩ heq
    obtain rfl : q = '\x7d' := (List.cons.inj heq).1
    exact absurd hq (by decide)
  closes := by simp [Cell.Closes, Double.Bare, Text.Quoted.marks]
  comma := by decide

lemma entry_shown (e : Text × Cell) : Entry (Text.quoted e.1 ++ ": " ++ e.2.shown) e :=
  ⟨_, _, rfl, Text.quotes_encode _ _, Cell.says_shown _⟩

/-- **A row can be told** from its line, and the doubles that are no numbers are all told alike. -/
theorem line_shown_iff {row row' : Row} : Line row' row.shown ↔ row'.canonical = row.canonical := by
  have hparts : List.Forall₂ Entry
      (row.entries.map fun e => Text.quoted e.1 ++ ": " ++ e.2.shown) row.entries :=
    List.forall₂_map_left_iff.2 (List.forall₂_same.2 fun e _ => entry_shown e)
  have hline (parts : List Text) :
      row.shown = '\x7b' :: Text.joined ", " parts ++ ['\x7d'] ↔
        Text.joined ", " (row.entries.map fun e => Text.quoted e.1 ++ ": " ++ e.2.shown) ++
          ['\x7d'] = Text.joined ", " parts ++ ['\x7d'] := by
    rw [Row.shown]
    simp
  have hcanonical : row'.canonical = row.canonical ↔
      row'.entries.map (fun e => (e.1, e.2.canonical)) =
        row.entries.map fun e => (e.1, e.2.canonical) :=
    Fields.mk.injEq _ _ ▸ Iff.rfl
  rw [hcanonical, ← separable_entry.exists_joined_iff hparts, Line]
  simp only [hline]

end Row

end Listing
