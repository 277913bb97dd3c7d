import Mathlib
import Listing.Sql.Fragment
import Listing.Proofs.Cell
import Listing.Proofs.Sql.Values
import Listing.Proofs.Sql.Typing

/-!
# Values can be told from the line that shows them

A value is shown by the word for its type, with what it holds between parentheses, and the values of
a statement are shown one after the other.  `Says` is what the text of a value means, in terms of
cells, whose notation is the same; so the values of a compiled request are the only ones that their
line can mean, and what the database is handed for them is known from the line.
-/

namespace Listing.Sql.Value

/-- The word for the type of the value. -/
def word : Value → String
  | null => "Null"
  | integer _ => "Integer"
  | real _ => "Real"
  | text _ => "Text"
  | blob _ => "Blob"

/-- The word for the type of the value, as text. -/
def kind (v : Value) : Text := v.word

/-- What the value holds, as a cell. -/
def cell : Value → Cell
  | null => .null
  | integer n => .int n
  | real x => .real x
  | text t => .text t
  | blob octets => .blob octets

/-- The value, where one double stands for all that are not numbers. -/
def canonical : Value → Value
  | real x => real x.canonical
  | v => v

/-- What a text means as a value: the null value has nothing between parentheses. -/
def Says (t : Text) (v : Value) : Prop :=
  (v = null ∧ t = v.kind) ∨
    v ≠ null ∧ ∃ held, t = v.kind ++ '(' :: (held ++ [')']) ∧ Cell.Says held v.cell

/-- What a line means as values, in order. -/
def Line (values : List Value) (line : Text) : Prop :=
  ∃ parts, line = Text.joined ", " parts ∧ List.Forall₂ Says parts values

/-! ### One value -/

lemma cell_injective : Function.Injective cell := by
  intro v w h
  cases v <;> cases w <;> cases h <;> rfl

lemma cell_canonical (v : Value) : v.canonical.cell = v.cell.canonical := by
  cases v <;> rfl

lemma shown_eq {v : Value} (h : v ≠ null) :
    v.shown = v.kind ++ '(' :: (v.cell.shown ++ [')']) := by
  have hparentheses (word held : Text) :
      word ++ ['('] ++ held ++ [')'] = word ++ '(' :: (held ++ [')']) := by simp
  cases v with
  | null => exact absurd rfl h
  | integer n => exact hparentheses "Integer" (Numeral.ofInt n)
  | real x => exact hparentheses "Real" x.text
  | text t => exact hparentheses "Text" (Text.quoted t)
  | blob octets => exact hparentheses "Blob" (Text.quotedOctets octets)

lemma says_shown (v : Value) : Says v.shown v := by
  by_cases h : v = null
  · exact .inl ⟨h, h ▸ rfl⟩
  · exact .inr ⟨h, _, shown_eq h, Cell.says_shown v.cell⟩

lemma bare_kind (v : Value) : ∀ c ∈ v.kind, Double.Bare c := by
  cases v <;> simp [kind, word, Double.Bare]

lemma eq_null_of_kind {v : Value} (h : v.kind = null.kind) : v = null := by
  cases v with
  | null => rfl
  | _ => simp [kind, word] at h

/-- **A value can be told** from its text, whatever follows on the line. -/
lemma Says.unique {v w : Value} {t t' r r' : Text} (h : Says t v) (h' : Says t' w)
    (hr : Cell.Closes r) (hr' : Cell.Closes r') (heq : t ++ r = t' ++ r') :
    v.canonical = w.canonical ∧ r = r' := by
  -- the word ends at a parenthesis, or where the value ends
  have hopen (s : Text) : ∀ c ∈ ('(' :: s).head?, ¬Double.Bare c := by simp [Double.Bare]
  have hend {s : Text} (hs : Cell.Closes s) : ∀ c ∈ s.head?, ¬Double.Bare c :=
    fun c hc => (hs c hc).1
  have hclose (s : Text) : Cell.Closes (')' :: s) := by
    simp [Cell.Closes, Double.Bare, Text.Quoted.marks]
  rcases h with ⟨rfl, rfl⟩ | ⟨hne, held, rfl, hheld⟩
  · rcases h' with ⟨rfl, rfl⟩ | ⟨hne', held', rfl, -⟩
    · exact ⟨rfl, List.append_cancel_left heq⟩
    · rw [List.append_assoc] at heq
      obtain ⟨hkind, -⟩ :=
        Text.append_inj_of_forall (bare_kind _) (bare_kind _) (hend hr) (hopen _) heq
      exact absurd (eq_null_of_kind hkind.symm) hne'
  · rw [List.append_assoc] at heq
    rcases h' with ⟨rfl, rfl⟩ | ⟨hne', held', rfl, hheld'⟩
    · obtain ⟨hkind, -⟩ :=
        Text.append_inj_of_forall (bare_kind _) (bare_kind _) (hopen _) (hend hr') heq
      exact absurd (eq_null_of_kind hkind) hne
    · rw [List.append_assoc] at heq
      obtain ⟨-, htail⟩ :=
        Text.append_inj_of_forall (bare_kind _) (bare_kind _) (hopen _) (hopen _) heq
      have hheads : held ++ ')' :: r = held' ++ ')' :: r' := by simpa using htail
      obtain ⟨hcell, hrest⟩ := hheld.unique hheld' (hclose r) (hclose r') hheads
      refine ⟨cell_injective ?_, (List.cons.inj hrest).2⟩
      rw [cell_canonical, cell_canonical, hcell]

/-! ### Lines of values -/

lemma Says.ne_nil {v : Value} {t : Text} (h : Says t v) : t ≠ [] := by
  have hkind : v.kind ≠ [] := by cases v <;> simp [kind, word]
  rcases h with ⟨-, rfl⟩ | ⟨-, held, rfl, -⟩
  · exact hkind
  · exact List.append_ne_nil_of_left_ne_nil hkind _

lemma canonical_eq_null_iff {v : Value} : v.canonical = null ↔ v = null := by
  cases v <;> simp [canonical]

lemma Says.congr {v w : Value} {t : Text} (h : Says t v) (heq : v.canonical = w.canonical) :
    Says t w := by
  have hkind (v : Value) : v.canonical.kind = v.kind := by cases v <;> rfl
  have hnull : v = null ↔ w = null := by
    rw [← canonical_eq_null_iff, heq, canonical_eq_null_iff]
  rw [Says, ← hkind, heq, hkind] at h
  rcases h with ⟨hv, rfl⟩ | ⟨hv, held, rfl, hheld⟩
  · exact .inl ⟨hnull.1 hv, rfl⟩
  · refine .inr ⟨mt hnull.2 hv, held, rfl, hheld.congr ?_⟩
    rw [← cell_canonical, heq, cell_canonical]

lemma separable_says : Cell.Separable Says canonical [] where
  unique := Says.unique
  congr := Says.congr
  ne_ending h := List.append_ne_nil_of_left_ne_nil h.ne_nil _
  closes := by simp [Cell.Closes]
  comma := by simp

/-- **Values can be told** from the line that shows them. -/
theorem line_shown_iff {values other : List Value} :
    Line other (Text.joined ", " (values.map shown)) ↔
      other.map canonical = values.map canonical := by
  have hparts : List.Forall₂ Says (values.map shown) values :=
    List.forall₂_map_left_iff.2 (List.forall₂_same.2 fun v _ => says_shown v)
  have h (parts : List Text) : Text.joined ", " (values.map shown) = Text.joined ", " parts ↔
      Text.joined ", " (values.map shown) ++ [] = Text.joined ", " parts ++ [] := by
    rw [List.append_nil, List.append_nil]
  rw [← separable_says.exists_joined_iff hparts, Line]
  simp only [h]

/-! ### Compiled values -/

lemma canonical_ofNotation (t : Text) : (ofNotation t).canonical = ofNotation t := by
  rw [ofNotation]
  split
  · next x hread => exact congrArg real (Double.canonical_of_read? hread)
  · rfl

lemma canonical_of_infer {t : Text} {v : Value} (h : infer t = .ok v) : v.canonical = v := by
  rw [infer] at h
  simp only at h
  split at h
  · split at h
    · cases h
    · obtain rfl := Except.ok.inj h
      split
      · rfl
      · exact canonical_ofNotation t
  · obtain rfl := Except.ok.inj h
    exact canonical_ofNotation t

lemma canonical_of_bind {c : Comparison} {t : Text} {v : Value} (h : bind c t = .ok v) :
    v.canonical = v := by
  by_cases ht : t = nullWord
  · rw [bind, if_pos ht] at h
    obtain rfl := Except.ok.inj h
    rfl
  · by_cases hc : c ∈ typed
    · rw [bind_of_typed hc ht] at h
      exact canonical_of_infer h
    · obtain ⟨t', ht'⟩ := bind_of_not_typed hc ht
      obtain rfl := Except.ok.inj (ht'.symm.trans h)
      rfl

/-- No compiled request has another double that is no number than the one that is read. -/
lemma canonical_of_compile {r : Request} {f : Fragment} (h : compile r = .ok f) :
    f.values.map canonical = f.values := by
  obtain ⟨-, -, ws, hws, hvalues⟩ := values_eq_ok_iff.1 (compile_eq_ok_iff.1 h).2
  have hall : ∀ v ∈ ws, v.canonical = v := by
    intro v hv
    obtain ⟨b, -, hbind⟩ := exists_mem_of_mapM (mapM_eq_ok_iff.2 hws) hv
    exact canonical_of_bind hbind
  rw [hvalues, List.map_append, List.map_congr_left hall, List.map_id']
  rfl

end Listing.Sql.Value
