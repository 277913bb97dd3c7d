import Mathlib
import Listing.Proofs.Text.Lines
import Listing.Proofs.Text.Spelling

/-!
# Quoted text is read back

Between quotes a character stands for itself, or it is written after a backslash: by a name of one
letter, or by its number, with as many hexadecimal digits as the letter in front of them announces.
`Quotes` is this notation, put in terms of the text alone.  What is quoted can be told from it
whatever follows, since no character starts like another and the quote itself has to be escaped.
-/

namespace Listing.Text

/-! ### Hexadecimal numbers -/

/-- Hexadecimal digits in either case and the number that they denote. -/
inductive Hexadecimal : Text → ℕ → Prop
  | nil : Hexadecimal [] 0
  | digit {t : Text} {n d : ℕ} {c : Char} : Hexadecimal t n → Percent.IsHexDigit d c →
      Hexadecimal (t ++ [c]) (16 * n + d)

lemma Hexadecimal.eq_foldl {t : Text} {n : ℕ} (h : Hexadecimal t n) :
    n = t.foldl (fun n c => 16 * n + (Percent.hexValue? c).getD 0) 0 := by
  induction h with
  | nil => rfl
  | digit _ hdigit ih =>
    rw [List.foldl_append, ← ih, List.foldl_cons, List.foldl_nil,
      Percent.hexValue?_of_isHexDigit hdigit, Option.getD_some]

lemma Hexadecimal.unique {t : Text} {m n : ℕ} (hm : Hexadecimal t m) (hn : Hexadecimal t n) :
    m = n :=
  hm.eq_foldl.trans hn.eq_foldl.symm

@[simp] lemma length_hexDigits (width n : ℕ) : (hexDigits width n).length = width := by
  induction width generalizing n with
  | zero => rfl
  | succ width ih => rw [hexDigits, List.length_append, ih, List.length_singleton]

/-- A number is written with its last digits. -/
lemma hexadecimal_hexDigits (width n : ℕ) : Hexadecimal (hexDigits width n) (n % 16 ^ width) := by
  have hdigit : ∀ k < 16, Percent.lowerDigits[k]? = some (Nat.digitChar k) := by decide
  induction width generalizing n with
  | zero =>
    rw [pow_zero, Nat.mod_one]
    exact .nil
  | succ width ih =>
    rw [pow_succ', Nat.mod_mul, Nat.add_comm (n % 16)]
    exact .digit (ih (n / 16)) (.inl (hdigit (n % 16) (Nat.mod_lt n (by decide))))

namespace Quoted

/-! ### The notation -/

/-- The quotes. -/
def marks : List Char := ['"', '\'']

/-- The names of characters between quotes `q`: the quote and the backslash have their own. -/
def named (q : Char) : List (Char × Char) :=
  [(q, q), ('\\', '\\'), ('t', '\t'), ('n', '\n'), ('r', '\r')]

/-- The letters that announce a number, and how many digits it has. -/
def widths : List (Char × ℕ) :=
  [('x', 2), ('u', 4), ('U', 8)]

/-- What a character is written as between quotes `q`. -/
inductive Stands (q : Char) : Text → Char → Prop
  | itself {c : Char} : c ≠ q → c ≠ '\\' → Stands q [c] c
  | name {letter c : Char} : (letter, c) ∈ named q → Stands q ['\\', letter] c
  | number {letter c : Char} {digits : Text} : (letter, digits.length) ∈ widths →
      Hexadecimal digits c.toNat → Stands q ('\\' :: letter :: digits) c

/-- What a text is written as between quotes `q`, character by character. -/
inductive Body (q : Char) : Text → Text → Prop
  | nil : Body q [] []
  | cons {w ws t : Text} {c : Char} : Stands q w c → Body q ws t → Body q (w ++ ws) (c :: t)

/-! ### Reading back -/

section Unique

variable {q c c' : Char} {w w' r r' t t' : Text}

lemma Stands.ne_nil (h : Stands q w c) : w ≠ [] := by
  cases h <;> exact List.cons_ne_nil _ _

lemma Stands.head?_ne (h : Stands q w c) (hq : q ∈ marks) : w.head? ≠ some q := by
  have hbackslash : '\\' ∉ marks := by decide
  cases h with
  | itself hne => exact fun h => hne (Option.some.inj h)
  | name | number => exact fun h => hbackslash (Option.some.inj h ▸ hq)

/-- What a backslash announces depends on the letter behind it. -/
lemma eq_of_letter (hq : q ∈ marks) :
    (∀ a ∈ named q, ∀ b ∈ named q, a.1 = b.1 → a.2 = b.2) ∧
      (∀ a ∈ named q, ∀ b ∈ widths, a.1 ≠ b.1) ∧
      ∀ a ∈ widths, ∀ b ∈ widths, a.1 = b.1 → a.2 = b.2 := by
  simp only [marks, List.mem_cons, List.not_mem_nil, or_false] at hq
  rcases hq with rfl | rfl <;> simp [named, widths]

/-- **A character can be told** from what it is written as, whatever follows. -/
lemma Stands.unique (hq : q ∈ marks) (h : Stands q w c) (h' : Stands q w' c')
    (heq : w ++ r = w' ++ r') : c = c' ∧ r = r' := by
  obtain ⟨hnames, hnumbers, hwidths⟩ := eq_of_letter hq
  cases h with
  | itself _ hbackslash =>
    cases h' with
    | itself => simpa using heq
    | name | number => exact absurd (List.cons.inj heq).1 hbackslash
  | name hname =>
    cases h' with
    | itself _ hbackslash => exact absurd (List.cons.inj heq).1.symm hbackslash
    | name hname' =>
      obtain ⟨hletter, hrest⟩ := List.cons.inj (List.cons.inj heq).2
      exact ⟨hnames _ hname _ hname' hletter, hrest⟩
    | number hwidth =>
      exact absurd (List.cons.inj (List.cons.inj heq).2).1 (hnumbers _ hname _ hwidth)
  | number hwidth hdigits =>
    cases h' with
    | itself _ hbackslash => exact absurd (List.cons.inj heq).1.symm hbackslash
    | name hname =>
      exact absurd (List.cons.inj (List.cons.inj heq).2).1.symm (hnumbers _ hname _ hwidth)
    | number hwidth' hdigits' =>
      obtain ⟨hletter, hrest⟩ := List.cons.inj (List.cons.inj heq).2
      obtain ⟨rfl, htail⟩ := List.append_inj hrest (hwidths _ hwidth _ hwidth' hletter)
      exact ⟨Char.toNat_inj.1 (hdigits.unique hdigits'), htail⟩

lemma Body.unique (hq : q ∈ marks) (h : Body q w t) (h' : Body q w' t')
    (heq : w ++ q :: r = w' ++ q :: r') : t = t' ∧ r = r' := by
  -- the quote that ends the text is no character of it
  have hend {v ws s : Text} {d : Char} (hstands : Stands q v d) : v ++ ws ≠ q :: s := by
    intro h
    have hhead := congrArg List.head? h
    rw [List.head?_append_of_ne_nil _ hstands.ne_nil] at hhead
    exact hstands.head?_ne hq hhead
  induction h generalizing w' t' with
  | nil =>
    cases h' with
    | nil => exact ⟨rfl, (List.cons.inj heq).2⟩
    | cons hstands =>
      rw [List.append_assoc] at heq
      exact absurd heq.symm (hend hstands)
  | cons hstands _ ih =>
    rw [List.append_assoc] at heq
    cases h' with
    | nil => exact absurd heq (hend hstands)
    | cons hstands' hbody' =>
      rw [List.append_assoc] at heq
      obtain ⟨rfl, hrest⟩ := hstands.unique hq hstands' heq
      obtain ⟨rfl, hrest⟩ := ih hbody' hrest
      exact ⟨rfl, hrest⟩

end Unique

/-! ### Writing -/

lemma mark_mem (t : Text) : mark t ∈ marks := by
  rcases mark_eq t with h | h <;> rw [h] <;> decide

lemma stands_escapeNumber (q c : Char) : Stands q (escapeNumber c.toNat) c := by
  have hnumber {letter : Char} {width : ℕ} (hwidth : (letter, width) ∈ widths)
      (hlt : c.toNat < 16 ^ width) : Stands q ('\\' :: letter :: hexDigits width c.toNat) c := by
    have hdigits := hexadecimal_hexDigits width c.toNat
    rw [Nat.mod_eq_of_lt hlt] at hdigits
    exact .number (by rwa [length_hexDigits]) hdigits
  rw [escapeNumber]
  split
  · next h => exact @hnumber 'x' 2 (by decide) h
  · split
    · next h => exact @hnumber 'u' 4 (by decide) h
    · have hvalid := Utf8.toNat_valid c
      exact @hnumber 'U' 8 (by decide) (by omega)

lemma stands_escape (prints : Char → Bool) (q c : Char) : Stands q (escape prints q c) c := by
  rw [escape]
  split_ifs with hquote htab hfeed hreturn hprints
  · simp only [Bool.or_eq_true, decide_eq_true_eq] at hquote
    exact .name (by rcases hquote with rfl | rfl <;> simp [named])
  · exact .name (by simp [named, htab])
  · exact .name (by simp [named, hfeed])
  · exact .name (by simp [named, hreturn])
  · simp only [Bool.or_eq_true, decide_eq_true_eq, not_or] at hquote
    exact .itself hquote.1 hquote.2
  · exact stands_escapeNumber q c

lemma body_escape (prints : Char → Bool) (q : Char) (t : Text) :
    Body q (t.flatMap (escape prints q)) t := by
  induction t with
  | nil => exact .nil
  | cons c t ih => exact .cons (stands_escape prints q c) ih

end Quoted

/-! ### Quoted text -/

/-- A text is written between quotes. -/
def Quotes (written t : Text) : Prop :=
  ∃ q ∈ Quoted.marks, ∃ body, written = q :: body ++ [q] ∧ Quoted.Body q body t

lemma quotes_encode (prints : Char → Bool) (t : Text) : Quotes (Quoted.encode prints t) t :=
  ⟨_, Quoted.mark_mem t, _, rfl, Quoted.body_escape prints _ t⟩

/-- **Quoted text is read back**, whatever follows. -/
lemma Quotes.unique {w w' r r' t t' : Text} (h : Quotes w t) (h' : Quotes w' t')
    (heq : w ++ r = w' ++ r') : t = t' ∧ r = r' := by
  obtain ⟨q, hq, body, rfl, hbody⟩ := h
  obtain ⟨q', -, body', rfl, hbody'⟩ := h'
  simp only [List.cons_append, List.append_assoc, List.cons.injEq] at heq
  obtain ⟨rfl, heq⟩ := heq
  exact hbody.unique hq hbody' heq

/-! ### Octets -/

lemma ofOctets_injective : Function.Injective ofOctets := by
  have hchar : Function.Injective fun o : UInt8 => Char.ofNat o.toNat := by
    intro a b h
    have hnat := congrArg Char.toNat h
    have hlt (o : UInt8) : o.toNat.isValidChar := .inl (o.toNat_lt.trans (by decide))
    rwa [Char.toNat_ofNat, Char.toNat_ofNat, if_pos (hlt a), if_pos (hlt b), UInt8.toNat_inj]
      at hnat
  exact List.map_injective_iff.2 hchar

end Listing.Text
