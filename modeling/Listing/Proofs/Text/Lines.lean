import Mathlib
import Listing.Text.Quoted
import Listing.Proofs.Text.Splitting

/-!
# Single lines

A text is a single line if nothing in it ends a line.  What is put together from several texts is a
single line exactly if all of them are, so it is enough to look at the parts.  Quoted text is a
single line whatever it quotes: the two characters that end lines are written as escapes in it.
-/

namespace Listing.Text

/-- A text with no character in it that ends a line. -/
def SingleLine (t : Text) : Prop :=
  ∀ c ∈ t, c ≠ '\n' ∧ c ≠ '\r'

instance (t : Text) : Decidable (SingleLine t) :=
  List.decidableBAll _ t

/-! ### Texts made of parts -/

@[simp] lemma singleLine_nil : SingleLine [] :=
  List.forall_mem_nil _

@[simp] lemma singleLine_cons {c : Char} {t : Text} :
    SingleLine (c :: t) ↔ (c ≠ '\n' ∧ c ≠ '\r') ∧ SingleLine t :=
  List.forall_mem_cons

@[simp] lemma singleLine_append {s t : Text} :
    SingleLine (s ++ t) ↔ SingleLine s ∧ SingleLine t :=
  List.forall_mem_append

/-- Joined text is a single line if its parts are, and only then. -/
lemma singleLine_joined {separator : Text} (hs : SingleLine separator) {parts : List Text} :
    SingleLine (joined separator parts) ↔ ∀ p ∈ parts, SingleLine p := by
  induction parts with
  | nil => simp
  | cons p parts ih =>
    rcases eq_or_ne parts [] with rfl | hne
    · simp
    · rw [joined_cons hne, singleLine_append, singleLine_append, ih, List.forall_mem_cons]
      simp [hs]

lemma SingleLine.of_subset {s t : Text} (h : SingleLine t) (hsub : s ⊆ t) : SingleLine s :=
  fun c hc => h c (hsub hc)

lemma SingleLine.replicate {c : Char} (h : c ≠ '\n' ∧ c ≠ '\r') (n : ℕ) :
    SingleLine (List.replicate n c) := by
  intro d hd
  rw [List.eq_of_mem_replicate hd]
  exact h

/-- Both characters that end lines are blank. -/
lemma Solid.singleLine {t : Text} (h : Solid t) : SingleLine t := by
  intro c hc
  have hblank := h c hc
  constructor <;> rintro rfl <;> exact absurd hblank (by decide)

/-- The text that a trimmed text is cut out of holds all its characters. -/
lemma singleLine_trim {t : Text} (h : SingleLine t) : SingleLine (trim t) := by
  obtain ⟨before, after, -, -, ht⟩ := exists_trim t
  rw [ht, singleLine_append, singleLine_append] at h
  exact h.1.2

/-- The parts of a single line between separators are single lines. -/
lemma SingleLine.of_mem_splitOn {c : Char} (hc : c ≠ '\n' ∧ c ≠ '\r') {t part : Text}
    (h : SingleLine t) (hpart : part ∈ t.splitOn c) : SingleLine part := by
  have hseparator : SingleLine [c] := singleLine_cons.2 ⟨hc, singleLine_nil⟩
  rw [← joined_splitOn c t, singleLine_joined hseparator] at h
  exact h part hpart

/-! ### Quoted text -/

lemma singleLine_hexDigits (width n : ℕ) : SingleLine (hexDigits width n) := by
  have hdigit : ∀ k < 16, Nat.digitChar k ≠ '\n' ∧ Nat.digitChar k ≠ '\r' := by decide
  induction width generalizing n with
  | zero => simp [hexDigits]
  | succ width ih =>
    rw [hexDigits, singleLine_append]
    exact ⟨ih (n / 16), singleLine_cons.2
      ⟨hdigit (n % 16) (Nat.mod_lt n (by omega)), singleLine_nil⟩⟩

namespace Quoted

lemma mark_eq (t : Text) : mark t = '"' ∨ mark t = '\'' := by
  rw [mark]
  split
  · exact Or.inl rfl
  · exact Or.inr rfl

lemma singleLine_escapeNumber (n : ℕ) : SingleLine (escapeNumber n) := by
  rw [escapeNumber]
  split
  · simp [singleLine_hexDigits]
  · split <;> simp [singleLine_hexDigits]

/-- A character is a single line between quotes, since what ends lines is escaped before it is
asked whether it prints. -/
lemma singleLine_escape (prints : Char → Bool) {q : Char} (hq : q ≠ '\n' ∧ q ≠ '\r') (c : Char) :
    SingleLine (escape prints q c) := by
  rw [escape]
  split_ifs with hquote htab hfeed hreturn hprints
  · simp only [Bool.or_eq_true, decide_eq_true_eq] at hquote
    rcases hquote with rfl | rfl
    · simp [hq]
    · simp
  · simp
  · simp
  · simp
  · simp [hfeed, hreturn]
  · exact singleLine_escapeNumber c.toNat

/-- **Quoted text is a single line**, whatever characters are taken to print. -/
lemma singleLine_encode (prints : Char → Bool) (t : Text) : SingleLine (encode prints t) := by
  have hmark : mark t ≠ '\n' ∧ mark t ≠ '\r' := by
    rcases mark_eq t with h | h <;> rw [h] <;> decide
  have hbody : SingleLine (t.flatMap (escape prints (mark t))) := by
    intro d hd
    obtain ⟨c, -, hc⟩ := List.mem_flatMap.1 hd
    exact singleLine_escape prints hmark c d hc
  rw [encode]
  simp [hmark, hbody]

end Quoted

end Listing.Text
