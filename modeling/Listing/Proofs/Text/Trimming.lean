import Mathlib
import Listing.Text.Basic

/-!
# What trimming keeps

Trimming takes blanks off both ends of a text and nothing else.  So a text without blanks at its
ends is its own trimming, the blank texts are the ones of which nothing is left, and a character
that is not blank occurs in a trimmed text as often as in the text itself.  The last fact is what
lets the readers look for their separators before or after they trim.
-/

namespace Listing.Text

/-- A text that neither starts nor ends with a blank. -/
def Trimmed (t : Text) : Prop :=
  (∀ c ∈ t.head?, isBlank c = false) ∧ ∀ c ∈ t.getLast?, isBlank c = false

/-- A text without any blank. -/
def Solid (t : Text) : Prop :=
  ∀ c ∈ t, isBlank c = false

lemma blank_iff {t : Text} : blank t = true ↔ ∀ c ∈ t, isBlank c = true := by
  simp [blank]

lemma blank_eq_false_iff {t : Text} : blank t = false ↔ ∃ c ∈ t, isBlank c = false := by
  simp [blank]

lemma not_mem_of_blank {c : Char} (hc : isBlank c = false) {t : Text} (h : blank t = true) :
    c ∉ t := by
  intro hmem
  rw [blank_iff.1 h c hmem] at hc
  cases hc

@[simp] lemma blank_nil : blank [] = true := rfl

@[simp] lemma blank_append (s t : Text) : blank (s ++ t) = (blank s && blank t) := by
  simp [blank]

/-- The characters of ASCII that print, the space apart, are no blanks. -/
lemma isBlank_of_graphic {c : Char} (h₁ : 0x20 < c.toNat) (h₂ : c.toNat < 0x7F) :
    isBlank c = false := by
  simp only [isBlank, isSpace, Bool.or_eq_false_iff, Bool.and_eq_false_iff, decide_eq_false_iff_not,
    beq_eq_false_iff_ne]
  omega

/-! ### The blanks that are taken off -/

/-- A text is its trimming between two blank texts. -/
lemma exists_trim (t : Text) :
    ∃ before after : Text, blank before = true ∧ blank after = true ∧
      t = before ++ trim t ++ after := by
  set rest := t.dropWhile isBlank with hrest
  refine ⟨t.takeWhile isBlank, (rest.reverse.takeWhile isBlank).reverse, ?_, ?_, ?_⟩
  · rw [blank_iff]
    exact fun c hc => List.mem_takeWhile_imp hc
  · rw [blank_iff]
    intro c hc
    exact List.mem_takeWhile_imp (List.mem_reverse.1 hc)
  · have hback : rest = trim t ++ (rest.reverse.takeWhile isBlank).reverse := by
      rw [trim, trimWith, ← hrest, ← List.reverse_append, List.takeWhile_append_dropWhile,
        List.reverse_reverse]
    rw [List.append_assoc, ← hback, hrest, List.takeWhile_append_dropWhile]

/-- Trimming keeps every occurrence of a character that is not blank. -/
lemma count_trim {c : Char} (hc : isBlank c = false) (t : Text) :
    (trim t).count c = t.count c := by
  obtain ⟨before, after, hbefore, hafter, ht⟩ := exists_trim t
  have hout {b : Text} (hb : blank b = true) : b.count c = 0 :=
    List.count_eq_zero.2 (not_mem_of_blank hc hb)
  conv_rhs => rw [ht]
  simp [hout hbefore, hout hafter]

lemma mem_trim {c : Char} (hc : isBlank c = false) {t : Text} : c ∈ trim t ↔ c ∈ t := by
  rw [← List.count_pos_iff, ← List.count_pos_iff, count_trim hc]

lemma blank_trim (t : Text) : blank (trim t) = blank t := by
  obtain ⟨before, after, hbefore, hafter, ht⟩ := exists_trim t
  conv_rhs => rw [ht]
  simp [hbefore, hafter]

lemma blank_eq_of_trim_eq {s t : Text} (h : trim s = trim t) : blank s = blank t := by
  rw [← blank_trim, h, blank_trim]

/-! ### Trimmed texts -/

lemma trimmed_trim (t : Text) : Trimmed (trim t) := by
  have hhead (s : Text) : ∀ c ∈ (s.dropWhile isBlank).head?, isBlank c = false := by
    intro c hc
    have := List.head?_dropWhile_not isBlank s
    rw [Option.mem_def.1 hc] at this
    simpa using this
  have hlast : ∀ c ∈ (trim t).getLast?, isBlank c = false := by
    intro c hc
    rw [trim, trimWith, List.getLast?_reverse] at hc
    exact hhead _ c hc
  refine ⟨?_, hlast⟩
  -- the first character of the trimming is that of the text without its leading blanks, as
  -- something is left of it
  intro c hc
  obtain ⟨rest, hrest⟩ : ∃ rest, trim t = c :: rest := by
    cases h : trim t with
    | nil => simp [h] at hc
    | cons d rest =>
      have hd : d = c := by simpa [h] using hc
      exact ⟨rest, by rw [hd]⟩
  have hback : t.dropWhile isBlank =
      trim t ++ ((t.dropWhile isBlank).reverse.takeWhile isBlank).reverse := by
    rw [trim, trimWith, ← List.reverse_append, List.takeWhile_append_dropWhile,
      List.reverse_reverse]
  refine hhead t c ?_
  rw [hback, hrest]
  simp

lemma Trimmed.trim_eq {t : Text} (h : Trimmed t) : trim t = t := by
  have hdrop {s : Text} (hs : ∀ c ∈ s.head?, isBlank c = false) : s.dropWhile isBlank = s := by
    cases s with
    | nil => rfl
    | cons c rest =>
      rw [List.dropWhile_cons_of_neg]
      simp [hs c rfl]
  have hlast : ∀ c ∈ t.reverse.head?, isBlank c = false := by
    intro c hc
    rw [List.head?_reverse] at hc
    exact h.2 c hc
  rw [trim, trimWith, hdrop h.1, hdrop hlast, List.reverse_reverse]

lemma trim_eq_self_iff {t : Text} : trim t = t ↔ Trimmed t :=
  ⟨fun h => h ▸ trimmed_trim t, Trimmed.trim_eq⟩

@[simp] lemma trim_trim (t : Text) : trim (trim t) = trim t :=
  (trimmed_trim t).trim_eq

/-- A trimmed text is blank only if it is empty. -/
lemma Trimmed.blank_iff {t : Text} (h : Trimmed t) : blank t = true ↔ t = [] := by
  constructor
  · intro hb
    cases t with
    | nil => rfl
    | cons c rest =>
      have hc := h.1 c rfl
      rw [Text.blank_iff.1 hb c (by simp)] at hc
      cases hc
  · rintro rfl
    rfl

lemma trim_eq_nil_iff {t : Text} : trim t = [] ↔ blank t = true := by
  rw [← (trimmed_trim t).blank_iff, blank_trim]

/-- The blanks around a trimmed text are all that is taken off. -/
lemma Trimmed.trim_between {t before after : Text} (h : Trimmed t) (hbefore : blank before = true)
    (hafter : blank after = true) : trim (before ++ t ++ after) = t := by
  have hdrop {s rest : Text} (hs : blank s = true) (hrest : ∀ c ∈ rest.head?, isBlank c = false) :
      (s ++ rest).dropWhile isBlank = rest := by
    rw [List.dropWhile_append_of_pos (Text.blank_iff.1 hs)]
    cases rest with
    | nil => rfl
    | cons c rest => rw [List.dropWhile_cons_of_neg (by simp [hrest c rfl])]
  rcases eq_or_ne t [] with rfl | hne
  · rw [trim_eq_nil_iff]
    simp [hbefore, hafter]
  · have hfront : (before ++ t ++ after).dropWhile isBlank = t ++ after := by
      rw [List.append_assoc]
      refine hdrop hbefore fun c hc => h.1 c ?_
      rwa [List.head?_append_of_ne_nil _ hne] at hc
    have hback : (after.reverse ++ t.reverse).dropWhile isBlank = t.reverse := by
      refine hdrop (by simpa [blank] using hafter) fun c hc => h.2 c ?_
      rwa [List.head?_reverse] at hc
    rw [trim, trimWith, hfront, List.reverse_append, hback, List.reverse_reverse]

/-- Blanks around a text do not change what is left of it. -/
lemma trim_between {t before after : Text} (hbefore : blank before = true)
    (hafter : blank after = true) : trim (before ++ t ++ after) = trim t := by
  obtain ⟨b, a, hb, ha, ht⟩ := exists_trim t
  have htrim : trim (before ++ b ++ trim t ++ (a ++ after)) = trim t :=
    (trimmed_trim t).trim_between (by simp [hbefore, hb]) (by simp [ha, hafter])
  have heq : before ++ t ++ after = before ++ b ++ trim t ++ (a ++ after) := by
    conv_lhs => rw [ht]
    simp only [List.append_assoc]
  rw [heq, htrim]

lemma find?_of_blank {t : Text} (h : blank t = true) : (t.find? fun c => !isBlank c) = none := by
  rw [List.find?_eq_none]
  intro c hc
  simp [blank_iff.1 h c hc]

/-- What is left of a text starts with its first character that is no blank. -/
lemma head?_trim (t : Text) : (trim t).head? = t.find? fun c => !isBlank c := by
  obtain ⟨before, after, hbefore, hafter, ht⟩ := exists_trim t
  conv_rhs => rw [ht]
  rw [List.find?_append, List.find?_append, find?_of_blank hbefore, find?_of_blank hafter,
    Option.none_or, Option.or_none]
  cases h : trim t with
  | nil => rfl
  | cons c rest =>
    have hc : isBlank c = false := (trimmed_trim t).1 c (by simp [h])
    rw [List.find?_cons_of_pos (by simp [hc])]
    rfl

/-- A first character that is no blank stays the first. -/
lemma head?_trim_cons {c : Char} (hc : isBlank c = false) (t : Text) :
    (trim (c :: t)).head? = some c := by
  rw [head?_trim, List.find?_cons_of_pos (by simp [hc])]

/-- After a first character that is no blank only the end of a text is trimmed. -/
lemma exists_trim_cons {c : Char} (hc : isBlank c = false) (t : Text) :
    ∃ s after, trim (c :: t) = c :: s ∧ blank after = true ∧ t = s ++ after := by
  obtain ⟨s, hs⟩ := List.head?_eq_some_iff.1 (head?_trim_cons hc t)
  obtain ⟨before, after, hbefore, hafter, heq⟩ := exists_trim (c :: t)
  rw [hs] at heq
  cases before with
  | nil => exact ⟨s, after, hs, hafter, (List.cons.inj heq).2⟩
  | cons d before =>
    obtain ⟨rfl, -⟩ := List.cons.inj heq
    exact absurd List.mem_cons_self (not_mem_of_blank hc hbefore)

/-- Two trimmed texts around anything make a trimmed text. -/
lemma Trimmed.append {s t : Text} (hs : Trimmed s) (ht : Trimmed t) (hsne : s ≠ [])
    (htne : t ≠ []) (between : Text) : Trimmed (s ++ between ++ t) := by
  constructor
  · intro c hc
    obtain ⟨d, rest, rfl⟩ := List.exists_cons_of_ne_nil hsne
    exact hs.1 c (by simpa using hc)
  · intro c hc
    rw [List.getLast?_append_of_ne_nil _ htne] at hc
    exact ht.2 c hc

/-! ### Solid texts -/

lemma Solid.trimmed {t : Text} (h : Solid t) : Trimmed t :=
  ⟨fun c hc => h c (List.mem_of_mem_head? hc), fun c hc => h c (List.mem_of_getLast? hc)⟩

lemma Solid.blank_eq_false {t : Text} (h : Solid t) (hne : t ≠ []) : blank t = false := by
  rw [Bool.eq_false_iff]
  intro hb
  exact hne (h.trimmed.blank_iff.1 hb)

end Listing.Text
