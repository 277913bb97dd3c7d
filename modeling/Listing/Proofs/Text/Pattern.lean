import Mathlib
import Listing.Text.Basic

/-!
# Patterns

In a pattern a percent sign stands for any text, an underscore for any one character, and every
other character for itself, in upper or lower case if it is an ASCII letter.  Which texts a pattern
matches is stated as a relation, `Like`; whether it matches one is found by trying all ends of the
text at a percent sign, `likes`, and `likes_iff` says that this is the same.

A pattern that is put together matches what is put together of texts that its parts match.  A text
matches itself as a pattern even if it has wildcards in it, and only without them does it match
nothing else but for upper and lower case.
-/

namespace Listing.Text

/-- A text with its ASCII letters in lower case. -/
def folded (t : Text) : Text :=
  t.map Char.toLower

/-- Matching a text with a pattern. -/
inductive Like : Text → Text → Prop
  | nil : Like [] []
  | run {p t : Text} (skipped : Text) : Like p t → Like ('%' :: p) (skipped ++ t)
  | one {p t : Text} (d : Char) : Like p t → Like ('_' :: p) (d :: t)
  | same {p t : Text} {c d : Char} : c ≠ '%' → c ≠ '_' → c.toLower = d.toLower → Like p t →
      Like (c :: p) (d :: t)

/-- No character of the text is a wildcard. -/
def WildcardFree (v : Text) : Prop :=
  '%' ∉ v ∧ '_' ∉ v

instance (v : Text) : Decidable (WildcardFree v) :=
  inferInstanceAs (Decidable (_ ∧ _))

variable {p q t u v : Text}

/-! ### Trying a pattern -/

/-- Tries a pattern on a text. -/
def likes : Text → Text → Bool
  | [], t => t.isEmpty
  | c :: p, t =>
    if c = '%' then t.tails.any (likes p)
    else
      match t with
      | [] => false
      | d :: t => (c = '_' || c.toLower = d.toLower) && likes p t

lemma like_run_iff : Like ('%' :: p) t ↔ ∃ rest, rest <:+ t ∧ Like p rest := by
  constructor
  · intro h
    cases h with
    | run skipped h => exact ⟨_, List.suffix_append _ _, h⟩
    | same hrun => exact absurd rfl hrun
  · rintro ⟨rest, ⟨skipped, rfl⟩, h⟩
    exact .run skipped h

lemma not_like_nil {c : Char} (hc : c ≠ '%') : ¬Like (c :: p) [] := by
  intro h
  generalize ht : ([] : Text) = t at h
  cases h with
  | run => exact hc rfl
  | one => cases ht
  | same => cases ht

lemma like_cons_iff {c d : Char} (hc : c ≠ '%') :
    Like (c :: p) (d :: t) ↔ (c = '_' ∨ c.toLower = d.toLower) ∧ Like p t := by
  constructor
  · intro h
    generalize ht : d :: t = t' at h
    cases h with
    | run => exact absurd rfl hc
    | one _ h =>
      obtain ⟨-, rfl⟩ := List.cons.inj ht
      exact ⟨.inl rfl, h⟩
    | same _ _ hsame h =>
      obtain ⟨rfl, rfl⟩ := List.cons.inj ht
      exact ⟨.inr hsame, h⟩
  · rintro ⟨hd, h⟩
    by_cases hone : c = '_'
    · exact hone ▸ .one d h
    · exact .same hc hone (hd.resolve_left hone) h

/-- **Trying a pattern** finds out whether it matches. -/
theorem likes_iff : likes p t = true ↔ Like p t := by
  induction p generalizing t with
  | nil =>
    rw [likes, List.isEmpty_iff]
    constructor
    · rintro rfl
      exact .nil
    · rintro ⟨⟩
      rfl
  | cons c p ih =>
    by_cases hc : c = '%'
    · subst hc
      have hlikes : likes ('%' :: p) t = t.tails.any (likes p) := by cases t <;> rfl
      simp only [hlikes, like_run_iff, List.any_eq_true, List.mem_tails, ih]
    · cases t with
      | nil => simp [likes, hc, not_like_nil hc]
      | cons d t => simp [likes, hc, like_cons_iff hc, ih]

instance : Decidable (Like p t) :=
  decidable_of_iff _ likes_iff

example : Like "a%_c%" "AxbCc" ∧ ¬Like "a%_c%" "ac" := by decide

/-! ### Patterns that are put together -/

/-- **A pattern that is put together** matches what is put together of matches of its parts. -/
theorem like_append_iff :
    Like (p ++ q) t ↔ ∃ t₁ t₂, t = t₁ ++ t₂ ∧ Like p t₁ ∧ Like q t₂ := by
  constructor
  · intro h
    induction p generalizing t with
    | nil => exact ⟨[], t, rfl, .nil, h⟩
    | cons c p ih =>
      cases h with
      | run skipped h =>
        obtain ⟨t₁, t₂, rfl, h₁, h₂⟩ := ih h
        exact ⟨skipped ++ t₁, t₂, by rw [List.append_assoc], .run skipped h₁, h₂⟩
      | one d h =>
        obtain ⟨t₁, t₂, rfl, h₁, h₂⟩ := ih h
        exact ⟨d :: t₁, t₂, rfl, .one d h₁, h₂⟩
      | same hrun hone hsame h =>
        obtain ⟨t₁, t₂, rfl, h₁, h₂⟩ := ih h
        exact ⟨_ :: t₁, t₂, rfl, .same hrun hone hsame h₁, h₂⟩
  · rintro ⟨t₁, t₂, rfl, h₁, h₂⟩
    induction h₁ with
    | nil => exact h₂
    | run skipped _ ih =>
      rw [List.append_assoc]
      exact .run skipped ih
    | one d _ ih => exact .one d ih
    | same hrun hone hsame _ ih => exact .same hrun hone hsame ih

lemma like_nil_iff : Like [] t ↔ t = [] := by
  rw [← likes_iff, likes, List.isEmpty_iff]

lemma like_run (t : Text) : Like "%" t := by
  have h := Like.run t .nil
  rwa [List.append_nil] at h

/-! ### Texts as patterns -/

/-- A text matches itself as a pattern, whatever the case of its letters. -/
lemma like_of_folded_eq (h : folded v = folded u) : Like v u := by
  induction v generalizing u with
  | nil => exact like_nil_iff.2 (List.map_eq_nil_iff.1 h.symm)
  | cons c v ih =>
    obtain ⟨d, u, rfl, hsame, hrest⟩ := List.map_eq_cons_iff.1 h.symm
    have hlike := ih hrest.symm
    by_cases hrun : c = '%'
    · exact hrun ▸ .run [d] hlike
    · exact (like_cons_iff hrun).2 ⟨.inr hsame.symm, hlike⟩

/-- Without wildcards it matches nothing else. -/
lemma folded_eq_of_like (hv : WildcardFree v) (h : Like v u) : folded v = folded u := by
  induction h with
  | nil => rfl
  | run => exact absurd List.mem_cons_self hv.1
  | one => exact absurd List.mem_cons_self hv.2
  | same _ _ hsame _ ih =>
    have hrest := ih ⟨fun h => hv.1 (List.mem_cons_of_mem _ h),
      fun h => hv.2 (List.mem_cons_of_mem _ h)⟩
    simp only [folded, List.map_cons] at hrest ⊢
    rw [hsame, hrest]

/-- The text with the letter a in place of every wildcard. -/
def filled (v : Text) : Text :=
  v.map fun c => if c = '%' ∨ c = '_' then 'a' else c

lemma like_filled (v : Text) : Like v (filled v) := by
  induction v with
  | nil => exact .nil
  | cons c v ih =>
    rw [filled, List.map_cons, ← filled]
    by_cases hrun : c = '%'
    · rw [if_pos (.inl hrun), hrun]
      exact .run ['a'] ih
    · by_cases hone : c = '_'
      · rw [if_pos (.inr hone), hone]
        exact .one 'a' ih
      · rw [if_neg (not_or.2 ⟨hrun, hone⟩)]
        exact .same hrun hone rfl ih

/-- With wildcards a text matches one that it is not. -/
lemma wildcardFree_of_folded_eq (h : folded v = folded (filled v)) : WildcardFree v := by
  rw [folded, folded, filled, List.map_map, List.map_inj_left] at h
  constructor
  · intro hmem
    exact absurd (h '%' hmem) (by decide)
  · intro hmem
    exact absurd (h '_' hmem) (by decide)

end Listing.Text
