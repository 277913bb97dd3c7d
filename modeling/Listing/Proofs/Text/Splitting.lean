import Mathlib
import Listing.Proofs.Text.Trimming

/-!
# Parts of a text between separators

Joining and cutting at a separator are inverse to each other where no part holds the separator.
The readers of a request cut a text and then ask for exactly two parts; here this question is put
in terms of the text itself: the separator occurs once, and the parts are what stands on its two
sides.
-/

namespace Listing.Text

/-- The separator occurs once in the text, and `before` and `after` stand on its two sides. -/
structure CutAt (separator : Char) (t before after : Text) : Prop where
  eq : t = before ++ separator :: after
  before : separator ∉ before
  after : separator ∉ after

/-! ### Joining -/

@[simp] lemma joined_nil (separator : Text) : joined separator [] = [] := rfl

@[simp] lemma joined_singleton (separator part : Text) : joined separator [part] = part :=
  List.intercalate_singleton

lemma joined_cons_cons (separator p q : Text) (parts : List Text) :
    joined separator (p :: q :: parts) = p ++ separator ++ joined separator (q :: parts) :=
  List.intercalate_cons_cons

lemma joined_cons {separator p : Text} {parts : List Text} (h : parts ≠ []) :
    joined separator (p :: parts) = p ++ separator ++ joined separator parts :=
  List.intercalate_cons_of_ne_nil h

/-- A part comes after those before it, each of which is followed by the separator. -/
lemma joined_append_cons (separator : Text) (ps : List Text) (p : Text) (qs : List Text) :
    joined separator (ps ++ p :: qs) =
      ps.flatMap (fun q => q ++ separator) ++ joined separator (p :: qs) := by
  induction ps with
  | nil => simp
  | cons q ps ih =>
    rw [List.cons_append, joined_cons (by simp), ih]
    simp

lemma joined_concat (separator : Text) (parts : List Text) (last : Text) :
    joined separator (parts ++ [last]) = parts.flatMap (fun p => p ++ separator) ++ last := by
  rw [joined_append_cons, joined_singleton]

/-- What every part and the separator have, the joined text has. -/
lemma forall_mem_joined {P : Char → Prop} {separator : Text} {parts : List Text}
    (hs : ∀ c ∈ separator, P c) (hp : ∀ p ∈ parts, ∀ c ∈ p, P c) :
    ∀ c ∈ joined separator parts, P c := by
  induction parts with
  | nil => simp
  | cons p parts ih =>
    have ih := ih fun q hq => hp q (List.mem_cons_of_mem _ hq)
    rcases eq_or_ne parts [] with rfl | hne
    · simpa using hp p (by simp)
    · intro c hc
      rw [joined_cons hne, List.mem_append, List.mem_append] at hc
      rcases hc with (hc | hc) | hc
      · exact hp p (by simp) c hc
      · exact hs c hc
      · exact ih c hc

lemma not_mem_joined {c : Char} {separator : Text} {parts : List Text} (hs : c ∉ separator)
    (hp : ∀ p ∈ parts, c ∉ p) : c ∉ joined separator parts := fun h =>
  forall_mem_joined (P := fun d => d ≠ c) (fun _ hd heq => hs (heq ▸ hd))
    (fun p hmem _ hd heq => hp p hmem (heq ▸ hd)) c h rfl

lemma joined_ne_nil {separator : Text} {parts : List Text} (hne : parts ≠ [])
    (hp : ∀ p ∈ parts, p ≠ []) : joined separator parts ≠ [] := by
  obtain ⟨p, rest, rfl⟩ := List.exists_cons_of_ne_nil hne
  rcases eq_or_ne rest [] with rfl | hrest
  · simpa using hp p (by simp)
  · rw [joined_cons hrest]
    simp [hp p (by simp)]

lemma joined_eq_nil_iff {separator : Text} {parts : List Text} (hp : ∀ p ∈ parts, p ≠ []) :
    joined separator parts = [] ↔ parts = [] := by
  refine ⟨fun h => ?_, fun h => by simp [h]⟩
  by_contra hne
  exact joined_ne_nil hne hp h

/-- Parts that are trimmed and not empty make a trimmed text. -/
lemma trimmed_joined {separator : Text} {parts : List Text}
    (h : ∀ p ∈ parts, Trimmed p ∧ p ≠ []) : Trimmed (joined separator parts) := by
  induction parts with
  | nil => exact ⟨by simp, by simp⟩
  | cons p parts ih =>
    have hrest : ∀ q ∈ parts, Trimmed q ∧ q ≠ [] := fun q hq => h q (List.mem_cons_of_mem _ hq)
    obtain ⟨hp, hpne⟩ := h p (by simp)
    rcases eq_or_ne parts [] with rfl | hne
    · simpa using hp
    · rw [joined_cons hne]
      exact hp.append (ih hrest) hpne (joined_ne_nil hne fun q hq => (hrest q hq).2) separator

/-- Behind the first part, every part has the separator in front of it. -/
lemma joined_cons_eq_append (separator p : Text) (parts : List Text) :
    joined separator (p :: parts) = p ++ parts.flatMap fun q => separator ++ q := by
  induction parts generalizing p with
  | nil => simp
  | cons q parts ih =>
    rw [joined_cons_cons, ih, List.flatMap_cons, List.append_assoc, List.append_assoc]

/-- A first part stands in front of what does not depend on it. -/
lemma exists_joined_cons (separator : Text) (qs : List Text) :
    ∃ after, ∀ p, joined separator (p :: qs) = p ++ after :=
  ⟨_, fun p => joined_cons_eq_append separator p qs⟩

/-! ### Cutting -/

/-- A run of characters ends where the first other character stands. -/
lemma append_inj_of_forall {P : Char → Prop} {t t' r r' : Text} (ht : ∀ d ∈ t, P d)
    (ht' : ∀ d ∈ t', P d) (hr : ∀ d ∈ r.head?, ¬P d) (hr' : ∀ d ∈ r'.head?, ¬P d)
    (heq : t ++ r = t' ++ r') : t = t' ∧ r = r' := by
  induction t generalizing t' with
  | nil =>
    cases t' with
    | nil => exact ⟨rfl, heq⟩
    | cons d t' =>
      rw [List.nil_append] at heq
      exact absurd (ht' d (by simp)) (hr d (by simp [heq]))
  | cons d t ih =>
    cases t' with
    | nil =>
      rw [List.nil_append] at heq
      exact absurd (ht d (by simp)) (hr' d (by simp [← heq]))
    | cons d' t' =>
      obtain ⟨rfl, hrest⟩ := List.cons.inj heq
      obtain ⟨rfl, htail⟩ := ih (List.forall_mem_cons.1 ht).2 (List.forall_mem_cons.1 ht').2 hrest
      exact ⟨rfl, htail⟩

/-- Parts without the separator are the cuts of the text that they are joined to. -/
lemma splitOn_joined {c : Char} {parts : List Text} (hne : parts ≠ [])
    (h : ∀ p ∈ parts, c ∉ p) : (joined [c] parts).splitOn c = parts :=
  List.splitOn_intercalate c h hne

lemma not_mem_of_mem_splitOn {c : Char} {t part : Text} (h : part ∈ t.splitOn c) : c ∉ part := by
  induction t generalizing part with
  | nil =>
    rw [List.splitOn_nil, List.mem_singleton] at h
    simp [h]
  | cons d t ih =>
    obtain ⟨p, ps, hps⟩ := List.exists_cons_of_ne_nil (List.splitOn_ne_nil c t)
    rw [List.splitOn_cons_eq_if_modifyHead, hps] at h
    rw [hps] at ih
    by_cases hd : d = c
    · rw [if_pos (by simp [hd])] at h
      rcases List.mem_cons.1 h with rfl | h
      · simp
      · exact ih h
    · rw [if_neg (by simp [hd]), List.modifyHead_cons] at h
      rcases List.mem_cons.1 h with rfl | h
      · have : c ∉ p := ih (by simp)
        simp [this, Ne.symm hd]
      · exact ih (List.mem_cons_of_mem _ h)

lemma joined_splitOn (c : Char) (t : Text) : joined [c] (t.splitOn c) = t :=
  List.intercalate_splitOn c

/-- There is one more part than there are separators. -/
lemma length_splitOn (c : Char) (t : Text) : (t.splitOn c).length = t.count c + 1 := by
  induction t with
  | nil => simp
  | cons d t ih =>
    rw [List.splitOn_cons_eq_if_modifyHead]
    by_cases hd : d = c
    · simp [hd, ih]
    · simp [hd, ih]

/-- **Two parts.**  A text is cut into two parts exactly when the separator occurs once in it. -/
lemma splitOn_eq_pair_iff {c : Char} {t a b : Text} : t.splitOn c = [a, b] ↔ CutAt c t a b := by
  constructor
  · intro h
    refine ⟨?_, not_mem_of_mem_splitOn (t := t) (by simp [h]),
      not_mem_of_mem_splitOn (t := t) (by simp [h])⟩
    rw [← joined_splitOn c t, h]
    simp [joined_cons_cons]
  · rintro ⟨rfl, ha, hb⟩
    rw [List.splitOn_append_cons_self_of_not_mem ha, List.splitOn_eq_singleton hb]

lemma count_eq_one_iff {c : Char} {t : Text} : t.count c = 1 ↔ ∃ a b, CutAt c t a b := by
  have hlength := length_splitOn c t
  constructor
  · intro h
    obtain ⟨a, b, hab⟩ := List.length_eq_two.1 (hlength.trans (by rw [h]))
    exact ⟨a, b, splitOn_eq_pair_iff.1 hab⟩
  · rintro ⟨a, b, hcut⟩
    rw [splitOn_eq_pair_iff.2 hcut] at hlength
    simpa using hlength.symm

lemma cutAt_of_count_eq_one {c : Char} {a b : Text} (h : (a ++ c :: b).count c = 1) :
    CutAt c (a ++ c :: b) a b := by
  rw [List.count_append, List.count_cons_self] at h
  exact ⟨rfl, List.count_eq_zero.1 (by omega), List.count_eq_zero.1 (by omega)⟩

lemma CutAt.mem {c : Char} {t a b : Text} (h : CutAt c t a b) : c ∈ t := by
  rw [h.eq]
  simp

/-! ### Cutting a trimmed text -/

/-- Blanks in front of a text change its first part, and what they change is trimmed off. -/
lemma map_trim_splitOn_append_left {c : Char} (hc : isBlank c = false) {before : Text}
    (h : blank before = true) (t : Text) :
    ((before ++ t).splitOn c).map trim = (t.splitOn c).map trim := by
  induction before with
  | nil => rfl
  | cons d before ih =>
    rw [blank_iff, List.forall_mem_cons] at h
    have hne : ¬(d == c) = true := by
      intro heq
      rw [beq_iff_eq.1 heq, hc] at h
      cases h.1
    obtain ⟨p, ps, hps⟩ := List.exists_cons_of_ne_nil (List.splitOn_ne_nil c (before ++ t))
    have hp : trim (d :: p) = trim p := by
      have hd : blank [d] = true := by simpa [blank] using h.1
      simpa using trim_between (t := p) hd blank_nil
    rw [← ih (blank_iff.2 h.2), List.cons_append, List.splitOn_cons_eq_if_modifyHead, if_neg hne,
      hps, List.modifyHead_cons, List.map_cons, List.map_cons, hp]

/-- A text without the separator joins the last part of the text before it. -/
lemma exists_splitOn_append {c : Char} {after : Text} (h : c ∉ after) (t : Text) :
    ∃ ps p, t.splitOn c = ps ++ [p] ∧ (t ++ after).splitOn c = ps ++ [p ++ after] := by
  induction t with
  | nil => exact ⟨[], [], by simp, by simp [List.splitOn_eq_singleton h]⟩
  | cons d t ih =>
    obtain ⟨ps, p, ht, hta⟩ := ih
    rw [List.cons_append, List.splitOn_cons_eq_if_modifyHead, List.splitOn_cons_eq_if_modifyHead,
      ht, hta]
    split
    · exact ⟨[] :: ps, p, rfl, rfl⟩
    · -- the character joins the first part, which is the last one if there are no others
      cases ps with
      | nil => exact ⟨[], d :: p, rfl, rfl⟩
      | cons q ps => exact ⟨(d :: q) :: ps, p, rfl, rfl⟩

/-- **Cutting and trimming.**  The parts of a trimmed text are those of the text itself but for
blanks around them. -/
lemma map_trim_splitOn_trim {c : Char} (hc : isBlank c = false) (t : Text) :
    ((trim t).splitOn c).map trim = (t.splitOn c).map trim := by
  obtain ⟨before, after, hbefore, hafter, ht⟩ := exists_trim t
  have hout : c ∉ after := not_mem_of_blank hc hafter
  obtain ⟨ps, p, hcut, hcut'⟩ := exists_splitOn_append hout (trim t)
  have hp : trim (p ++ after) = trim p := by
    simpa using trim_between (t := p) blank_nil hafter
  conv_rhs => rw [ht, List.append_assoc]
  rw [map_trim_splitOn_append_left hc hbefore, hcut, hcut']
  simp only [List.map_append, List.map_cons, List.map_nil, hp]

/-! ### Places in a text -/

/-- A place in a text of two parts is in the first part or in the second. -/
lemma append_eq_append_cons {c : Char} {x y left right : Text}
    (h : x ++ y = left ++ c :: right) :
    (∃ rest, x = left ++ c :: rest ∧ right = rest ++ y) ∨
      ∃ start, left = x ++ start ∧ y = start ++ c :: right := by
  rcases List.append_eq_append_iff.1 h with ⟨start, hleft, hy⟩ | ⟨rest, hx, hright⟩
  · exact .inr ⟨start, hleft, hy⟩
  · cases rest with
    | nil => exact .inr ⟨[], by simpa using hx.symm, by simpa using hright.symm⟩
    | cons d rest =>
      rw [List.cons_append, List.cons.injEq] at hright
      exact .inl ⟨rest, by rw [hx, hright.1], hright.2⟩

/-- A place of the separator is the first one, or comes after it. -/
lemma append_cons_eq_append_cons {c : Char} {x y left right : Text} (hx : c ∉ x)
    (h : x ++ c :: y = left ++ c :: right) :
    left = x ∨ ∃ start, left = x ++ c :: start ∧ y = start ++ c :: right := by
  rcases append_eq_append_cons h with ⟨rest, hrest, -⟩ | ⟨start, hleft, hy⟩
  · exact absurd (by simp [hrest]) hx
  · cases start with
    | nil => exact .inl (by simpa using hleft)
    | cons d start =>
      rw [List.cons_append, List.cons.injEq] at hy
      exact .inr ⟨start, by rw [hleft, hy.1], hy.2⟩

/-- A place in a joined text is in one of the parts, if it is not in a separator. -/
lemma joined_eq_append_cons {c : Char} {separator : Text} (hs : c ∉ separator) {parts : List Text}
    {left right : Text} (h : joined separator parts = left ++ c :: right) :
    ∃ before p after start rest, parts = before ++ p :: after ∧ p = start ++ c :: rest ∧
      left = before.flatMap (fun q => q ++ separator) ++ start ∧ rest <+: right := by
  induction parts generalizing left with
  | nil => simp at h
  | cons p parts ih =>
    rcases eq_or_ne parts [] with rfl | hne
    · rw [joined_singleton] at h
      exact ⟨[], p, [], left, right, rfl, h, rfl, List.prefix_rfl⟩
    · rw [joined_cons hne, List.append_assoc] at h
      rcases append_eq_append_cons h with ⟨rest, hp, hright⟩ | ⟨u, hleft, h⟩
      · exact ⟨[], p, parts, left, rest, rfl, hp, rfl, hright ▸ List.prefix_append _ _⟩
      · rcases append_eq_append_cons h with ⟨rest, hsep, -⟩ | ⟨v, hu, h⟩
        · exact absurd (by simp [hsep]) hs
        · obtain ⟨before, q, after, start, rest, rfl, hq, hv, hrest⟩ := ih h
          exact ⟨p :: before, q, after, start, rest, rfl, hq, by simp [hleft, hu, hv], hrest⟩

lemma count_joined {c : Char} {separator : Text} (hs : c ∉ separator) (parts : List Text) :
    (joined separator parts).count c = (parts.map (List.count c)).sum := by
  induction parts with
  | nil => simp
  | cons p parts ih =>
    rcases eq_or_ne parts [] with rfl | hne
    · simp
    · rw [joined_cons hne, List.count_append, List.count_append, List.count_eq_zero_of_not_mem hs,
        ih, List.map_cons, List.sum_cons, Nat.add_zero]

end Listing.Text
