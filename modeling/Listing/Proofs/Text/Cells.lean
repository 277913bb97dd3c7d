import Mathlib
import Listing.Proofs.Text.Splitting

/-!
# Rows of cells

A text is cut twice: into rows by an outer separator, and each row into cells by an inner one.  The
cells are trimmed, and rows with nothing in them are left out.  Of blanks next to a separator, of
blanks at the ends of the text and of blank rows nothing is then to be seen.
-/

namespace Listing.Text

/-- The parts of a text between separators, trimmed. -/
def parts (separator : Char) (t : Text) : List Text :=
  (t.splitOn separator).map trim

/-- The cells of a text, row by row, without the blank rows. -/
def cells (outer inner : Char) (t : Text) : List (List Text) :=
  ((t.splitOn outer).map (parts inner)).filter fun row => row ≠ [[]]

variable {c d : Char} {before after : Text}

/-! ### Noise in a text -/

/-- Blanks put around one of the separators in a text. -/
inductive Beside (separators : List Char) : Text → Text → Prop
  | around {c : Char} {before after : Text} (s t : Text) : c ∈ separators →
      blank before = true → blank after = true →
      Beside separators (s ++ c :: t) (s ++ before ++ c :: (after ++ t))

/-- A blank part put among the parts of a text. -/
inductive Widened (separator : Char) : Text → Text → Prop
  | among {part : Text} (ps qs : List Text) : ps ++ qs ≠ [] → blank part = true →
      Widened separator (joined [separator] (ps ++ qs)) (joined [separator] (ps ++ part :: qs))

lemma Beside.cases_cons {cs : List Char} {s t : Text} (h : Beside (c :: cs) s t) :
    Beside [c] s t ∨ Beside cs s t := by
  obtain ⟨s, t, hmem, hbefore, hafter⟩ := h
  rcases List.mem_cons.1 hmem with rfl | hmem
  · exact .inl (.around s t (by simp) hbefore hafter)
  · exact .inr (.around s t hmem hbefore hafter)

lemma Beside.count_eq {cs : List Char} {s t : Text} (h : Beside cs s t) {x : Char}
    (hx : isBlank x = false) : s.count x = t.count x := by
  obtain ⟨s, t, -, hbefore, hafter⟩ := h
  simp [List.count_cons, List.count_eq_zero_of_not_mem (not_mem_of_blank hx hbefore),
    List.count_eq_zero_of_not_mem (not_mem_of_blank hx hafter)]

lemma Beside.mem_iff {cs : List Char} {s t : Text} (h : Beside cs s t) {x : Char}
    (hx : isBlank x = false) : x ∈ s ↔ x ∈ t := by
  rw [← List.count_pos_iff, ← List.count_pos_iff, h.count_eq hx]

lemma Beside.exists_mem {cs : List Char} {s t : Text} (h : Beside cs s t) : ∃ x ∈ cs, x ∈ s := by
  obtain ⟨s, t, hmem, -, -⟩ := h
  exact ⟨_, hmem, by simp⟩

lemma Beside.head?_trim {cs : List Char} {s t : Text} (h : Beside cs s t)
    (hcs : ∀ x ∈ cs, isBlank x = false) : (trim s).head? = (trim t).head? := by
  obtain ⟨s, t, hmem, hbefore, -⟩ := h
  simp [Text.head?_trim, find?_of_blank hbefore, hcs _ hmem]

/-- A separator that does not occur in a first part is in the second. -/
lemma Beside.of_append {cs : List Char} {a b t : Text} (h : Beside cs (a ++ b) t)
    (hout : ∀ x ∈ cs, x ∉ a) : ∃ b', t = a ++ b' ∧ Beside cs b b' := by
  generalize hab : a ++ b = s at h
  obtain ⟨left, right, hmem, hbefore, hafter⟩ := h
  rcases append_eq_append_cons hab with ⟨rest, ha, -⟩ | ⟨start, rfl, rfl⟩
  · exact absurd (by simp [ha]) (hout _ hmem)
  · exact ⟨_, by simp, .around start right hmem hbefore hafter⟩

/-- A separator in a text of two parts is in the first part or in the second. -/
lemma Beside.cutAt {s t a b : Text} (h : Beside [c] s t) (hcut : CutAt d s a b)
    (hd : isBlank d = false) (hne : c ≠ d) :
    (∃ a', Beside [c] a a' ∧ c ∈ a ∧ CutAt d t a' b) ∨ ∃ b', Beside [c] b b' ∧ CutAt d t a b' := by
  obtain @⟨e, before, after, left, right, hmem, hbefore, hafter⟩ := h
  obtain rfl : e = c := List.mem_singleton.1 hmem
  rcases append_eq_append_cons hcut.eq.symm with ⟨rest, ha, hright⟩ | ⟨start, hleft, hb⟩
  · left
    have hbeside : Beside [e] a (left ++ before ++ e :: (after ++ rest)) := by
      rw [ha]
      exact .around left rest hmem hbefore hafter
    refine ⟨_, hbeside, by simp [ha], ⟨by simp [hright], ?_, hcut.after⟩⟩
    exact fun h => hcut.before ((hbeside.mem_iff hd).2 h)
  · right
    cases start with
    | nil => exact absurd (List.cons.inj hb).1.symm hne
    | cons x start =>
      rw [List.cons_append, List.cons.injEq] at hb
      obtain ⟨rfl, rfl⟩ := hb
      have hbeside : Beside [e] (start ++ e :: right) (start ++ before ++ e :: (after ++ right)) :=
        .around start right hmem hbefore hafter
      refine ⟨_, hbeside, ⟨by simp [hleft], hcut.before, ?_⟩⟩
      exact fun h => hcut.after ((hbeside.mem_iff hd).2 h)

/-- What falls apart at a separator is made from the parts that were joined by it. -/
lemma flatMap_of_joined {β : Type} {f : Text → List β}
    (hf : ∀ s t, f (s ++ c :: t) = f s ++ f t) {ps : List Text} (hne : ps ≠ []) :
    f (joined [c] ps) = ps.flatMap f := by
  induction ps with
  | nil => exact absurd rfl hne
  | cons p ps ih =>
    rcases eq_or_ne ps [] with rfl | hps
    · simp
    · rw [joined_cons hps, List.append_assoc, List.singleton_append, hf, ih hps, List.flatMap_cons]

/-- A blank part does not matter to what falls apart at the separator and is nothing for blanks. -/
lemma Widened.eq_of_joined {β : Type} {f : Text → List β} {s t : Text} (h : Widened c s t)
    (hf : ∀ s t, f (s ++ c :: t) = f s ++ f t) (hblank : ∀ p, blank p = true → f p = []) :
    f s = f t := by
  obtain ⟨ps, qs, hne, hpart⟩ := h
  rw [flatMap_of_joined hf hne, flatMap_of_joined hf (by simp), List.flatMap_append,
    List.flatMap_append, List.flatMap_cons, hblank _ hpart, List.nil_append]

lemma Widened.count_eq {s t : Text} (h : Widened c s t) {x : Char} (hx : isBlank x = false)
    (hne : x ≠ c) : s.count x = t.count x := by
  have hfilter : s.filter (fun y => y == x) = t.filter fun y => y == x :=
    h.eq_of_joined (fun s t => by simp [Ne.symm hne]) fun p hp => by
      rw [List.filter_eq_nil_iff]
      intro y hy heq
      exact not_mem_of_blank hx hp (beq_iff_eq.1 heq ▸ hy)
  rw [List.count_eq_length_filter, List.count_eq_length_filter, hfilter]

lemma Widened.mem_iff {s t : Text} (h : Widened c s t) {x : Char} (hx : isBlank x = false)
    (hne : x ≠ c) : x ∈ s ↔ x ∈ t := by
  rw [← List.count_pos_iff, ← List.count_pos_iff, h.count_eq hx hne]

/-- In front of a text with a blank part more there is what was there, or the separator. -/
lemma Widened.head?_trim {s t : Text} (h : Widened c s t) (hc : isBlank c = false) :
    (trim t).head? = (trim s).head? ∨ (trim t).head? = some c := by
  obtain ⟨ps, qs, hne, hpart⟩ := h
  rw [Text.head?_trim, Text.head?_trim]
  cases ps with
  | nil =>
    right
    have hne : qs ≠ [] := by simpa using hne
    simp [joined_cons hne, find?_of_blank hpart, hc]
  | cons p ps =>
    rw [List.cons_append, List.cons_append, joined_cons (by simp)]
    cases hp : p.find? fun x => !isBlank x with
    | none => simp [hp, hc]
    | some x =>
      left
      rcases eq_or_ne (ps ++ qs) [] with hnil | hne
      · simp [hp, hnil]
      · simp [joined_cons hne, hp]

/-! ### Parts -/

lemma parts_of_not_mem {t : Text} (h : c ∉ t) : parts c t = [trim t] := by
  rw [parts, List.splitOn_eq_singleton h]
  rfl

lemma parts_append_cons (s t : Text) : parts c (s ++ c :: t) = parts c s ++ parts c t := by
  rw [parts, List.splitOn_append_cons_self, List.map_append]
  rfl

lemma parts_trim (hc : isBlank c = false) (t : Text) : parts c (trim t) = parts c t :=
  map_trim_splitOn_trim hc t

lemma parts_eq_of_trim_eq (hc : isBlank c = false) {s t : Text} (h : trim s = trim t) :
    parts c s = parts c t := by
  rw [← parts_trim hc s, h, parts_trim hc t]

lemma parts_between (hc : isBlank c = false) (hbefore : blank before = true)
    (hafter : blank after = true) (t : Text) : parts c (before ++ t ++ after) = parts c t :=
  parts_eq_of_trim_eq hc (trim_between hbefore hafter)

/-- **Blanks next to a separator** are trimmed off its parts. -/
lemma parts_beside (hc : isBlank c = false) (hbefore : blank before = true)
    (hafter : blank after = true) (s t : Text) :
    parts c (s ++ before ++ c :: (after ++ t)) = parts c (s ++ c :: t) := by
  have hs : parts c (s ++ before) = parts c s := by
    simpa using parts_between hc blank_nil hbefore s
  have ht : parts c (after ++ t) = parts c t := by
    simpa using parts_between hc hafter blank_nil t
  rw [parts_append_cons, parts_append_cons, hs, ht]

lemma Beside.parts_eq (hc : isBlank c = false) {s t : Text} (h : Beside [c] s t) :
    parts c s = parts c t := by
  obtain @⟨e, before, after, s, t, hmem, hbefore, hafter⟩ := h
  obtain rfl : e = c := List.mem_singleton.1 hmem
  exact (parts_beside hc hbefore hafter s t).symm

/-- A text with the parts of a text that is cut in two is cut in two as well. -/
lemma CutAt.of_parts_eq {t u a b : Text} (hcut : CutAt c t a b) (h : parts c t = parts c u) :
    ∃ a' b', CutAt c u a' b' ∧ trim a' = trim a ∧ trim b' = trim b := by
  have hparts : (u.splitOn c).map trim = [trim a, trim b] := by
    rw [← parts, ← h, parts, splitOn_eq_pair_iff.2 hcut]
    rfl
  obtain ⟨a', rest, hsplit, ha, hrest⟩ := List.map_eq_cons_iff.1 hparts
  obtain ⟨b', last, rfl, hb, hlast⟩ := List.map_eq_cons_iff.1 hrest
  rw [List.map_eq_nil_iff.1 hlast] at hsplit
  exact ⟨a', b', splitOn_eq_pair_iff.1 hsplit, ha, hb⟩

lemma count_eq_of_parts_eq {t u : Text} (h : parts c t = parts c u) : t.count c = u.count c := by
  have hlength := congrArg List.length h
  rw [parts, parts, List.length_map, List.length_map, length_splitOn, length_splitOn] at hlength
  omega

lemma parts_eq_nil_cell_iff (hc : isBlank c = false) {t : Text} :
    parts c t = [[]] ↔ blank t = true := by
  constructor
  · intro h
    obtain ⟨p, hp, htrim⟩ := List.map_eq_singleton_iff.1 h
    have ht : t = p := by rw [← joined_splitOn c t, hp, joined_singleton]
    rw [ht, ← trim_eq_nil_iff, htrim]
  · intro h
    rw [parts_of_not_mem (not_mem_of_blank hc h), trim_eq_nil_iff.2 h]

/-! ### Cells -/

lemma cells_of_not_mem {t : Text} (h : c ∉ t) :
    cells c d t = [parts d t].filter fun row => row ≠ [[]] := by
  rw [cells, List.splitOn_eq_singleton h]
  rfl

lemma cells_of_blank (hc : isBlank c = false) (hd : isBlank d = false) {t : Text}
    (h : blank t = true) : cells c d t = [] := by
  rw [cells_of_not_mem (not_mem_of_blank hc h), (parts_eq_nil_cell_iff hd).2 h]
  rfl

lemma cells_append_cons (s t : Text) :
    cells c d (s ++ c :: t) = cells c d s ++ cells c d t := by
  rw [cells, List.splitOn_append_cons_self, List.map_append, List.filter_append]
  rfl

/-- The cells are those of the outer parts, which are trimmed as well. -/
lemma cells_eq (hd : isBlank d = false) (t : Text) :
    cells c d t = ((parts c t).map (parts d)).filter fun row => row ≠ [[]] := by
  have htrim : parts d ∘ trim = parts d := funext fun p => parts_trim hd p
  rw [cells, parts, List.map_map, htrim]

lemma cells_eq_of_parts_eq (hd : isBlank d = false) {s t : Text} (h : parts c s = parts c t) :
    cells c d s = cells c d t := by
  rw [cells_eq hd, cells_eq hd, h]

/-- A text without the separator, put into another one, becomes a part of a single part. -/
lemma exists_splitOn_between (s t : Text) :
    ∃ ps p q qs, ∀ m : Text, c ∉ m → (s ++ m ++ t).splitOn c = ps ++ (p ++ m ++ q) :: qs := by
  obtain ⟨q, qs, hq⟩ := List.exists_cons_of_ne_nil (List.splitOn_ne_nil c t)
  have htail (m : Text) (hm : c ∉ m) : (m ++ t).splitOn c = (m ++ q) :: qs := by
    induction m with
    | nil => exact hq
    | cons x m ih =>
      rw [List.mem_cons, not_or] at hm
      rw [List.cons_append, List.splitOn_cons_eq_if_modifyHead,
        if_neg (by simpa using Ne.symm hm.1), ih hm.2]
      rfl
  induction s with
  | nil => exact ⟨[], [], q, qs, fun m hm => htail m hm⟩
  | cons x s ih =>
    obtain ⟨ps, p, q', qs', h⟩ := ih
    -- a separator starts a part, and any other character joins the first part, which is the one
    -- with the text in it if no separator comes before that
    by_cases hx : x = c
    · refine ⟨[] :: ps, p, q', qs', fun m hm => ?_⟩
      rw [List.cons_append, List.cons_append, List.splitOn_cons_eq_if_modifyHead,
        if_pos (by simp [hx]), h m hm]
      rfl
    · cases ps with
      | nil =>
        refine ⟨[], x :: p, q', qs', fun m hm => ?_⟩
        rw [List.cons_append, List.cons_append, List.splitOn_cons_eq_if_modifyHead,
          if_neg (by simp [hx]), h m hm]
        rfl
      | cons p' ps =>
        refine ⟨(x :: p') :: ps, p, q', qs', fun m hm => ?_⟩
        rw [List.cons_append, List.cons_append, List.splitOn_cons_eq_if_modifyHead,
          if_neg (by simp [hx]), h m hm]
        rfl

lemma cells_beside_inner (hc : isBlank c = false) (hd : isBlank d = false) (hne : d ≠ c)
    (hbefore : blank before = true) (hafter : blank after = true) (s t : Text) :
    cells c d (s ++ before ++ d :: (after ++ t)) = cells c d (s ++ d :: t) := by
  obtain ⟨ps, p, q, qs, hsplit⟩ := exists_splitOn_between (c := c) s t
  have hbetween : c ∉ before ++ d :: after := by
    simp [not_mem_of_blank hc hbefore, not_mem_of_blank hc hafter, Ne.symm hne]
  have hrow : parts d (p ++ (before ++ d :: after) ++ q) = parts d (p ++ [d] ++ q) := by
    simpa using parts_beside hd hbefore hafter p q
  have hold := hsplit [d] (by simpa using Ne.symm hne)
  have hnew := hsplit (before ++ d :: after) hbetween
  have hs : s ++ before ++ d :: (after ++ t) = s ++ (before ++ d :: after) ++ t := by simp
  have hs' : s ++ d :: t = s ++ [d] ++ t := by simp
  rw [hs, hs', cells, cells, hold, hnew, List.map_append, List.map_append, List.map_cons,
    List.map_cons, hrow]

/-- **Blanks around a separator** are not seen in the cells. -/
lemma Beside.cells_eq (hc : isBlank c = false) (hd : isBlank d = false) (hne : d ≠ c) {s t : Text}
    (h : Beside [c, d] s t) : cells c d s = cells c d t := by
  rcases h.cases_cons with h | h
  · exact cells_eq_of_parts_eq hd (h.parts_eq hc)
  · obtain @⟨e, before, after, s, t, hmem, hbefore, hafter⟩ := h
    obtain rfl : e = d := List.mem_singleton.1 hmem
    exact (cells_beside_inner hc hd hne hbefore hafter s t).symm

/-- **A blank part** is not seen in the cells. -/
lemma Widened.cells_eq (hc : isBlank c = false) (hd : isBlank d = false) {s t : Text}
    (h : Widened c s t) : cells c d s = cells c d t :=
  h.eq_of_joined cells_append_cons fun _ => cells_of_blank hc hd

example : cells '&' '=' " a = 1& &b=" = ([["a", "1"], ["b", ""]] : List (List Text)) := by decide

/-- The rows that are left are those that are not blank. -/
lemma cells_eq_map (hd : isBlank d = false) (t : Text) :
    cells c d t = ((t.splitOn c).filter fun p => !blank p).map (parts d) := by
  have hkeep : (fun row : List Text => decide (row ≠ [[]])) ∘ parts d = fun p => !blank p := by
    funext p
    rw [Function.comp_apply, Bool.eq_iff_iff, decide_eq_true_eq, Ne, parts_eq_nil_cell_iff hd]
    simp
  rw [cells, List.filter_map, hkeep]

lemma forall₂_of_cells_eq (hd : isBlank d = false) {s t : Text} (h : cells c d s = cells c d t) :
    List.Forall₂ (fun p q => parts d p = parts d q) ((s.splitOn c).filter fun p => !blank p)
      ((t.splitOn c).filter fun p => !blank p) := by
  rw [cells_eq_map hd, cells_eq_map hd] at h
  rwa [← List.forall₂_eq_eq_eq, List.forall₂_map_left_iff, List.forall₂_map_right_iff] at h

lemma cells_ne_nil (hd : isBlank d = false) {t part : Text} (hmem : part ∈ t.splitOn c)
    (h : blank part = false) : cells c d t ≠ [] := by
  rw [cells_eq_map hd, Ne, List.map_eq_nil_iff, List.filter_eq_nil_iff]
  exact fun hall => hall part hmem (by simp [h])

end Listing.Text
