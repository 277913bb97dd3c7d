import Mathlib

/-!
# Lists read element by element

A list is read by reading its elements one after the other, and the first element that cannot be
read spoils the whole list.  So a list that is read is read in full, each element for itself.
-/

namespace Listing

variable {ε α β : Type}

/-- A list is read exactly as its elements are. -/
lemma mapM_eq_ok_iff {f : α → Except ε β} {xs : List α} {ys : List β} :
    xs.mapM f = .ok ys ↔ List.Forall₂ (fun x y => f x = .ok y) xs ys := by
  induction xs generalizing ys with
  | nil =>
    rw [List.mapM_nil, List.forall₂_nil_left_iff]
    exact ⟨fun h => (Except.ok.inj h).symm, fun h => h ▸ rfl⟩
  | cons x xs ih =>
    rw [List.mapM_cons, List.forall₂_cons_left_iff]
    constructor
    · intro h
      cases hx : f x with
      | error fault => simp [hx, bind, Except.bind] at h
      | ok y =>
        cases hxs : xs.mapM f with
        | error fault => simp [hx, hxs, bind, Except.bind] at h
        | ok rest =>
          simp only [hx, hxs, bind, Except.bind, pure, Except.pure, Except.ok.injEq] at h
          exact ⟨y, rest, rfl, ih.1 hxs, h.symm⟩
    · rintro ⟨y, rest, hy, hrest, rfl⟩
      rw [hy, ih.2 hrest]
      rfl

/-- What is read of a list is read of its elements. -/
lemma exists_mem_of_mapM {f : α → Except ε β} {xs : List α} {ys : List β}
    (h : xs.mapM f = .ok ys) {y : β} (hy : y ∈ ys) : ∃ x ∈ xs, f x = .ok y := by
  have hall := mapM_eq_ok_iff.1 h
  clear h
  induction hall with
  | nil => simp at hy
  | @cons x y' xs ys hx _ ih =>
    rcases List.mem_cons.1 hy with rfl | hy
    · exact ⟨x, by simp, hx⟩
    · obtain ⟨x', hmem, hx'⟩ := ih hy
      exact ⟨x', List.mem_cons_of_mem _ hmem, hx'⟩

/-- Every element of a list that is read can be read. -/
lemma forall_mem_of_mapM {f : α → Except ε β} {xs : List α} {ys : List β}
    (h : xs.mapM f = .ok ys) : ∀ x ∈ xs, ∃ y, f x = .ok y := by
  have hall := mapM_eq_ok_iff.1 h
  clear h
  induction hall with
  | nil => simp
  | @cons x y xs ys hx _ ih => exact List.forall_mem_cons.2 ⟨⟨y, hx⟩, ih⟩

/-- What is wrong with a list is wrong with one of its elements. -/
lemma exists_mem_of_mapM_error {f : α → Except ε β} {xs : List α} {fault : ε}
    (h : xs.mapM f = .error fault) : ∃ x ∈ xs, f x = .error fault := by
  induction xs with
  | nil => cases h
  | cons x xs ih =>
    rw [List.mapM_cons] at h
    cases hx : f x with
    | error fault' =>
      simp only [hx, bind, Except.bind, Except.error.injEq] at h
      exact ⟨x, by simp, h ▸ hx⟩
    | ok y =>
      cases hxs : xs.mapM f with
      | error fault' =>
        simp only [hx, hxs, bind, Except.bind, Except.error.injEq] at h
        obtain ⟨x', hmem, hx'⟩ := ih (h ▸ hxs)
        exact ⟨x', List.mem_cons_of_mem _ hmem, hx'⟩
      | ok ys => simp [hx, hxs, bind, Except.bind, pure, Except.pure] at h

/-- **The first fault.**  A list, of which only some elements are read, is at fault exactly if one
of these cannot be read, and the first one that cannot decides on the fault. -/
lemma mapM_filter_eq_error_iff {f : α → Except ε β} {p : α → Bool} {xs : List α} {fault : ε} :
    (xs.filter p).mapM f = .error fault ↔ ∃ before x after, xs = before ++ x :: after ∧
      (∀ y ∈ before, p y = true → ∃ b, f y = .ok b) ∧ p x = true ∧ f x = .error fault := by
  induction xs with
  | nil =>
    constructor
    · intro h
      cases h
    · rintro ⟨before, x, after, h, -⟩
      simp at h
  | cons x xs ih =>
    -- the first element is the one at fault, or stands before it
    have hcons : (∃ before y after, x :: xs = before ++ y :: after ∧
        (∀ z ∈ before, p z = true → ∃ b, f z = .ok b) ∧ p y = true ∧ f y = .error fault) ↔
          p x = true ∧ f x = .error fault ∨
            (p x = true → ∃ b, f x = .ok b) ∧ (xs.filter p).mapM f = .error fault := by
      rw [ih]
      constructor
      · rintro ⟨before, y, after, heq, hbefore, hp, hy⟩
        cases before with
        | nil =>
          obtain ⟨rfl, -⟩ := List.cons.inj heq
          exact .inl ⟨hp, hy⟩
        | cons z before =>
          obtain ⟨rfl, rfl⟩ := List.cons.inj heq
          obtain ⟨hx, hbefore⟩ := List.forall_mem_cons.1 hbefore
          exact .inr ⟨hx, before, y, after, rfl, hbefore, hp, hy⟩
      · rintro (⟨hp, hx⟩ | ⟨hx, before, y, after, rfl, hbefore, hp, hy⟩)
        · exact ⟨[], x, xs, rfl, by simp, hp, hx⟩
        · exact ⟨x :: before, y, after, rfl, List.forall_mem_cons.2 ⟨hx, hbefore⟩, hp, hy⟩
    rw [hcons]
    by_cases hp : p x = true
    · rw [List.filter_cons_of_pos hp, List.mapM_cons]
      cases f x with
      | error fault' => simp [hp, bind, Except.bind]
      | ok b => cases (xs.filter p).mapM f <;> simp [bind, Except.bind, pure, Except.pure]
    · rw [List.filter_cons_of_neg hp]
      simp [hp]

/-- What is read of a list, if anything, is a matter of what is read of its elements. -/
lemma toOption_mapM_congr {f : α → Except ε β} {xs ys : List α}
    (h : List.Forall₂ (fun x y => (f x).toOption = (f y).toOption) xs ys) :
    (xs.mapM f).toOption = (ys.mapM f).toOption := by
  induction h with
  | nil => rfl
  | @cons x y xs ys hxy _ ih =>
    have hcons (z : α) (zs : List α) : ((z :: zs).mapM f).toOption =
        (f z).toOption.bind fun b => (zs.mapM f).toOption.map (b :: ·) := by
      rw [List.mapM_cons]
      cases f z with
      | error fault => rfl
      | ok b => cases zs.mapM f <;> rfl
    rw [hcons, hcons, hxy, ih]

/-- A list is read back element by element. -/
lemma mapM_map_ok {read : α → Except ε β} {write : β → α} {xs : List β}
    (h : ∀ x ∈ xs, read (write x) = .ok x) : (xs.map write).mapM read = .ok xs := by
  induction xs with
  | nil => rfl
  | cons x xs ih =>
    rw [List.map_cons, List.mapM_cons, h x (by simp),
      ih fun y hy => h y (List.mem_cons_of_mem _ hy)]
    rfl

end Listing
