import Mathlib
import Listing.Proofs.Sql.Alternatives
import Listing.Proofs.Text.Pattern

/-!
# Filters by a part of a text

Three comparisons ask for a part of a text: a value that is contained in it, or that it starts or
ends with, where the case of ASCII letters does not matter.  The database is handed a pattern, the
value with a wildcard on the sides that are left open.

Every text that has the value in the place asked for is found.  Wildcards in the value itself are
not escaped, so a value with one finds texts that do not have it, and a value without finds no
others: `forall_occurs_iff` says that this is the exact line.
-/

namespace Listing.Sql

open Text

variable {c : Comparison} {before after v t : Text}

/-- The comparisons that ask for a part of a text. -/
def patterned : List Comparison :=
  [.contains, .startsWith, .endsWith]

/-- Where a text is asked to have a value, whatever the case of ASCII letters. -/
def Occurs : Comparison → Text → Text → Prop
  | .contains, v, t => folded v <:+: folded t
  | .startsWith, v, t => folded v <+: folded t
  | .endsWith, v, t => folded v <:+ folded t
  | _, _, _ => False

instance (c : Comparison) (v t : Text) : Decidable (Occurs c v t) :=
  match c with
  | .contains => inferInstanceAs (Decidable (_ <:+: _))
  | .startsWith => inferInstanceAs (Decidable (_ <+: _))
  | .endsWith => inferInstanceAs (Decidable (_ <:+ _))
  | .equals | .between | .less | .lessOrEqual | .greater | .greaterOrEqual => .isFalse id

/-! ### The pattern of a value -/

lemma exists_wildcards? (h : c ∈ patterned) :
    ∃ before after, Value.wildcards? c = some (before, after) := by
  simp only [patterned, List.mem_cons, List.not_mem_nil, or_false] at h
  rcases h with rfl | rfl | rfl <;> exact ⟨_, _, rfl⟩

/-- A value is where it is asked for if the text can be cut in three, with the value in the middle
and nothing around it but what the wildcards stand for. -/
lemma occurs_iff (h : Value.wildcards? c = some (before, after)) :
    Occurs c v t ↔
      ∃ x u y, t = x ++ (u ++ y) ∧ Like before x ∧ folded v = folded u ∧ Like after y := by
  have hmap (x u y : Text) : folded (x ++ (u ++ y)) = folded x ++ (folded u ++ folded y) := by
    rw [folded, List.map_append, List.map_append, ← folded, ← folded, ← folded]
  cases c with
  | contains =>
    cases h
    constructor
    · rintro ⟨a, b, hab⟩
      rw [List.append_assoc] at hab
      obtain ⟨x, uy, rfl, -, huy⟩ := List.map_eq_append_iff.1 hab.symm
      obtain ⟨u, y, rfl, hu, -⟩ := List.map_eq_append_iff.1 huy
      exact ⟨x, u, y, rfl, like_run x, hu.symm, like_run y⟩
    · rintro ⟨x, u, y, rfl, -, hu, -⟩
      exact ⟨folded x, folded y, by rw [hmap, hu, List.append_assoc]⟩
  | startsWith =>
    cases h
    constructor
    · rintro ⟨b, hb⟩
      obtain ⟨u, y, rfl, hu, -⟩ := List.map_eq_append_iff.1 hb.symm
      exact ⟨[], u, y, rfl, .nil, hu.symm, like_run y⟩
    · rintro ⟨x, u, y, rfl, hx, hu, -⟩
      obtain rfl := like_nil_iff.1 hx
      exact ⟨folded y, by rw [hmap, hu, show folded [] = [] from rfl, List.nil_append]⟩
  | endsWith =>
    cases h
    constructor
    · rintro ⟨a, ha⟩
      obtain ⟨x, u, rfl, -, hu⟩ := List.map_eq_append_iff.1 ha.symm
      exact ⟨x, u, [], by rw [List.append_nil], like_run x, hu.symm, .nil⟩
    · rintro ⟨x, u, y, rfl, -, hu, hy⟩
      obtain rfl := like_nil_iff.1 hy
      have hend : folded x ++ folded u = folded (x ++ (u ++ [])) := by
        rw [hmap]
        exact congrArg _ (List.append_nil _).symm
      exact ⟨folded x, by rw [hu, hend]⟩
  | _ => cases h

/-- The parts of the pattern match parts of the text. -/
lemma like_pattern_iff : Like (before ++ v ++ after) t ↔
    ∃ x u y, t = x ++ (u ++ y) ∧ Like before x ∧ Like v u ∧ Like after y := by
  rw [List.append_assoc, like_append_iff]
  simp only [like_append_iff]
  constructor
  · rintro ⟨x, uy, rfl, hx, u, y, rfl, hu, hy⟩
    exact ⟨x, u, y, rfl, hx, hu, hy⟩
  · rintro ⟨x, u, y, rfl, hx, hu, hy⟩
    exact ⟨x, u ++ y, rfl, hx, u, y, rfl, hu, hy⟩

/-- **What has the value** matches its pattern, with wildcards in the value and without. -/
lemma like_of_occurs (h : Value.wildcards? c = some (before, after)) (ht : Occurs c v t) :
    Like (before ++ v ++ after) t := by
  obtain ⟨x, u, y, rfl, hx, hu, hy⟩ := (occurs_iff h).1 ht
  exact like_pattern_iff.2 ⟨x, u, y, rfl, hx, like_of_folded_eq hu, hy⟩

/-- Without wildcards in the value nothing else does. -/
lemma occurs_of_like (h : Value.wildcards? c = some (before, after)) (hv : WildcardFree v)
    (ht : Like (before ++ v ++ after) t) : Occurs c v t := by
  obtain ⟨x, u, y, rfl, hx, hu, hy⟩ := like_pattern_iff.1 ht
  exact (occurs_iff h).2 ⟨x, u, y, rfl, hx, folded_eq_of_like hv hu, hy⟩

/-- A wildcard that is open to one side matches the empty text. -/
lemma like_wildcards_nil (h : Value.wildcards? c = some (before, after)) :
    Like before [] ∧ Like after [] := by
  cases c <;> cases h <;> decide

/-- A text that is no longer than the value has it only if it is the value. -/
lemma folded_eq_of_occurs (h : Value.wildcards? c = some (before, after)) (ht : Occurs c v t)
    (hlength : t.length = v.length) : folded v = folded t := by
  obtain ⟨x, u, y, rfl, -, hu, -⟩ := (occurs_iff h).1 ht
  have hsame : v.length = u.length := by simpa [folded] using congrArg List.length hu
  simp only [List.length_append] at hlength
  obtain rfl : x = [] := List.eq_nil_of_length_eq_zero (by omega)
  obtain rfl : y = [] := List.eq_nil_of_length_eq_zero (by omega)
  rwa [List.append_nil, List.nil_append]

/-- **The exact line.**  A pattern matches no more than the texts with its value exactly if the
value has no wildcards. -/
theorem forall_occurs_iff (h : Value.wildcards? c = some (before, after)) :
    (∀ t, Like (before ++ v ++ after) t → Occurs c v t) ↔ WildcardFree v := by
  refine ⟨fun hall => ?_, fun hv t => occurs_of_like h hv⟩
  have hfilled : Like (before ++ v ++ after) (filled v) :=
    like_pattern_iff.2 ⟨[], filled v, [], (List.append_nil _).symm, (like_wildcards_nil h).1,
      like_filled v, (like_wildcards_nil h).2⟩
  exact wildcardFree_of_folded_eq
    (folded_eq_of_occurs h (hall _ hfilled) (List.length_map _))

/-! ### Filters -/

/-- A database that matches the values of a column as texts: `shown` is the text of a value. -/
structure Engine.Matches {Datum : Type} (e : Engine Datum) (column : Text)
    (shown : Datum → Text) : Prop where
  /-- A pattern is stored, and matches the values whose texts it matches. -/
  like_iff : ∀ p, ∃ y, e.stored (.text p) = some y ∧
    ∀ x, e.like column x y = true ↔ Like p (shown x)

/-- A database of texts, where everything else is null. -/
def Engine.ofTexts : Engine Text where
  stored
    | .text t => some t
    | _ => none
  stored_null := rfl
  order _ s t := compareOfLessAndEq s t
  like _ t p := likes p t

lemma Engine.matches_ofTexts (column : Text) : Engine.ofTexts.Matches column id where
  like_iff p := ⟨p, rfl, fun _ => likes_iff⟩

section Rows

variable {Datum : Type} {e : Engine Datum} {row : Text → Option Datum} {column : Text}
  {shown : Datum → Text} {values : List Text}

lemma Engine.nonnull_eq_yes_iff {test : Datum → Datum → Bool} {x y : Option Datum} :
    Engine.nonnull test x y = .yes ↔ ∃ a ∈ x, ∃ b ∈ y, test a b = true := by
  cases x with
  | none => simp [Engine.nonnull]
  | some a =>
    cases y with
    | none => simp [Engine.nonnull]
    | some b => cases h : test a b <;> simp [Engine.nonnull, Truth.ofBool, h]

lemma testOf?_of_wildcards? (h : Value.wildcards? c = some (before, after)) :
    testOf? c = some .like := by
  cases c <;> cases h <;> rfl

lemma bind_eq (h : Value.wildcards? c = some (before, after)) (v : Text) :
    Value.bind c v
      = .ok (if v = Value.nullWord then .null else .text (before ++ v ++ after)) := by
  rw [Value.bind, h]
  split <;> rfl

/-- A filter with one value keeps a row if the text of the column matches the pattern, and none if
the value is the null word. -/
lemma keeps_singleton_iff (h : Value.wildcards? c = some (before, after))
    (he : e.Matches column shown) : Keeps e row column ⟨c, [v]⟩ ↔
      ∃ x ∈ row column, v ≠ Value.nullWord ∧ Like (before ++ v ++ after) (shown x) := by
  rw [keeps_iff_test (testOf?_of_wildcards? h) rfl (.cons (bind_eq h v) .nil)]
  simp only [List.map_cons, List.map_nil, Test.predicate, Engine.test, Engine.nonnull_eq_yes_iff]
  obtain ⟨y, hy, hlike⟩ := he.like_iff (before ++ v ++ after)
  by_cases hnull : v = Value.nullWord
  · simp [hnull, e.stored_null]
  · rw [if_neg hnull, hy]
    simp only [Option.mem_some_iff, exists_eq_left', hlike, ne_eq, hnull, not_false_iff, true_and]

/-- A filter with several values keeps what one of them would keep by itself. -/
lemma keeps_iff_exists_value (h : Value.wildcards? c = some (before, after)) (hne : values ≠ []) :
    Keeps e row column ⟨c, values⟩ ↔ ∃ v ∈ values, Keeps e row column ⟨c, [v]⟩ := by
  have hbetween : c ≠ .between := by
    rintro rfl
    cases h
  have hvs : valuesOf ⟨c, values⟩ = .ok (values.map fun v =>
      if v = Value.nullWord then .null else .text (before ++ v ++ after)) := by
    rw [valuesOf, boundTexts_of_ne_between hbetween, mapM_eq_ok_iff, List.forall₂_map_right_iff,
      List.forall₂_same]
    exact fun v _ => bind_eq h v
  have hparts : parts ⟨c, values⟩ = values.map fun v => ⟨c, [v]⟩ := parts_of_ne_between hbetween
  rw [keeps_iff_exists_part_of_testOf? (testOf?_of_wildcards? h) hvs (by simpa [hparts] using hne),
    hparts]
  simp only [List.mem_map, exists_exists_and_eq_and]

end Rows

/-- **Filters by a part of a text.**  A value that is not the null word is bound as a pattern that
matches every text which has the value where the comparison asks for it, and no others if and only
if the value has no wildcards.  So a filter, whose values are alternatives, keeps every row where
the text of the column has one of them, and without wildcards in its values it keeps just these;
null is never kept.  If the name of the column can stand in a statement, it is all the same to go by
the text of the condition. -/
theorem keeps_iff_occurs (hc : c ∈ patterned) :
    (∀ v, v ≠ Value.nullWord → ∃ p, Value.bind c v = .ok (.text p) ∧
      (∀ t, Occurs c v t → Like p t) ∧ ((∀ t, Like p t ↔ Occurs c v t) ↔ WildcardFree v)) ∧
    ∀ {Datum : Type} (e : Engine Datum) (row : Text → Option Datum) (column : Text)
      (shown : Datum → Text) (values : List Text), e.Matches column shown → values ≠ [] →
        ((∃ x ∈ row column, ∃ v ∈ values, v ≠ Value.nullWord ∧ Occurs c v (shown x)) →
          Keeps e row column ⟨c, values⟩) ∧
        ((∀ v ∈ values, WildcardFree v) → (Keeps e row column ⟨c, values⟩ ↔
          ∃ x ∈ row column, ∃ v ∈ values, v ≠ Value.nullWord ∧ Occurs c v (shown x))) ∧
        (IsIdentifier column →
          (KeepsByText e row column ⟨c, values⟩ ↔ Keeps e row column ⟨c, values⟩)) := by
  obtain ⟨before, after, h⟩ := exists_wildcards? hc
  refine ⟨fun v hv => ⟨before ++ v ++ after, ?_, fun t => like_of_occurs h, ?_⟩, ?_⟩
  · rw [bind_eq h, if_neg hv]
  · rw [← forall_occurs_iff h]
    exact forall_congr' fun t => ⟨Iff.mp, fun ht => ⟨ht, like_of_occurs h⟩⟩
  · intro Datum e row column shown values he hne
    have hfound : (∃ x ∈ row column, ∃ v ∈ values, v ≠ Value.nullWord ∧ Occurs c v (shown x)) →
        Keeps e row column ⟨c, values⟩ := by
      rintro ⟨x, hx, v, hv, hnull, ht⟩
      exact (keeps_iff_exists_value h hne).2
        ⟨v, hv, (keeps_singleton_iff h he).2 ⟨x, hx, hnull, like_of_occurs h ht⟩⟩
    refine ⟨hfound, fun hfree => ⟨fun hkeeps => ?_, hfound⟩, keepsByText_iff⟩
    obtain ⟨v, hv, hkeeps⟩ := (keeps_iff_exists_value h hne).1 hkeeps
    obtain ⟨x, hx, hnull, ht⟩ := (keeps_singleton_iff h he).1 hkeeps
    exact ⟨x, hx, v, hv, hnull, occurs_of_like h (hfree v hv) ht⟩

/-- A name is found by what it contains, in another case, and not by what it does not contain. -/
theorem keeps_iff_occurs_name :
    (∃ p, Value.bind .contains "AB" = .ok (.text p) ∧ Like p "Crab") ∧
      Keeps .ofTexts (fun _ => some "Crab") "name" ⟨.contains, ["null", "AB"]⟩ ∧
      ¬Keeps .ofTexts (fun _ => some "Crab") "name" ⟨.contains, ["null", "ba"]⟩ ∧
      KeepsByText .ofTexts (fun _ => some "Crab") "name" ⟨.contains, ["null", "AB"]⟩ := by
  have hc : Comparison.contains ∈ patterned := by decide
  have hkeeps (values : List Text) (hne : values ≠ []) :=
    (keeps_iff_occurs hc).2 .ofTexts (fun _ => some "Crab") "name" id values
      (Engine.matches_ofTexts _) hne
  obtain ⟨p, hbind, hlike, -⟩ := (keeps_iff_occurs hc).1 "AB" (by decide)
  have hkept := (hkeeps ["null", "AB"] (by decide)).1 ⟨_, rfl, "AB", by decide⟩
  refine ⟨⟨p, hbind, hlike _ (by decide)⟩, hkept, ?_,
    ((hkeeps _ (by decide)).2.2 (by decide)).2 hkept⟩
  rw [(hkeeps _ (by decide)).2.1 (by decide)]
  rintro ⟨x, hx, v, hv, -, ht⟩
  obtain rfl := Option.some.inj hx
  revert v
  decide

end Listing.Sql
