import Mathlib
import Listing.Sorting
import Listing.Proofs.Elementwise
import Listing.Proofs.Fields
import Listing.Proofs.Text.Cells

/-!
# The grammar of orders

An order is cut at its commas, and each segment that is not blank has to name a field and its
direction.  `Names` says what such a segment looks like and what it names, `Faulty` what is wrong
with any other, both in terms of the text of the segment.  An order can be read exactly if all its
segments are blank or name something; it holds what they name, written one after the other, so that
the last segment of a field decides on the direction and the first one on the place.  Names are
compared as they are spelled out: segments that differ in their escapes can name one field.  If an
order cannot be read, its first faulty segment is to blame.
-/

namespace Listing.Sorting

open Text

/-- The segments that name a field and its direction: one colon, a name before it that is not blank
and is spelled out, and the word for the direction after it. -/
inductive Names : Text → Text × Direction → Prop
  | cut {s name word : Text} {d : Direction} : CutAt ':' s name word → blank name = false →
      trim word = d.word → Names s (Percent.decode (trim name), d)

/-- The segments that are not blank and name nothing, and what is wrong with them. -/
inductive Faulty : Text → Malformed → Prop
  /-- There is not exactly one colon. -/
  | colons {s : Text} : blank s = false → s.count ':' ≠ 1 → Faulty s (.sortItem (trim s))
  /-- There is nothing before the colon or nothing after it. -/
  | part {s name word : Text} : CutAt ':' s name word → blank name = true ∨ blank word = true →
      Faulty s (.sortItem (trim s))
  /-- The word after the colon is no direction. -/
  | direction {s name word : Text} : CutAt ':' s name word → blank name = false →
      blank word = false → (∀ d : Direction, trim word ≠ d.word) →
      Faulty s (.direction (trim word))

/-! ### Segments -/

/-- What is read of a segment depends on its parts. -/
lemma readItem_trim (s : Text) :
    readItem (trim s) =
      match parts ':' s with
      | [name, word] =>
        if name.isEmpty || word.isEmpty then .error (.sortItem (trim s))
        else (Direction.read word).map fun d => (Percent.decode name, d)
      | _ => .error (.sortItem (trim s)) := by
  have hparts : ((trim (trim s)).splitOn ':').map trim = parts ':' s := by
    rw [trim_trim, map_trim_splitOn_trim (by decide), parts]
  rw [← hparts]
  rfl

lemma readItem_of_count_ne_one {s : Text} (h : s.count ':' ≠ 1) :
    readItem (trim s) = .error (.sortItem (trim s)) := by
  have hlength : (parts ':' s).length ≠ 2 := by
    rw [parts, List.length_map, length_splitOn]
    omega
  rw [readItem_trim]
  split
  · next heq => simp [heq] at hlength
  · rfl

lemma readItem_of_cutAt {s name word : Text} (h : CutAt ':' s name word) :
    readItem (trim s) =
      if blank name || blank word then .error (.sortItem (trim s))
      else (Direction.read (trim word)).map fun d => (Percent.decode (trim name), d) := by
  have hempty (t : Text) : (trim t).isEmpty = blank t := by
    rw [Bool.eq_iff_iff, List.isEmpty_iff, trim_eq_nil_iff]
  rw [readItem_trim, parts, splitOn_eq_pair_iff.2 h, List.map_cons, List.map_singleton]
  simp only [hempty]

lemma readItem_of_names {s : Text} {e : Text × Direction} (h : Names s e) :
    readItem (trim s) = .ok e := by
  cases h with
  | @cut name word d hcut hname hword =>
    have hsolid : blank word = false := by
      rw [← blank_trim, hword]
      cases d <;> decide
    rw [readItem_of_cutAt hcut, hname, hsolid, hword, Direction.read, Direction.ofWord?_word]
    rfl

lemma readItem_of_faulty {s : Text} {cause : Malformed} (h : Faulty s cause) :
    readItem (trim s) = .error cause := by
  cases h with
  | colons _ hcount => exact readItem_of_count_ne_one hcount
  | part hcut hblank => rw [readItem_of_cutAt hcut, if_pos (by simpa using hblank)]
  | @direction name word hcut hname hword hnone =>
    have hread : Direction.read (trim word) = .error (.direction (trim word)) := by
      rw [Direction.read]
      cases hd : Direction.ofWord? (trim word) with
      | none => rfl
      | some d => exact absurd (Direction.word_of_ofWord? hd) (hnone d)
    rw [readItem_of_cutAt hcut, hname, hword, hread]
    rfl

/-- Every segment is blank, or names something, or is faulty. -/
lemma names_or_faulty {s : Text} (hb : blank s = false) :
    (∃ e, Names s e) ∨ ∃ cause, Faulty s cause := by
  by_cases hcount : s.count ':' = 1
  · obtain ⟨name, word, hcut⟩ := count_eq_one_iff.1 hcount
    by_cases hpart : blank name = true ∨ blank word = true
    · exact .inr ⟨_, .part hcut hpart⟩
    · rw [not_or, Bool.not_eq_true, Bool.not_eq_true] at hpart
      by_cases hword : ∃ d : Direction, trim word = d.word
      · obtain ⟨d, hd⟩ := hword
        exact .inl ⟨_, .cut hcut hpart.1 hd⟩
      · exact .inr ⟨_, .direction hcut hpart.1 hpart.2 fun d hd => hword ⟨d, hd⟩⟩
  · exact .inr ⟨_, .colons hb hcount⟩

lemma readItem_eq_ok_iff {s : Text} {e : Text × Direction} :
    readItem (trim s) = .ok e ↔ Names s e := by
  refine ⟨fun h => ?_, readItem_of_names⟩
  have hb : blank s = false := by
    rw [← Bool.not_eq_true]
    intro hb
    have hcount : s.count ':' = 0 := List.count_eq_zero.2 (not_mem_of_blank (by decide) hb)
    rw [readItem_of_count_ne_one (by omega)] at h
    cases h
  rcases names_or_faulty hb with ⟨e', he'⟩ | ⟨cause, hcause⟩
  · rw [readItem_of_names he'] at h
    exact Except.ok.inj h ▸ he'
  · rw [readItem_of_faulty hcause] at h
    cases h

lemma blank_eq_false_of_faulty {s : Text} {cause : Malformed} (h : Faulty s cause) :
    blank s = false := by
  have hcolon {name word : Text} (hcut : CutAt ':' s name word) : blank s = false :=
    blank_eq_false_iff.2 ⟨':', hcut.mem, by decide⟩
  cases h with
  | colons hb => exact hb
  | part hcut => exact hcolon hcut
  | direction hcut => exact hcolon hcut

lemma readItem_eq_error_iff {s : Text} {cause : Malformed} :
    blank s = false ∧ readItem (trim s) = .error cause ↔ Faulty s cause := by
  refine ⟨fun ⟨hb, h⟩ => ?_, fun h => ⟨blank_eq_false_of_faulty h, readItem_of_faulty h⟩⟩
  rcases names_or_faulty hb with ⟨e, he⟩ | ⟨cause', hcause'⟩
  · rw [readItem_of_names he] at h
    cases h
  · rw [readItem_of_faulty hcause'] at h
    exact Except.error.inj h ▸ hcause'

/-! ### Orders -/

/-- The segments of an order that are not blank. -/
def segments (t : Text) : List Text :=
  (t.splitOn ',').filter fun s => !blank s

lemma items_eq (t : Text) : items t = (segments t).map trim := by
  have hkeep : (fun item : Text => !item.isEmpty) ∘ trim = fun item => !blank item := by
    funext item
    rw [Function.comp_apply, Bool.eq_iff_iff, Bool.not_eq_true', Bool.not_eq_true',
      ← Bool.not_eq_true, ← Bool.not_eq_true, List.isEmpty_iff, trim_eq_nil_iff]
  rw [items, segments, List.filter_map, hkeep]

lemma read_eq (t : Text) :
    read t = ((segments t).mapM fun s => readItem (trim s)).map Fields.ofList := by
  rw [read, items_eq, List.mapM_map]
  rfl

lemma read_eq_ok_iff {t : Text} {m : Sorting} :
    read t = .ok m ↔ ∃ es, List.Forall₂ Names (segments t) es ∧ m = Fields.ofList es := by
  have hnames (es : List (Text × Direction)) :
      ((segments t).mapM fun s => readItem (trim s)) = .ok es ↔
        List.Forall₂ Names (segments t) es := by
    simp only [mapM_eq_ok_iff, readItem_eq_ok_iff]
  simp only [← hnames]
  rw [read_eq]
  cases (segments t).mapM fun s => readItem (trim s) with
  | error cause => simp [Except.map]
  | ok es => simp [Except.map, eq_comm]

lemma read_eq_error_iff {t : Text} {cause : Malformed} :
    read t = .error cause ↔ ∃ before s after, t.splitOn ',' = before ++ s :: after ∧
      (∀ u ∈ before, blank u = true ∨ ∃ e, Names u e) ∧ Faulty s cause := by
  have hmap : read t = .error cause ↔
      ((segments t).mapM fun s => readItem (trim s)) = .error cause := by
    rw [read_eq]
    cases (segments t).mapM fun s => readItem (trim s) <;> simp [Except.map]
  have hsolid (u : Text) : (blank u = false → ∃ e, readItem (trim u) = .ok e) ↔
      blank u = true ∨ ∃ e, Names u e := by
    rw [← Bool.not_eq_true, ← or_iff_not_imp_left]
    simp only [readItem_eq_ok_iff]
  rw [hmap, segments, mapM_filter_eq_error_iff]
  simp only [Bool.not_eq_true', hsolid, readItem_eq_error_iff]

lemma exists_read_iff {t : Text} :
    (∃ m, read t = .ok m) ↔ ∀ s ∈ t.splitOn ',', blank s = true ∨ ∃ e, Names s e := by
  constructor
  · rintro ⟨m, hm⟩ s hs
    rw [or_iff_not_imp_left, Bool.not_eq_true]
    intro hb
    obtain ⟨es, hes, -⟩ := read_eq_ok_iff.1 hm
    have hmapM := mapM_eq_ok_iff.2 (hes.imp fun s e => readItem_of_names)
    obtain ⟨e, he⟩ := forall_mem_of_mapM hmapM s (List.mem_filter.2 ⟨hs, by simp [hb]⟩)
    exact ⟨e, readItem_eq_ok_iff.1 he⟩
  · intro h
    cases hread : read t with
    | ok m => exact ⟨m, rfl⟩
    | error cause =>
      obtain ⟨before, s, after, hsplit, -, hfaulty⟩ := read_eq_error_iff.1 hread
      rcases h s (by rw [hsplit]; simp) with hb | ⟨e, he⟩
      · rw [blank_eq_false_of_faulty hfaulty] at hb
        cases hb
      · have hread := readItem_of_faulty hfaulty
        rw [readItem_of_names he] at hread
        cases hread

/-- **The grammar of orders.**  An order can be read exactly if each of its segments is blank or
names a field and its direction, and then it holds what the segments name, each field at the place
of its first segment and with the direction of its last.  Otherwise its first faulty segment says
what is wrong. -/
theorem read_by_segments (t : Text) :
    ((∃ m, read t = .ok m) ↔ ∀ s ∈ t.splitOn ',', blank s = true ∨ ∃ e, Names s e) ∧
      (∀ m, read t = .ok m → ∃ es, List.Forall₂ Names (segments t) es ∧ m.Holds es) ∧
      ∀ cause, read t = .error cause ↔
        ∃ before s after, t.splitOn ',' = before ++ s :: after ∧
          (∀ u ∈ before, blank u = true ∨ ∃ e, Names u e) ∧ Faulty s cause := by
  refine ⟨exists_read_iff, fun m hm => ?_, fun cause => read_eq_error_iff⟩
  obtain ⟨es, hes, rfl⟩ := read_eq_ok_iff.1 hm
  exact ⟨es, hes, Fields.holds_ofList es⟩

/-- A field that is spelled in two ways, before and after another one; and a direction that is none,
before a segment without a colon. -/
theorem read_by_segments_spellings :
    read "%61 : asc, ,b:desc,a:desc" = .ok ⟨[("a", .descending), ("b", .descending)]⟩ ∧
      (∃ es, List.Forall₂ Names (segments "%61 : asc, ,b:desc,a:desc") es ∧
        (⟨[("a", .descending), ("b", .descending)]⟩ : Sorting).Holds es) ∧
      read "b:asc, a: down,c" = .error (.direction "down") ∧
      ∃ before s after, ("b:asc, a: down,c" : Text).splitOn ',' = before ++ s :: after ∧
        (∀ u ∈ before, blank u = true ∨ ∃ e, Names u e) ∧ Faulty s (.direction "down") := by
  have hread : read "%61 : asc, ,b:desc,a:desc" =
      .ok ⟨[("a", .descending), ("b", .descending)]⟩ := by decide
  have hfault : read "b:asc, a: down,c" = .error (.direction "down") := by decide
  exact ⟨hread, (read_by_segments _).2.1 _ hread, hfault, ((read_by_segments _).2.2 _).1 hfault⟩

end Listing.Sorting
