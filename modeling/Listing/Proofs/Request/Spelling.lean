import Mathlib
import Listing.Request.Reading
import Listing.Request.Printing
import Listing.Proofs.Elementwise
import Listing.Proofs.Text.Splitting
import Listing.Proofs.Text.Spelling
import Listing.Proofs.Request.Built
import Listing.Proofs.Numeral

/-!
# The parts of a request read back

A filter, an order and a number of the page are each read back from the text that they are written
as.  In these texts the colon and the commas are those of the notation, since names and values are
escaped, and there are no blanks at all, so that trimming changes nothing at any level.
-/

namespace Listing

open Text

/-! ### The characters of written parts -/

/-- The characters that the parts of a request are written with: those of a spelling, and the
colon and the comma of the notation. -/
def IsWritten (c : Char) : Prop :=
  Percent.isKept c = true ∨ c = '%' ∨ c = ':' ∨ c = ','

namespace IsWritten

lemma isBlank {c : Char} (h : IsWritten c) : isBlank c = false := by
  rcases h with h | rfl | rfl | rfl
  · exact Percent.isBlank_of_isKept h
  all_goals decide

lemma ne_ampersand {c : Char} (h : IsWritten c) : c ≠ '&' := by
  rintro rfl
  rcases h with h | h | h | h <;> exact absurd h (by decide)

lemma ne_equals {c : Char} (h : IsWritten c) : c ≠ '=' := by
  rintro rfl
  rcases h with h | h | h | h <;> exact absurd h (by decide)

end IsWritten

/-- A text of characters that the parts of a request are written with. -/
def Written (t : Text) : Prop :=
  ∀ c ∈ t, IsWritten c

namespace Written

lemma solid {t : Text} (h : Written t) : Solid t :=
  fun c hc => (h c hc).isBlank

lemma not_mem_ampersand {t : Text} (h : Written t) : '&' ∉ t :=
  fun hmem => (h _ hmem).ne_ampersand rfl

lemma not_mem_equals {t : Text} (h : Written t) : '=' ∉ t :=
  fun hmem => (h _ hmem).ne_equals rfl

lemma of_isKept {t : Text} (h : ∀ c ∈ t, Percent.isKept c = true) : Written t :=
  fun c hc => Or.inl (h c hc)

lemma encode (t : Text) : Written (Percent.encode t) := by
  intro c hc
  rcases Percent.mem_encode hc with h | h
  · exact Or.inl h
  · exact Or.inr (Or.inl h)

lemma colon {s t : Text} (hs : Written s) (ht : Written t) : Written (s ++ ':' :: t) := by
  intro c hc
  rcases List.mem_append.1 hc with hc | hc
  · exact hs c hc
  · rcases List.mem_cons.1 hc with rfl | hc
    · exact Or.inr (Or.inr (Or.inl rfl))
    · exact ht c hc

lemma commas {parts : List Text} (h : ∀ p ∈ parts, Written p) : Written (joined "," parts) := by
  refine forall_mem_joined ?_ h
  intro c hc
  have hcomma : c = ',' := by simpa using hc
  exact Or.inr (Or.inr (Or.inr hcomma))

end Written

/-- What a kept character is not, a text of kept characters does not hold. -/
lemma not_mem_of_isKept {t : Text} (h : ∀ c ∈ t, Percent.isKept c = true) {x : Char}
    (hx : Percent.isKept x = false) : x ∉ t := by
  intro hmem
  simp [h x hmem] at hx

/-! ### Filters -/

namespace Comparison

lemma isKept_of_mem_word (c : Comparison) : ∀ x ∈ c.word, Percent.isKept x = true := by
  rw [← List.all_eq_true]
  cases c <;> decide

lemma word_ne_nil (c : Comparison) : c.word ≠ [] := by
  cases c <;> decide

@[simp] lemma read_word (c : Comparison) : read c.word = .ok c := by
  rw [read, ofWord?_word]

end Comparison

namespace Filter

/-- The values of a filter are read back, if there are any. -/
lemma readValues_joined {values : List Text} (hne : values ≠ []) :
    readValues (joined "," (values.map Percent.encode)) = values := by
  have hcut : (joined "," (values.map Percent.encode)).splitOn ','
      = values.map Percent.encode := by
    refine splitOn_joined (by simpa using hne) ?_
    intro p hp
    obtain ⟨v, -, rfl⟩ := List.mem_map.1 hp
    exact Percent.not_mem_encode (by decide) (by decide) v
  rw [readValues, hcut, List.map_map]
  refine (List.map_congr_left fun v _ => ?_).trans (List.map_id values)
  rw [Function.comp_apply, (Written.encode v).solid.trimmed.trim_eq, Percent.decode_encode, id]

lemma colon_not_mem_joined (values : List Text) :
    ':' ∉ joined "," (values.map Percent.encode) := by
  intro hmem
  refine forall_mem_joined (P := fun c => c ≠ ':') ?_ ?_ _ hmem rfl
  · simp
  · intro p hp c hc hcolon
    obtain ⟨v, -, rfl⟩ := List.mem_map.1 hp
    exact Percent.not_mem_encode (by decide) (by decide) v (hcolon ▸ hc)

lemma written_text (f : Filter) : Written f.text := by
  refine (Written.of_isKept f.comparison.isKept_of_mem_word).colon (Written.commas ?_)
  intro p hp
  obtain ⟨v, -, rfl⟩ := List.mem_map.1 hp
  exact Written.encode v

lemma text_ne_nil (f : Filter) : f.text ≠ [] := by
  simp [text]

lemma colon_mem_text (f : Filter) : ':' ∈ f.text := by
  simp [text]

/-- **A filter is read back**, if it has values and none of them is blank. -/
lemma read_text {f : Filter} (hne : f.values ≠ []) (hsolid : ∀ v ∈ f.values, blank v = false) :
    read f.text = .ok f := by
  have hword : Solid f.comparison.word :=
    (Written.of_isKept f.comparison.isKept_of_mem_word).solid
  have hcut : (trim f.text).splitOn ':'
      = [f.comparison.word, joined "," (f.values.map Percent.encode)] := by
    rw [f.written_text.solid.trimmed.trim_eq, splitOn_eq_pair_iff]
    exact ⟨rfl, not_mem_of_isKept f.comparison.isKept_of_mem_word (by decide),
      colon_not_mem_joined f.values⟩
  have hof : of f.comparison f.values = f := Filters.of_eq_self hsolid
  rw [read, hcut]
  simp only [hword.blank_eq_false f.comparison.word_ne_nil, Bool.false_eq_true, if_false]
  rw [hword.trimmed.trim_eq, Comparison.read_word, readValues_joined hne]
  simp only [Except.map, hof]

end Filter

/-! ### Orders -/

namespace Direction

lemma isKept_of_mem_word (d : Direction) : ∀ x ∈ d.word, Percent.isKept x = true := by
  rw [← List.all_eq_true]
  cases d <;> decide

lemma word_ne_nil (d : Direction) : d.word ≠ [] := by
  cases d <;> decide

@[simp] lemma read_word (d : Direction) : read d.word = .ok d := by
  rw [read, ofWord?_word]

end Direction

namespace Sorting

/-- An item of an order as it is written. -/
def itemText (e : Text × Direction) : Text :=
  Percent.encode e.1 ++ ':' :: e.2.word

/-- The entries of an order that are written: those with a name that is not blank. -/
def named (m : Sorting) : List (Text × Direction) :=
  m.entries.filter fun e => !blank e.1

/-- Entries of an order as they are written, blank names among them. -/
def itemsText (entries : List (Text × Direction)) : Text :=
  joined "," (entries.map itemText)

lemma text_eq (m : Sorting) : text m = itemsText (named m) := rfl

lemma written_itemText (e : Text × Direction) : Written (itemText e) :=
  (Written.encode e.1).colon (Written.of_isKept e.2.isKept_of_mem_word)

lemma itemText_ne_nil (e : Text × Direction) : itemText e ≠ [] := by
  simp [itemText]

lemma comma_not_mem_itemText (e : Text × Direction) : ',' ∉ itemText e := by
  rw [itemText, List.mem_append, List.mem_cons]
  rintro (h | h | h)
  · exact Percent.not_mem_encode (by decide) (by decide) e.1 h
  · exact absurd h (by decide)
  · exact not_mem_of_isKept e.2.isKept_of_mem_word (by decide) h

lemma readItem_itemText {e : Text × Direction} (hne : e.1 ≠ []) :
    readItem (itemText e) = .ok e := by
  have hcut : ((trim (itemText e)).splitOn ':').map trim = [Percent.encode e.1, e.2.word] := by
    have hparts : (itemText e).splitOn ':' = [Percent.encode e.1, e.2.word] := by
      rw [splitOn_eq_pair_iff]
      exact ⟨rfl, Percent.not_mem_encode (by decide) (by decide) e.1,
        not_mem_of_isKept e.2.isKept_of_mem_word (by decide)⟩
    have hword : Solid e.2.word := (Written.of_isKept e.2.isKept_of_mem_word).solid
    rw [(written_itemText e).solid.trimmed.trim_eq, hparts, List.map_cons, List.map_cons,
      List.map_nil, (Written.encode e.1).solid.trimmed.trim_eq, hword.trimmed.trim_eq]
  have hparts : ((Percent.encode e.1).isEmpty || e.2.word.isEmpty) = false := by
    simp [hne, e.2.word_ne_nil]
  rw [readItem, hcut]
  simp only [hparts, Bool.false_eq_true, if_false, Direction.read_word, Except.map,
    Percent.decode_encode]

lemma items_itemsText {entries : List (Text × Direction)} (hne : entries ≠ []) :
    items (itemsText entries) = entries.map itemText := by
  have hcut : (itemsText entries).splitOn ',' = entries.map itemText := by
    refine splitOn_joined (by simpa using hne) ?_
    intro p hp
    obtain ⟨e, -, rfl⟩ := List.mem_map.1 hp
    exact comma_not_mem_itemText e
  have htrim : (entries.map itemText).map trim = entries.map itemText := by
    rw [List.map_map]
    exact List.map_congr_left fun e _ => (written_itemText e).solid.trimmed.trim_eq
  rw [items, hcut, htrim, List.filter_eq_self]
  intro p hp
  obtain ⟨e, -, rfl⟩ := List.mem_map.1 hp
  simp [itemText_ne_nil]

lemma itemsText_eq_nil_iff {entries : List (Text × Direction)} :
    itemsText entries = [] ↔ entries = [] := by
  rw [itemsText, joined_eq_nil_iff, List.map_eq_nil_iff]
  intro p hp
  obtain ⟨e, -, rfl⟩ := List.mem_map.1 hp
  exact itemText_ne_nil e

lemma written_itemsText (entries : List (Text × Direction)) : Written (itemsText entries) := by
  refine Written.commas ?_
  intro p hp
  obtain ⟨e, -, rfl⟩ := List.mem_map.1 hp
  exact written_itemText e

lemma colon_mem_itemsText {entries : List (Text × Direction)} (hne : entries ≠ []) :
    ':' ∈ itemsText entries := by
  obtain ⟨e, rest, rfl⟩ := List.exists_cons_of_ne_nil hne
  have hitem : ':' ∈ itemText e := by simp [itemText]
  rw [itemsText, List.map_cons]
  rcases eq_or_ne rest [] with rfl | hrest
  · simpa using hitem
  · rw [joined_cons (by simpa using hrest)]
    simp [hitem]

/-- **An order is read back**, if no name is empty and none occurs twice. -/
lemma read_itemsText {entries : List (Text × Direction)} (hne : entries ≠ [])
    (hnodup : (entries.map Prod.fst).Nodup) (hnames : ∀ e ∈ entries, e.1 ≠ []) :
    read (itemsText entries) = .ok ⟨entries⟩ := by
  have hitems : (entries.map itemText).mapM readItem = .ok entries :=
    mapM_map_ok fun e he => readItem_itemText (hnames e he)
  rw [read, items_itemsText hne, hitems]
  simp only [Except.map, Fields.ofList_of_nodup hnodup]

lemma nodup_named {m : Sorting} (h : m.names.Nodup) : ((named m).map Prod.fst).Nodup :=
  h.sublist (List.Sublist.map _ List.filter_sublist)

lemma ne_nil_of_mem_named {m : Sorting} {e : Text × Direction} (h : e ∈ named m) : e.1 ≠ [] := by
  intro hnil
  have hblank := (List.mem_filter.1 h).2
  simp [hnil] at hblank

end Sorting

/-! ### Numbers of the page -/

lemma Numeral.written_ofNat (n : Nat) : Written (ofNat n) := by
  refine Written.of_isKept fun c hc => ?_
  simp [Percent.isKept, Char.isAlphanum, isDigit_of_mem_ofNat hc]

end Listing
