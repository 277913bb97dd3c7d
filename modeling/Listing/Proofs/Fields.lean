import Mathlib
import Listing.Fields

/-!
# Writing names

A map that is written name by name has every name once, and writing names that are all different
lists them in the order in which they were written.  Where names are written again, each stands
where it was written first, and holds what the writes of this name alone make of it.  Of a map with
distinct names nothing but the order is left open by what the names hold.

By a list of names a map is split in two, the entries with these names and the rest, and it does
not matter in how many goes and in which order names are kept and dropped.

What a map is to hold is said by a log of the pairs that were written: `Holds` asks for the names of
the log, each once and in the order in which they come up in the log for the first time, and for
each name what the last pair with this name has.
-/

namespace Listing.Fields

variable {α : Type}

lemma put_of_not_mem {name : Text} {entries : List (Text × α)} (h : name ∉ entries.map Prod.fst)
    (value : α) : put name value entries = entries ++ [(name, value)] := by
  induction entries with
  | nil => rfl
  | cons e rest ih =>
    rw [List.map_cons, List.mem_cons, not_or] at h
    rw [put, if_neg (Ne.symm h.1), ih h.2, List.cons_append]

lemma set_of_not_mem {m : Fields α} {name : Text} (h : name ∉ m.names) (value : α) :
    m.set name value = ⟨m.entries ++ [(name, value)]⟩ := by
  rw [set, put_of_not_mem h]

lemma nodup_names_set {m : Fields α} (h : m.names.Nodup) (name : Text) (value : α) :
    (m.set name value).names.Nodup := by
  rw [names_set]
  split
  · exact h
  · next hnew =>
    rw [← List.concat_eq_append]
    exact List.Nodup.concat hnew h

lemma nodup_names_concat {entries : List (Text × α)} {e : Text × α} :
    (⟨entries ++ [e]⟩ : Fields α).names.Nodup ↔
      (⟨entries⟩ : Fields α).names.Nodup ∧ e.1 ∉ (⟨entries⟩ : Fields α).names := by
  rw [names, names, List.map_append, List.map_singleton, ← List.concat_eq_append,
    List.nodup_concat, and_comm]

/-- What a write leaves behind: its own entry, and entries that were there before. -/
lemma mem_set {m : Fields α} {name : Text} {value : α} {e : Text × α}
    (h : e ∈ (m.set name value).entries) : e = (name, value) ∨ e ∈ m.entries := by
  obtain ⟨entries⟩ := m
  simp only [set] at h ⊢
  induction entries with
  | nil => exact Or.inl (by simpa [put] using h)
  | cons e' rest ih =>
    rw [put] at h
    split at h
    · rcases List.mem_cons.1 h with h | h
      · exact Or.inl h
      · exact Or.inr (List.mem_cons_of_mem _ h)
    · rcases List.mem_cons.1 h with rfl | h
      · exact Or.inr (by simp)
      · rcases ih h with h | h
        · exact Or.inl h
        · exact Or.inr (List.mem_cons_of_mem _ h)

/-- Writing new names, all different, puts them after the entries that are there. -/
lemma foldl_set_of_nodup {pairs : List (Text × α)} {m : Fields α}
    (h : (m.names ++ pairs.map Prod.fst).Nodup) :
    pairs.foldl (fun m e => m.set e.1 e.2) m = ⟨m.entries ++ pairs⟩ := by
  induction pairs generalizing m with
  | nil => simp
  | cons e rest ih =>
    have hnew : e.1 ∉ m.names := by
      intro hmem
      exact (List.nodup_append.1 h).2.2 e.1 hmem e.1 (by simp) rfl
    rw [List.foldl_cons, set_of_not_mem hnew, ih]
    · simp
    · simpa [names] using h

/-- **Distinct names are listed as they were written.** -/
lemma ofList_of_nodup {pairs : List (Text × α)} (h : (pairs.map Prod.fst).Nodup) :
    ofList pairs = ⟨pairs⟩ := by
  rw [ofList, foldl_set_of_nodup (by simpa [names, empty] using h)]
  rfl

/-! ### Writing names again -/

/-- A write of what the name holds already changes nothing. -/
lemma set_of_get? {m : Fields α} {name : Text} {value : α} (h : m.get? name = some value) :
    m.set name value = m := by
  obtain ⟨entries⟩ := m
  simp only [set, get?, Fields.mk.injEq] at h ⊢
  induction entries with
  | nil => simp at h
  | cons e rest ih =>
    by_cases he : e.1 = name
    · have hvalue : e.2 = value := by simpa [he] using h
      rw [put, if_pos he, ← he, ← hvalue]
    · rw [put, if_neg he, ih (by simpa [he] using h)]

/-- Of two writes of one name the second one counts. -/
lemma set_set (m : Fields α) (name : Text) (value value' : α) :
    (m.set name value).set name value' = m.set name value' := by
  obtain ⟨entries⟩ := m
  simp only [set, Fields.mk.injEq]
  induction entries with
  | nil => simp [put]
  | cons e rest ih =>
    by_cases he : e.1 = name
    · simp [put, he]
    · simp [put, he, ih]

lemma mem_of_get? {m : Fields α} {name : Text} {value : α} (h : m.get? name = some value) :
    (name, value) ∈ m.entries := by
  obtain ⟨e, he, rfl⟩ := Option.map_eq_some_iff.1 h
  have hname : e.1 = name := by simpa using List.find?_some he
  exact hname ▸ List.mem_of_find?_eq_some he

lemma nodup_names_foldl_set {m : Fields α} (h : m.names.Nodup) (pairs : List (Text × α)) :
    (pairs.foldl (fun m e => m.set e.1 e.2) m).names.Nodup := by
  induction pairs generalizing m with
  | nil => exact h
  | cons e rest ih => exact ih (nodup_names_set h e.1 e.2)

lemma mem_foldl_set {m : Fields α} {pairs : List (Text × α)} {e : Text × α}
    (h : e ∈ (pairs.foldl (fun m e => m.set e.1 e.2) m).entries) :
    e ∈ m.entries ∨ e ∈ pairs := by
  induction pairs generalizing m with
  | nil => exact Or.inl h
  | cons d rest ih =>
    rcases ih h with h | h
    · rcases mem_set h with rfl | h
      · exact Or.inr (by simp)
      · exact Or.inl h
    · exact Or.inr (List.mem_cons_of_mem _ h)

lemma nodup_names_ofList (pairs : List (Text × α)) : (ofList pairs).names.Nodup := by
  have hempty : (empty : Fields α).names.Nodup := List.nodup_nil
  exact nodup_names_foldl_set hempty pairs

lemma mem_ofList {pairs : List (Text × α)} {e : Text × α} (h : e ∈ (ofList pairs).entries) :
    e ∈ pairs :=
  (mem_foldl_set h).resolve_left (by simp [empty])

/-! ### Changes that depend on what a name holds -/

section Changes

variable {β : Type} (rule : β → Option α → α)

/-- The map after every change of a list in turn, where the rule says what a changed name is to
hold, given what it holds. -/
def changed (changes : List (Text × β)) : Fields α :=
  changes.foldl (fun m e => m.set e.1 (rule e.2 (m.get? e.1))) empty

lemma changed_concat (changes : List (Text × β)) (e : Text × β) :
    changed rule (changes ++ [e])
      = (changed rule changes).set e.1 (rule e.2 ((changed rule changes).get? e.1)) :=
  List.foldl_concat _ _ _ _

/-- **The names** are those that were changed, each once, in the order of their first changes. -/
lemma names_changed (changes : List (Text × β)) :
    (changed rule changes).names = (changes.map Prod.fst).eraseDups := by
  induction changes using List.reverseRecOn with
  | nil => rfl
  | append_singleton changes e ih =>
    rw [changed_concat, names_set, ih, List.map_append, List.eraseDups_append]
    by_cases h : e.1 ∈ changes.map Prod.fst
    · rw [if_pos (List.mem_eraseDups.2 h)]
      simp [List.removeAll, h]
    · rw [if_neg fun hmem => h (List.mem_eraseDups.1 hmem)]
      simp [List.removeAll, h, List.eraseDups_cons]

/-- **What a name holds** depends on the changes of this name alone. -/
lemma get?_changed (changes : List (Text × β)) (name : Text) :
    (changed rule changes).get? name
      = ((changes.filter fun e => e.1 = name).map Prod.snd).foldl
          (fun held b => some (rule b held)) none := by
  induction changes using List.reverseRecOn with
  | nil => rfl
  | append_singleton changes e ih =>
    rw [changed_concat, get?_set, List.filter_append, List.map_append, List.foldl_append, ← ih]
    by_cases h : e.1 = name <;> simp [h]

end Changes

/-! ### Names that are kept and names that are dropped -/

/-- The entries whose name passes a test. -/
def restrict (m : Fields α) (p : Text → Bool) : Fields α :=
  ⟨m.entries.filter fun e => p e.1⟩

lemma keep_eq_restrict (m : Fields α) (names : List Text) :
    m.keep names = m.restrict names.contains := rfl

lemma drop_eq_restrict (m : Fields α) (names : List Text) :
    m.drop names = m.restrict fun name => !names.contains name := rfl

lemma restrict_restrict (m : Fields α) (p q : Text → Bool) :
    (m.restrict p).restrict q = m.restrict fun name => p name && q name := by
  rw [restrict, restrict, restrict, List.filter_filter]
  simp only [Bool.and_comm]

lemma nodup_names_restrict {m : Fields α} (h : m.names.Nodup) (p : Text → Bool) :
    (m.restrict p).names.Nodup :=
  h.sublist (List.filter_sublist.map _)

/-- **What is kept in two goes** is what is named both times. -/
lemma keep_keep (m : Fields α) (a b : List Text) : (m.keep a).keep b = m.keep (a ∩ b) := by
  rw [keep_eq_restrict, keep_eq_restrict, keep_eq_restrict, restrict_restrict]
  congr 1
  funext name
  rw [Bool.eq_iff_iff]
  simp

/-- **What is dropped in two goes** is what is named either time. -/
lemma drop_drop (m : Fields α) (a b : List Text) : (m.drop a).drop b = m.drop (a ∪ b) := by
  rw [drop_eq_restrict, drop_eq_restrict, drop_eq_restrict, restrict_restrict]
  congr 1
  funext name
  rw [Bool.eq_iff_iff]
  simp

/-- It is the same which of both is done first. -/
lemma drop_keep (m : Fields α) (a b : List Text) : (m.keep a).drop b = (m.drop b).keep a := by
  rw [keep_eq_restrict, drop_eq_restrict, keep_eq_restrict, drop_eq_restrict, restrict_restrict,
    restrict_restrict]
  simp only [Bool.and_comm]

/-- The two parts of a map that is split by names. -/
structure Split (m : Fields α) (names : List Text) (kept rest : Fields α) : Prop where
  /-- Together they have each entry as often as the map, -/
  perm : (kept.entries ++ rest.entries).Perm m.entries
  /-- both in the order of the map; -/
  kept_sublist : kept.entries.Sublist m.entries
  rest_sublist : rest.entries.Sublist m.entries
  /-- the one has the names, the other the rest. -/
  named : ∀ e ∈ kept.entries, e.1 ∈ names
  unnamed : ∀ e ∈ rest.entries, e.1 ∉ names

lemma split_keep_drop (m : Fields α) (names : List Text) :
    m.Split names (m.keep names) (m.drop names) where
  perm := List.filter_append_perm _ _
  kept_sublist := List.filter_sublist
  rest_sublist := List.filter_sublist
  named e he := by simpa using List.of_mem_filter he
  unnamed e he := by simpa using List.of_mem_filter he

/-! ### What is kept of a single name -/

lemma keep_singleton (m : Fields α) (name : Text) :
    m.keep [name] = ⟨m.entries.filter fun e => e.1 = name⟩ := by
  simp [keep]

/-- Of a write to another name nothing is kept. -/
lemma keep_set_of_ne {m : Fields α} {name other : Text} (h : name ≠ other) (value : α) :
    (m.set name value).keep [other] = m.keep [other] := by
  obtain ⟨entries⟩ := m
  simp only [keep_singleton, set, Fields.mk.injEq]
  induction entries with
  | nil => simp [put, h]
  | cons e rest ih =>
    by_cases he : e.1 = name
    · simp [put, he, h]
    · rw [put, if_neg he, List.filter_cons, List.filter_cons, ih]

/-- A name is written alike whether or not the others are kept. -/
lemma keep_set_self (m : Fields α) (name : Text) (value : α) :
    (m.set name value).keep [name] = (m.keep [name]).set name value := by
  obtain ⟨entries⟩ := m
  simp only [keep_singleton, set, Fields.mk.injEq]
  induction entries with
  | nil => simp [put]
  | cons e rest ih =>
    by_cases he : e.1 = name
    · simp [put, he]
    · rw [put, if_neg he, List.filter_cons_of_neg (by simpa using he),
        List.filter_cons_of_neg (by simpa using he), ih]

lemma get?_keep_self (m : Fields α) (name : Text) : (m.keep [name]).get? name = m.get? name := by
  rw [keep_singleton, get?, get?, List.find?_filter]
  congr 2
  funext e
  by_cases he : e.1 = name <;> simp [he]

/-! ### Maps that hold the same -/

/-- An entry of a map with distinct names is what its name holds. -/
lemma get?_eq_some_iff {m : Fields α} (h : m.names.Nodup) {name : Text} {value : α} :
    m.get? name = some value ↔ (name, value) ∈ m.entries := by
  refine ⟨mem_of_get?, fun hmem => ?_⟩
  obtain ⟨e, he⟩ : ∃ e, m.get? name = some e := by
    rw [get?, ← Option.isSome_iff_exists, Option.isSome_map, List.find?_isSome]
    exact ⟨_, hmem, by simp⟩
  have hinj := List.inj_on_of_nodup_map h (mem_of_get? he) hmem rfl
  rw [he, (Prod.mk.inj hinj).2]

/-- Maps with distinct names that hold the same have the same entries but for their order. -/
lemma perm_of_get?_eq {m m' : Fields α} (h : m.names.Nodup) (h' : m'.names.Nodup)
    (heq : ∀ name, m.get? name = m'.get? name) : m.entries.Perm m'.entries := by
  rw [List.perm_ext_iff_of_nodup (List.Nodup.of_map _ h) (List.Nodup.of_map _ h')]
  rintro ⟨name, value⟩
  rw [← get?_eq_some_iff h, ← get?_eq_some_iff h', heq]

/-! ### What a map holds -/

/-- The pairs that were written, in order. -/
abbrev Log (α : Type) := List (Text × α)

/-- A map that holds what was written. -/
structure Holds (m : Fields α) (log : Log α) : Prop where
  /-- Each name is there once, -/
  nodup : m.names.Nodup
  /-- those that were written and no others, -/
  mem_names_iff : ∀ name, name ∈ m.names ↔ name ∈ log.map Prod.fst
  /-- in the order in which they were written for the first time. -/
  sorted : m.names.Pairwise fun a b => (log.map Prod.fst).idxOf a < (log.map Prod.fst).idxOf b
  /-- A name holds what the last write of this name stored, and nothing without a write. -/
  get?_eq : ∀ name, m.get? name = ((log.filter fun e => e.1 = name).getLast?).map Prod.snd
  /-- The entries are the names, each with what it holds. -/
  entries_eq :
    m.entries.map (fun e => (e.1, some e.2)) = m.names.map fun name => (name, m.get? name)
  size_eq : m.size = m.names.length
  contains_iff : ∀ name, m.contains name = true ↔ name ∈ m.names

lemma holds_empty : (empty : Fields α).Holds [] where
  nodup := List.nodup_nil
  mem_names_iff _ := Iff.rfl
  sorted := List.Pairwise.nil
  get?_eq _ := rfl
  entries_eq := rfl
  size_eq := rfl
  contains_iff name := by simp [contains]

lemma entries_eq_of_nodup {m : Fields α} (h : m.names.Nodup) :
    m.entries.map (fun e => (e.1, some e.2)) = m.names.map fun name => (name, m.get? name) := by
  rw [names, List.map_map, List.map_inj_left]
  intro e he
  rw [Function.comp_apply, (get?_eq_some_iff h).2 he]

/-- **One write** is one more pair of the log. -/
lemma Holds.set {m : Fields α} {log : Log α} (h : m.Holds log) (name : Text) (value : α) :
    (m.set name value).Holds (log ++ [(name, value)]) where
  nodup := nodup_names_set h.nodup name value
  mem_names_iff other := by
    rw [names_set, List.map_append, List.mem_append, ← h.mem_names_iff, List.map_singleton]
    split
    · next hmem =>
      refine ⟨.inl, ?_⟩
      rintro (hother | hother)
      · exact hother
      · rwa [List.mem_singleton.1 hother]
    · exact List.mem_append
  sorted := by
    have hearlier {a : Text} (ha : a ∈ m.names) :
        ((log ++ [(name, value)]).map Prod.fst).idxOf a = (log.map Prod.fst).idxOf a := by
      rw [List.map_append, List.idxOf_append_of_mem ((h.mem_names_iff a).1 ha)]
    have hsorted : m.names.Pairwise fun a b =>
        ((log ++ [(name, value)]).map Prod.fst).idxOf a
          < ((log ++ [(name, value)]).map Prod.fst).idxOf b := by
      refine h.sorted.imp_of_mem fun ha hb hlt => ?_
      rwa [hearlier ha, hearlier hb]
    rw [names_set]
    split
    · exact hsorted
    · next hnew =>
      -- a new name comes up for the first time at the end of the log
      have hnew' : name ∉ log.map Prod.fst := (h.mem_names_iff name).not.1 hnew
      refine List.pairwise_append.2 ⟨hsorted, List.pairwise_singleton _ _, fun a ha b hb => ?_⟩
      rw [List.mem_singleton.1 hb, hearlier ha, List.map_append, List.idxOf_append_of_notMem hnew']
      exact (List.idxOf_lt_length_of_mem ((h.mem_names_iff a).1 ha)).trans_le (Nat.le_add_right _ _)
  get?_eq other := by
    rw [get?_set, List.filter_append]
    by_cases heq : name = other
    · simp [heq]
    · simp [heq, h.get?_eq]
  entries_eq := entries_eq_of_nodup (nodup_names_set h.nodup name value)
  size_eq := (List.length_map _).symm
  contains_iff _ := List.contains_iff_mem

lemma Holds.foldl_set {m : Fields α} {log : Log α} (h : m.Holds log) (pairs : Log α) :
    (pairs.foldl (fun m e => m.set e.1 e.2) m).Holds (log ++ pairs) := by
  induction pairs generalizing m log with
  | nil => simpa using h
  | cons e pairs ih => simpa using ih (h.set e.1 e.2)

lemma holds_ofList (pairs : Log α) : (ofList pairs).Holds pairs :=
  holds_empty.foldl_set pairs

/-- What an entry holds was written. -/
lemma Holds.mem_log {m : Fields α} {log : Log α} (h : m.Holds log) {e : Text × α}
    (he : e ∈ m.entries) : e ∈ log := by
  have hget : m.get? e.1 = some e.2 := (get?_eq_some_iff h.nodup).2 he
  rw [h.get?_eq, Option.map_eq_some_iff] at hget
  obtain ⟨d, hd, hvalue⟩ := hget
  obtain ⟨hmem, hname⟩ := List.mem_filter.1 (List.mem_of_getLast? hd)
  have heq : d = e := Prod.ext (by simpa using hname) hvalue
  exact heq ▸ hmem

end Listing.Fields
