import Mathlib
import Listing.Command.Execute
import Listing.Proofs.Request.Latest
import Listing.Proofs.Request.Merging

/-!
# What reading notes

The reader of query strings is lenient in three places: with a number of the page, with an order,
and with a plain value for a field that is already compared in another way.  `Vain` says when a
token asks for something in vain, in terms of its own text and, for a plain value, of what the
tokens before it demand of its field.  Each such token leaves one note, in its turn, and no other
token leaves any: this is `Noted`.  A token that cannot be read leaves none either, and ends the
reading, so the notes are those of the legible tokens.

If nothing is noted, nothing was lost: every order, number of the page and plain value that the
query string has was `Granted` when its turn came.
-/

namespace Listing

open Text

/-- A run of digits for a number in the range of a page. -/
def Token.IsPageNumber (value : Text) : Prop :=
  Numeral.isDigits value = true ∧ Numeral.value value ≤ 2 ^ 63 - 1

/-- The demands of some tokens on one field. -/
def Demand.on (ts : List Text) (key : Text) : List Demand :=
  ((ts.filterMap ofToken?).filter fun e => e.1 = key).map Prod.snd

/-- The tokens that ask for something in vain when they come after others, with the note that each
leaves. -/
inductive Token.Vain (before : List Text) : Text → Note → Prop
  /-- A number of the page that is none. -/
  | page {t value : Text} {key : PageKey} : IsPair t key.word value → ¬IsPageNumber value →
      Vain before t (.defaultedPage key value)
  /-- An order that has a colon, but cannot be read. -/
  | order {t value : Text} {cause : Malformed} : IsPair t "order" value → ':' ∈ value →
      Sorting.read value = .error cause → Vain before t (.ignoredOrder value cause)
  /-- A plain value, not blank, for a field that is to be compared in another way by then. -/
  | value {t key value : Text} {held : Filter} : IsPair t key value → key ∉ Filters.reserved →
      ':' ∉ value → blank (Percent.decode value) = false →
      Demand.Settles (Demand.on before key) (some held) → held.comparison ≠ .equals →
      Vain before t (.discardedValue key (Percent.decode value) held.comparison)

/-- The notes that a list of tokens leaves, one for each token that asks in vain. -/
inductive Noted : List Text → List Note → Prop
  | nil : Noted [] []
  /-- A last token that does not ask in vain adds nothing. -/
  | silent {ts : List Text} {t : Text} {notes : List Note} : Noted ts notes →
      (∀ note, ¬Token.Vain ts t note) → Noted (ts ++ [t]) notes
  /-- A last token that asks in vain adds its note. -/
  | note {ts : List Text} {t : Text} {notes : List Note} {note : Note} : Noted ts notes →
      Token.Vain ts t note → Noted (ts ++ [t]) (notes ++ [note])

/-- What the request is after a token that did not ask in vain, whatever it asked for. -/
structure Token.Granted (t : Text) (r : Request) : Prop where
  /-- A number of the page is one, and is that of the request. -/
  page : ∀ (key : PageKey) (value : Text), IsPair t key.word value →
    IsPageNumber value ∧ r.page key = Numeral.value value
  /-- An order can be read, and is that of the request. -/
  order : ∀ value, IsPair t "order" value → Sorting.read value = .ok r.sorting
  /-- A plain value that is not blank is the last of those that its field has to equal. -/
  value : ∀ key value, IsPair t key value → key ∉ Filters.reserved → ':' ∉ value →
    blank (Percent.decode value) = false →
    ∃ vs, r.filters.get? key = some ⟨.equals, vs ++ [Percent.decode value]⟩

instance : DecidablePred Token.Admissible := fun t =>
  decidable_of_iff ((Token.read t).isOk = true) <| by
    rw [← Token.read_eq_ok_iff]
    cases Token.read t <;> simp [Except.isOk, Except.toBool]

/-- The tokens of a query string up to the first that cannot be read. -/
def Request.legible (search : Text) : List Text :=
  ((queryText search).splitOn '&').takeWhile fun t => Token.Admissible t

/-! ### One token -/

namespace Token

variable {t key value : Text} {token : Token}

lemma pageNumber?_eq_some_iff {n : ℕ} :
    pageNumber? value = some n ↔ IsPageNumber value ∧ n = Numeral.value value := by
  rw [pageNumber?, IsPageNumber, Option.ite_none_right_eq_some, Bool.and_eq_true,
    decide_eq_true_eq, Option.some.injEq, eq_comm (a := n)]
  rfl

lemma eq_order_of_read (hpair : IsPair t "order" value) (h : read t = .ok token) :
    ':' ∈ value ∧ token = .order value := by
  rw [read_of_isPair hpair, readPair_order] at h
  split at h
  · next hcolon => exact ⟨hcolon, (Except.ok.inj h).symm⟩
  · cases h

lemma eq_page_of_read {pageKey : PageKey} (hpair : IsPair t pageKey.word value)
    (h : read t = .ok token) : token = .page pageKey value := by
  rw [read_of_isPair hpair, readPair_page, readPage] at h
  split at h
  · cases h
  · exact (Except.ok.inj h).symm

lemma eq_value_of_read (hpair : IsPair t key value) (hkey : key ∉ Filters.reserved)
    (hcolon : ':' ∉ value) (hb : blank (Percent.decode value) = false) (h : read t = .ok token) :
    token = .value key (Percent.decode value) := by
  have hvalue := read_of_asks (.value hpair hkey hcolon hb)
  exact Except.ok.inj (h.symm.trans hvalue)

end Token

namespace Request

open Token

variable {r : Request} {before : List Text}

/-- The filters after a run of tokens, field by field. -/
lemma settles_readTokens (hamp : ∀ t ∈ before, '&' ∉ t)
    (h : (readTokens {} before).outcome = .ok r) (key : Text) (held : Option Filter) :
    r.filters.get? key = held ↔ Demand.Settles (Demand.on before key) held := by
  have hchanged : r.filters = Fields.changed Demand.answer (before.filterMap Demand.ofToken?) :=
    filters_readTokens readable_empty hamp h
  rw [hchanged, Fields.get?_changed, Demand.settles_iff]
  rfl

/-- **One token** leaves the note that is due after the tokens before it. -/
lemma note?_eq_some_iff (hamp : ∀ t ∈ before, '&' ∉ t)
    (hr : (readTokens {} before).outcome = .ok r) {t : Text} {token : Token}
    (htoken : Token.read t = .ok token) {note : Note} :
    r.note? token = some note ↔ Vain before t note := by
  constructor
  · intro hnote
    cases read_eq_ok_iff_asks.1 htoken with
    | blank | noValue | filter | noFilter | blankValue => cases hnote
    | @order value hpair hcolon =>
      rw [note?] at hnote
      cases hread : Sorting.read value with
      | ok m => simp [hread] at hnote
      | error cause =>
        simp only [hread, Option.some.injEq] at hnote
        exact hnote ▸ .order hpair hcolon hread
    | @page value key hpair hdigits =>
      rw [note?] at hnote
      split at hnote
      · cases hnote
      · next hnumber =>
        rw [Option.isSome_iff_exists] at hnumber
        obtain rfl := Option.some.inj hnote
        exact .page hpair fun hfits => hnumber ⟨_, pageNumber?_eq_some_iff.2 ⟨hfits, rfl⟩⟩
    | @value key value hpair hkey hcolon hb =>
      rw [note?] at hnote
      split at hnote
      · cases hnote
      · next held hget =>
        split at hnote
        · cases hnote
        · next hother =>
          obtain rfl := Option.some.inj hnote
          exact .value hpair hkey hcolon hb ((settles_readTokens hamp hr key _).1 hget) hother
  · intro hvain
    cases hvain with
    | page hpair hnumber =>
      rw [eq_page_of_read hpair htoken, note?, if_neg]
      intro hsome
      obtain ⟨n, hn⟩ := Option.isSome_iff_exists.1 hsome
      exact hnumber (pageNumber?_eq_some_iff.1 hn).1
    | order hpair hcolon hread =>
      rw [(eq_order_of_read hpair htoken).2, note?, hread]
    | value hpair hkey hcolon hb hsettles hother =>
      rw [eq_value_of_read hpair hkey hcolon hb htoken, note?,
        (settles_readTokens hamp hr _ _).2 hsettles]
      exact if_neg hother

/-- **One token** that leaves no note is granted. -/
lemma granted_of_note?_eq_none (h : r.Readable) {t : Text} {token : Token}
    (htoken : Token.read t = .ok token) (hnote : r.note? token = none) :
    Granted t (r.apply token) where
  page key value hpair := by
    obtain rfl := eq_page_of_read hpair htoken
    rw [note?] at hnote
    split at hnote
    · next hsome =>
      obtain ⟨n, hn⟩ := Option.isSome_iff_exists.1 hsome
      obtain ⟨hnumber, rfl⟩ := pageNumber?_eq_some_iff.1 hn
      refine ⟨hnumber, ?_⟩
      rw [apply, hn]
      cases key <;> rfl
    · cases hnote
  order value hpair := by
    obtain ⟨-, rfl⟩ := eq_order_of_read hpair htoken
    rw [note?] at hnote
    cases hread : Sorting.read value with
    | ok m => simp [apply, hread]
    | error cause => simp [hread] at hnote
  value key value hpair hkey hcolon hb := by
    obtain rfl := eq_value_of_read hpair hkey hcolon hb htoken
    rw [apply, filters_addValue h key hb, answered, Fields.get?_set, if_pos rfl]
    rw [note?] at hnote
    split at hnote
    · next hget => exact ⟨[], by simp [hget, Demand.answer]⟩
    · next held hget =>
      split at hnote
      · next hequals => exact ⟨held.values, by simp [hget, Demand.answer, hequals]⟩
      · cases hnote

/-! ### Runs of tokens -/

/-- Tokens that are read in two goes: the notes of the second come after those of the first. -/
lemma readTokens_append_of_ok {ts : List Text} {r' : Request}
    (h : (readTokens r ts).outcome = .ok r') (us : List Text) :
    readTokens r (ts ++ us) =
      ⟨(readTokens r ts).notes ++ (readTokens r' us).notes, (readTokens r' us).outcome⟩ := by
  induction ts generalizing r with
  | nil =>
    obtain rfl := Except.ok.inj h
    rfl
  | cons t ts ih =>
    rw [readTokens] at h
    rw [List.cons_append, readTokens, readTokens]
    cases hread : Token.read t with
    | error fault => simp [hread] at h
    | ok token =>
      simp only [hread] at h
      simp only [ih h, List.append_assoc]

/-- One more token adds its note. -/
lemma readTokens_concat {ts : List Text} {r' : Request} (h : (readTokens r ts).outcome = .ok r')
    {t : Text} {token : Token} (htoken : Token.read t = .ok token) :
    readTokens r (ts ++ [t]) =
      ⟨(readTokens r ts).notes ++ (r'.note? token).toList, .ok (r'.apply token)⟩ := by
  rw [readTokens_append_of_ok h]
  simp [readTokens, htoken]

/-- A token that cannot be read ends the reading and leaves no note. -/
lemma readTokens_append_of_faulty {ts after : List Text} {t : Text} {fault : Fault} {r' : Request}
    (h : (readTokens r ts).outcome = .ok r') (hfault : Faulty t fault) :
    readTokens r (ts ++ t :: after) = ⟨(readTokens r ts).notes, .error fault⟩ := by
  rw [readTokens_append_of_ok h]
  simp [readTokens, read_of_faulty hfault]

end Request

namespace Noted

lemma nil_iff {notes : List Note} : Noted [] notes ↔ notes = [] := by
  constructor
  · intro h
    generalize hts : [] = ts at h
    cases h with
    | nil => rfl
    | silent | note => simp at hts
  · rintro rfl
    exact .nil

lemma concat_iff {ts : List Text} {t : Text} {notes : List Note} :
    Noted (ts ++ [t]) notes ↔
      (Noted ts notes ∧ ∀ note, ¬Token.Vain ts t note) ∨
        ∃ notes' note, Noted ts notes' ∧ Token.Vain ts t note ∧ notes = notes' ++ [note] := by
  constructor
  · intro h
    generalize hus : ts ++ [t] = us at h
    cases h with
    | nil => simp at hus
    | silent hnoted hnone =>
      obtain ⟨rfl, rfl⟩ := List.concat_inj.1 (by simpa using hus)
      exact Or.inl ⟨hnoted, hnone⟩
    | note hnoted hvain =>
      obtain ⟨rfl, rfl⟩ := List.concat_inj.1 (by simpa using hus)
      exact Or.inr ⟨_, _, hnoted, hvain, rfl⟩
  · rintro (⟨hnoted, hnone⟩ | ⟨notes', note, hnoted, hvain, rfl⟩)
    · exact hnoted.silent hnone
    · exact hnoted.note hvain

end Noted

namespace Request

open Token

/-- **A run of tokens**, each of which can be read, leaves the notes that are due. -/
lemma notes_readTokens_iff {ts : List Text} (hamp : ∀ t ∈ ts, '&' ∉ t)
    (hlegible : ∀ t ∈ ts, Admissible t) {notes : List Note} :
    (readTokens {} ts).notes = notes ↔ Noted ts notes := by
  -- from the end, since the tokens before a token decide whether it asks in vain
  induction ts using List.reverseRecOn generalizing notes with
  | nil =>
    rw [Noted.nil_iff, eq_comm]
    rfl
  | append_singleton ts t ih =>
    simp only [List.forall_mem_append, List.forall_mem_singleton] at hamp hlegible
    obtain ⟨r, hr⟩ := readTokens_eq_ok_iff.2 hlegible.1
    obtain ⟨token, htoken⟩ := read_eq_ok_iff.2 hlegible.2
    have hvain (note : Note) : r.note? token = some note ↔ Vain ts t note :=
      note?_eq_some_iff hamp.1 hr htoken
    rw [readTokens_concat hr htoken, Noted.concat_iff]
    cases hnote : r.note? token with
    | none =>
      have hnone : ∀ note, ¬Vain ts t note := by simp [← hvain, hnote]
      simp [hnone, ih hamp.1 hlegible.1]
    | some note =>
      simp [← hvain, hnote, ← ih hamp.1 hlegible.1, eq_comm]

/-- Behind the legible tokens nothing stands, or a token that cannot be read. -/
lemma splitOn_eq_legible_append (search : Text) :
    ∃ rest, (queryText search).splitOn '&' = legible search ++ rest ∧
      ∀ t ∈ rest.head?, ¬Admissible t := by
  refine ⟨_, (List.takeWhile_append_dropWhile (p := fun t => decide (Admissible t))).symm, ?_⟩
  intro t ht hadmissible
  have hstop := List.head?_dropWhile_not (fun t => decide (Admissible t))
    ((queryText search).splitOn '&')
  rw [ht] at hstop
  simp [hadmissible] at hstop

lemma admissible_of_mem_legible {search t : Text} (h : t ∈ legible search) : Admissible t := by
  simpa using List.mem_takeWhile_imp h

lemma ampersand_not_mem_of_mem_legible {search t : Text} (h : t ∈ legible search) : '&' ∉ t :=
  ampersand_not_mem_of_mem_splitTokens
    (splitTokens_eq search ▸ List.takeWhile_subset _ h)

/-- The legible tokens are all, or those before the first fault, and leave all the notes. -/
lemma read_of_legible (search : Text) :
    (read search).notes = (readTokens {} (legible search)).notes ∧
      match (read search).outcome with
      | .ok _ => legible search = (queryText search).splitOn '&'
      | .error fault => ∃ t after, (queryText search).splitOn '&' = legible search ++ t :: after ∧
          Faulty t fault := by
  obtain ⟨rest, htokens, hrest⟩ := splitOn_eq_legible_append search
  obtain ⟨r, hr⟩ := readTokens_eq_ok_iff.2 fun t (ht : t ∈ legible search) =>
    admissible_of_mem_legible ht
  rw [read, splitTokens_eq]
  cases rest with
  | nil =>
    rw [List.append_nil] at htokens
    rw [htokens, hr]
    exact ⟨rfl, rfl⟩
  | cons t after =>
    obtain ⟨fault, hfault⟩ := (admissible_or_faulty t).resolve_left (hrest t rfl)
    rw [htokens, readTokens_append_of_faulty hr hfault]
    exact ⟨rfl, t, after, rfl, hfault⟩

/-- Without a note, every token that was read is granted when its turn comes. -/
lemma granted_of_notes_eq_nil {ts before after : List Text} {t : Text}
    (hamp : ∀ t ∈ ts, '&' ∉ t) (hlegible : ∀ t ∈ ts, Admissible t)
    (hnotes : (readTokens {} ts).notes = []) (hts : ts = before ++ t :: after) :
    ∃ r, (readTokens {} (before ++ [t])).outcome = .ok r ∧ Granted t r := by
  subst hts
  simp only [List.forall_mem_append, List.forall_mem_cons] at hamp hlegible
  obtain ⟨r, hr⟩ := readTokens_eq_ok_iff.2 hlegible.1
  obtain ⟨token, htoken⟩ := read_eq_ok_iff.2 hlegible.2.1
  have hnote : r.note? token = none := by
    rw [readTokens_append_of_ok hr, readTokens, htoken] at hnotes
    simp only [List.append_eq_nil_iff, Option.toList_eq_nil_iff] at hnotes
    exact hnotes.2.1
  refine ⟨r.apply token, by rw [readTokens_concat hr htoken], ?_⟩
  exact granted_of_note?_eq_none (readable_empty.readTokens hamp.1 hr) htoken hnote

/-- **What is noted.**  Reading a query string leaves one note for each legible token that asks in
vain, in the order of the tokens, and no other; each is an entry of the log for debugging.  The
legible tokens are all tokens, or if the reading fails those before the one that is at fault.  So if
a query string is read and nothing is noted, everything it asks for was granted. -/
theorem notes_of_read (search : Text) :
    (∀ notes, (read search).notes = notes ↔ Noted (legible search) notes) ∧
      (match (read search).outcome with
        | .ok _ => legible search = (queryText search).splitOn '&'
        | .error fault => ∃ t after,
            (queryText search).splitOn '&' = legible search ++ t :: after ∧ Faulty t fault) ∧
      (Command.readRequest search).logEntries =
        (read search).notes.map (fun note => ⟨.debug, .reading, note.text⟩) ∧
      ((∃ r, (read search).outcome = .ok r) → (Command.readRequest search).logEntries = [] →
        ∀ before t after, (queryText search).splitOn '&' = before ++ t :: after →
          ∃ r, (readTokens {} (before ++ [t])).outcome = .ok r ∧ Granted t r) := by
  obtain ⟨hnotes, hends⟩ := read_of_legible search
  have hlog : (Command.readRequest search).logEntries =
      (read search).notes.map (fun note => ⟨.debug, .reading, note.text⟩) := by
    simp [Command.readRequest, Run.logEntries, List.filterMap_map]
  refine ⟨fun notes => ?_, hends, hlog, ?_⟩
  · rw [hnotes]
    exact notes_readTokens_iff (fun _ => ampersand_not_mem_of_mem_legible)
      fun _ => admissible_of_mem_legible
  · rintro ⟨r, hr⟩ hnone before t after htokens
    rw [hr] at hends
    rw [hlog, List.map_eq_nil_iff, hnotes] at hnone
    exact granted_of_notes_eq_nil (fun _ => ampersand_not_mem_of_mem_legible)
      (fun _ => admissible_of_mem_legible) hnone (hends.trans htokens)

/-- Three tokens that ask in vain among others that do not, and a query string that goes on behind
a token that cannot be read; and one of which nothing is noted. -/
theorem notes_of_read_interleaved :
    Noted (legible "a=contains:x&limit=ten&a=7&b=1&order=a:up,b:asc&b=2&x&offset=no")
        [.defaultedPage .limit "ten", .discardedValue "a" "7" .contains,
          .ignoredOrder "a:up,b:asc" (.direction "up")] ∧
      ∀ before t after, (queryText "?limit=7&a=1&order=b:asc&a=%2B").splitOn '&' =
          before ++ t :: after →
        ∃ r, (readTokens {} (before ++ [t])).outcome = .ok r ∧ Granted t r := by
  refine ⟨((notes_of_read _).1 _).1 (by decide), ?_⟩
  exact (notes_of_read _).2.2.2 ⟨_, rfl⟩ (by decide)

end Request

end Listing
