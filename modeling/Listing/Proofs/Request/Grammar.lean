import Mathlib
import Listing.Request.Reading
import Listing.Proofs.Numeral
import Listing.Proofs.Text.Splitting

/-!
# The grammar of query strings

Which query strings can be read, and why the others cannot, is a matter of their tokens one by one.
`Admissible` says what a token has to look like and `Faulty` what is wrong with one, each in terms
of the text alone.  Every token is one or the other, the reader of tokens agrees with both, and a
query string is read unless it has a faulty token; the first such token decides on the fault.
-/

namespace Listing

open Text

/-! ### Tokens -/

namespace Token

/-- What is asked of the value of a key, both trimmed and the value not empty. -/
structure Suits (key value : Text) : Prop where
  order : key = "order" → ':' ∈ value
  page : key = "limit" ∨ key = "offset" →
    ¬(Numeral.isDigits value = true ∧ 4300 < value.length)
  field : key ∉ Filters.reserved → ':' ∈ value →
    ∃ word values, CutAt ':' value word values ∧ ∃ c : Comparison, trim word = c.word

/-- The tokens that can be read: the blank ones, and the pairs of a key that is not blank and a
value that is blank or suits the key. -/
def Admissible (t : Text) : Prop :=
  blank t = true ∨ ∃ key value, CutAt '=' t key value ∧ blank key = false ∧
    (blank value = false → Suits (trim key) (trim value))

/-- A key and a value, neither of them blank, as trimmed parts of a token. -/
def IsPair (t key value : Text) : Prop :=
  ∃ k v, CutAt '=' t k v ∧ blank k = false ∧ blank v = false ∧ trim k = key ∧ trim v = value

/-- The tokens that cannot be read, and their faults. -/
inductive Faulty : Text → Fault → Prop
  /-- There is not exactly one equals sign. -/
  | equals {t : Text} : blank t = false → t.count '=' ≠ 1 → Faulty t (.malformed (.pair t))
  /-- The key is blank. -/
  | key {t key value : Text} : CutAt '=' t key value → blank key = true →
      Faulty t (.malformed (.pair t))
  /-- An order without a colon. -/
  | order {t value : Text} : IsPair t "order" value → ':' ∉ value →
      Faulty t (.malformed (.sortItem value))
  /-- A number of the page with too many digits. -/
  | page {t key value : Text} : IsPair t key value → key = "limit" ∨ key = "offset" →
      Numeral.isDigits value = true → 4300 < value.length → Faulty t .tooManyDigits
  /-- A filter with more than one colon. -/
  | colons {t key value : Text} : IsPair t key value → key ∉ Filters.reserved →
      1 < value.count ':' → Faulty t (.malformed (.filter value))
  /-- A filter with nothing before its colon. -/
  | word {t key value word values : Text} : IsPair t key value → key ∉ Filters.reserved →
      CutAt ':' value word values → blank word = true → Faulty t (.malformed (.filter value))
  /-- A filter with a word before its colon that is no comparison. -/
  | comparison {t key value word values : Text} : IsPair t key value → key ∉ Filters.reserved →
      CutAt ':' value word values → blank word = false → (∀ c : Comparison, trim word ≠ c.word) →
      Faulty t (.malformed (.comparison (trim word)))

/-! ### The reader, case by case -/

lemma blank_eq_false_of_cutAt {t key value : Text} (h : CutAt '=' t key value) :
    blank t = false := by
  rw [blank_eq_false_iff]
  exact ⟨'=', h.mem, by decide⟩

lemma read_of_blank {t : Text} (h : blank t = true) : read t = .ok .nothing := by
  rw [read, if_pos h]

lemma read_of_count_ne_one {t : Text} (hb : blank t = false) (h : t.count '=' ≠ 1) :
    read t = .error (.malformed (.pair t)) := by
  rw [read, if_neg (by simp [hb])]
  split
  · next key value heq =>
    exact absurd (count_eq_one_iff.2 ⟨key, value, splitOn_eq_pair_iff.1 heq⟩) h
  · rfl

lemma read_of_cutAt {t key value : Text} (h : CutAt '=' t key value) :
    read t =
      if blank key then .error (.malformed (.pair t))
      else if blank value then .ok .nothing
      else readPair (trim key) (trim value) := by
  rw [read, if_neg (by simp [blank_eq_false_of_cutAt h]), splitOn_eq_pair_iff.2 h]

lemma read_of_isPair {t key value : Text} (h : IsPair t key value) :
    read t = readPair key value := by
  obtain ⟨k, v, hcut, hk, hv, rfl, rfl⟩ := h
  rw [read_of_cutAt hcut, if_neg (by simp [hk]), if_neg (by simp [hv])]

/-- Both parts of a pair are trimmed. -/
lemma IsPair.trim_value {t key value : Text} (h : IsPair t key value) : trim value = value := by
  obtain ⟨k, v, -, -, -, -, rfl⟩ := h
  exact trim_trim v

lemma readPair_order (value : Text) :
    readPair "order" value =
      if ':' ∈ value then .ok (.order value) else .error (.malformed (.sortItem value)) := by
  rw [readPair, if_pos rfl]
  simp only [List.contains_eq_mem, decide_eq_true_eq]

lemma readPair_page (key : PageKey) (value : Text) :
    readPair key.word value = readPage key value := by
  cases key with
  | limit => rw [readPair, if_neg (by decide), if_pos rfl]
  | offset => rw [readPair, if_neg (by decide), if_neg (by decide), if_pos rfl]

lemma exists_pageKey {key : Text} (h : key = "limit" ∨ key = "offset") :
    ∃ pageKey : PageKey, key = pageKey.word := by
  rcases h with rfl | rfl
  · exact ⟨.limit, rfl⟩
  · exact ⟨.offset, rfl⟩

lemma readPair_field {key : Text} (h : key ∉ Filters.reserved) (value : Text) :
    readPair key value = readField key value := by
  simp only [Filters.reserved, List.mem_cons, List.not_mem_nil, or_false, not_or] at h
  rw [readPair, if_neg h.1, if_neg (show key ≠ PageKey.limit.word from h.2.1),
    if_neg (show key ≠ PageKey.offset.word from h.2.2)]

lemma readPage_of_length {key : PageKey} {value : Text} (hdigits : Numeral.isDigits value = true)
    (hlength : 4300 < value.length) : readPage key value = .error .tooManyDigits := by
  rw [readPage, hdigits, Numeral.value?_eq_none_iff.2 hlength]
  rfl

lemma readPage_eq_ok {key : PageKey} {value : Text}
    (h : ¬(Numeral.isDigits value = true ∧ 4300 < value.length)) :
    readPage key value = .ok (.page key value) := by
  have hnone : (Numeral.value? value).isNone = true ↔ 4300 < value.length := by
    rw [Option.isNone_iff_eq_none, Numeral.value?_eq_none_iff]
    rfl
  rw [readPage, if_neg]
  rwa [Bool.and_eq_true, hnone]

end Token

namespace Filter

lemma read_of_count_ne_one {t : Text} (ht : trim t = t) (h : t.count ':' ≠ 1) :
    read t = .error (.filter t) := by
  rw [read, ht]
  split
  · next word values heq =>
    exact absurd (count_eq_one_iff.2 ⟨word, values, splitOn_eq_pair_iff.1 heq⟩) h
  · rfl

lemma read_of_cutAt {t word values : Text} (ht : trim t = t) (h : CutAt ':' t word values) :
    read t =
      if blank word then .error (.filter t)
      else (Comparison.read (trim word)).map fun c => of c (readValues values) := by
  rw [read, ht, splitOn_eq_pair_iff.2 h]

end Filter

lemma Comparison.read_eq_error {t : Text} (h : ∀ c : Comparison, t ≠ c.word) :
    read t = .error (.comparison t) := by
  rw [read]
  cases hc : ofWord? t with
  | none => rfl
  | some c => exact absurd (word_of_ofWord? hc) (h c)

namespace Token

lemma readField_of_colon {key value : Text} (h : ':' ∈ value) :
    readField key value =
      match Filter.read value with
      | .error cause => .error (.malformed cause)
      | .ok f => .ok (if f.values.isEmpty then .nothing else .filter key f) := by
  rw [readField]
  exact if_pos (by simpa using h)

lemma readField_of_cutAt {key value word values : Text} {c : Comparison}
    (hvalue : trim value = value) (hcut : CutAt ':' value word values) (hc : trim word = c.word) :
    readField key value =
      .ok (if (Filter.of c (Filter.readValues values)).values.isEmpty then .nothing
        else .filter key (.of c (Filter.readValues values))) := by
  have hword : blank word = false := by
    rw [← blank_trim, hc]
    cases c <;> decide
  rw [readField_of_colon hcut.mem, Filter.read_of_cutAt hvalue hcut, if_neg (by simp [hword]), hc,
    Comparison.read, Comparison.ofWord?_word]
  rfl

lemma readField_of_not_mem {key value : Text} (h : ':' ∉ value) :
    readField key value =
      .ok (if blank (Percent.decode value) then .nothing
        else .value key (Percent.decode value)) := by
  rw [readField, if_neg (by simpa using h)]

/-! ### The reader agrees with both descriptions -/

lemma read_of_faulty {t : Text} {fault : Fault} (h : Faulty t fault) : read t = .error fault := by
  cases h with
  | equals hb hcount => exact read_of_count_ne_one hb hcount
  | key hcut hkey => rw [read_of_cutAt hcut, if_pos hkey]
  | order hpair hcolon => rw [read_of_isPair hpair, readPair_order, if_neg hcolon]
  | page hpair hkey hdigits hlength =>
    obtain ⟨pageKey, rfl⟩ := exists_pageKey hkey
    rw [read_of_isPair hpair, readPair_page, readPage_of_length hdigits hlength]
  | colons hpair hkey hcount =>
    have hcolon := List.count_pos_iff.1 (Nat.lt_trans Nat.zero_lt_one hcount)
    rw [read_of_isPair hpair, readPair_field hkey, readField_of_colon hcolon,
      Filter.read_of_count_ne_one hpair.trim_value (Nat.ne_of_gt hcount)]
  | word hpair hkey hcut hword =>
    rw [read_of_isPair hpair, readPair_field hkey, readField_of_colon hcut.mem,
      Filter.read_of_cutAt hpair.trim_value hcut, if_pos hword]
  | comparison hpair hkey hcut hword hnone =>
    rw [read_of_isPair hpair, readPair_field hkey, readField_of_colon hcut.mem,
      Filter.read_of_cutAt hpair.trim_value hcut, if_neg (by simp [hword]),
      Comparison.read_eq_error hnone]
    rfl

lemma readPair_of_suits {key value : Text} (hvalue : trim value = value) (h : Suits key value) :
    ∃ token, readPair key value = .ok token := by
  by_cases hreserved : key ∈ Filters.reserved
  · simp only [Filters.reserved, List.mem_cons, List.not_mem_nil, or_false] at hreserved
    rcases hreserved with rfl | hpage
    · exact ⟨_, by rw [readPair_order, if_pos (h.order rfl)]⟩
    · obtain ⟨pageKey, rfl⟩ := exists_pageKey hpage
      exact ⟨_, by rw [readPair_page, readPage_eq_ok (h.page hpage)]⟩
  · rw [readPair_field hreserved]
    by_cases hcolon : ':' ∈ value
    · obtain ⟨word, values, hcut, c, hc⟩ := h.field hreserved hcolon
      exact ⟨_, readField_of_cutAt hvalue hcut hc⟩
    · exact ⟨_, readField_of_not_mem hcolon⟩

lemma read_of_admissible {t : Text} (h : Admissible t) : ∃ token, read t = .ok token := by
  rcases h with hb | ⟨key, value, hcut, hkey, hsuits⟩
  · exact ⟨_, read_of_blank hb⟩
  · rw [read_of_cutAt hcut, if_neg (by simp [hkey])]
    by_cases hvalue : blank value = true
    · rw [if_pos hvalue]
      exact ⟨_, rfl⟩
    · rw [if_neg hvalue]
      exact readPair_of_suits (trim_trim value) (hsuits (by simpa using hvalue))

/-- A pair whose value does not suit its key is faulty. -/
lemma faulty_of_not_suits {t key value : Text} (hpair : IsPair t key value)
    (h : ¬Suits key value) : ∃ fault, Faulty t fault := by
  by_contra hnone
  have hno : ∀ fault, ¬Faulty t fault := fun fault hf => hnone ⟨fault, hf⟩
  refine h ⟨?_, ?_, ?_⟩
  · rintro rfl
    by_contra hcolon
    exact hno _ (.order hpair hcolon)
  · rintro hkey ⟨hdigits, hlength⟩
    exact hno _ (.page hpair hkey hdigits hlength)
  · intro hkey hcolon
    have hpos := List.count_pos_iff.2 hcolon
    have hone : value.count ':' = 1 := by
      by_contra hne
      exact hno _ (.colons hpair hkey (by omega))
    obtain ⟨word, values, hcut⟩ := count_eq_one_iff.1 hone
    refine ⟨word, values, hcut, ?_⟩
    by_contra hword
    by_cases hb : blank word = true
    · exact hno _ (.word hpair hkey hcut hb)
    · exact hno _ (.comparison hpair hkey hcut (by simpa using hb)
        fun c hc => hword ⟨c, hc⟩)

/-- Every token can be read or has a fault. -/
lemma admissible_or_faulty (t : Text) : Admissible t ∨ ∃ fault, Faulty t fault := by
  by_cases hb : blank t = true
  · exact Or.inl (Or.inl hb)
  by_cases hcount : t.count '=' = 1
  · obtain ⟨key, value, hcut⟩ := count_eq_one_iff.1 hcount
    by_cases hkey : blank key = true
    · exact Or.inr ⟨_, .key hcut hkey⟩
    rw [Bool.not_eq_true] at hkey
    by_cases hsuits : blank value = false → Suits (trim key) (trim value)
    · exact Or.inl (Or.inr ⟨key, value, hcut, hkey, hsuits⟩)
    · rw [Classical.not_imp] at hsuits
      obtain ⟨hvalue, hsuits⟩ := hsuits
      exact Or.inr (faulty_of_not_suits ⟨key, value, hcut, hkey, hvalue, rfl, rfl⟩ hsuits)
  · exact Or.inr ⟨_, .equals (by simpa using hb) hcount⟩

lemma read_eq_ok_iff {t : Text} : (∃ token, read t = .ok token) ↔ Admissible t := by
  refine ⟨fun ⟨token, h⟩ => ?_, read_of_admissible⟩
  rcases admissible_or_faulty t with ht | ⟨fault, hf⟩
  · exact ht
  · rw [read_of_faulty hf] at h
    cases h

lemma read_eq_error_iff {t : Text} {fault : Fault} : read t = .error fault ↔ Faulty t fault := by
  refine ⟨fun h => ?_, read_of_faulty⟩
  rcases admissible_or_faulty t with ht | ⟨fault', hf⟩
  · obtain ⟨token, htoken⟩ := read_of_admissible ht
    rw [h] at htoken
    cases htoken
  · rw [read_of_faulty hf] at h
    cases h
    exact hf

end Token

/-! ### Query strings -/

namespace Request

open Token

/-- The text of which the tokens are cut: trimmed, without one leading question mark, and trimmed
again. -/
def queryText (search : Text) : Text :=
  trim (if (trim search).head? = some '?' then (trim search).tail else trim search)

lemma splitTokens_eq (search : Text) : splitTokens search = (queryText search).splitOn '&' := by
  rw [splitTokens, queryText]
  cases h : trim search with
  | nil => rfl
  | cons c rest =>
    by_cases hc : c = '?'
    · subst hc
      simp
    · have htrim : trim (c :: rest) = c :: rest := by rw [← h, trim_trim]
      rw [if_neg (by simpa using hc), htrim]
      split
      · next heq => exact absurd (List.cons.inj heq).1 hc
      · rfl

/-- Tokens are read one after the other as long as each can be read. -/
lemma readTokens_eq_ok_iff {r : Request} {ts : List Text} :
    (∃ r', (readTokens r ts).outcome = .ok r') ↔ ∀ t ∈ ts, Admissible t := by
  induction ts generalizing r with
  | nil => simp [readTokens]
  | cons t ts ih =>
    rw [List.forall_mem_cons, ← read_eq_ok_iff, readTokens]
    cases h : Token.read t with
    | error fault => simp
    | ok token => simpa using ih

/-- Tokens can be read in two goes. -/
lemma readTokens_append (r : Request) (ts us : List Text) :
    (readTokens r (ts ++ us)).outcome =
      (readTokens r ts).outcome >>= fun r' => (readTokens r' us).outcome := by
  induction ts generalizing r with
  | nil => rfl
  | cons t ts ih =>
    rw [List.cons_append, readTokens, readTokens]
    cases Token.read t with
    | error fault => rfl
    | ok token => exact ih (r.apply token)

lemma readTokens_eq_error_iff {r : Request} {ts : List Text} {fault : Fault} :
    (readTokens r ts).outcome = .error fault ↔
      ∃ before t after, ts = before ++ t :: after ∧ (∀ s ∈ before, Admissible s) ∧
        Faulty t fault := by
  induction ts generalizing r with
  | nil => simp [readTokens]
  | cons t ts ih =>
    rw [readTokens]
    cases h : Token.read t with
    | error fault' =>
      simp only [Except.error.injEq]
      constructor
      · rintro rfl
        exact ⟨[], t, ts, rfl, by simp, read_eq_error_iff.1 h⟩
      · rintro ⟨before, t', after, heq, hbefore, hfaulty⟩
        cases before with
        | nil =>
          obtain ⟨rfl, rfl⟩ := List.cons.inj heq
          rw [← read_eq_error_iff, h] at hfaulty
          exact Except.error.inj hfaulty
        | cons s before =>
          obtain ⟨rfl, -⟩ := List.cons.inj heq
          obtain ⟨token, htoken⟩ := read_eq_ok_iff.2 (hbefore t (by simp))
          rw [h] at htoken
          cases htoken
    | ok token =>
      simp only
      rw [ih]
      have ht : Admissible t := read_eq_ok_iff.1 ⟨token, h⟩
      constructor
      · rintro ⟨before, t', after, rfl, hbefore, hfaulty⟩
        exact ⟨t :: before, t', after, rfl, List.forall_mem_cons.2 ⟨ht, hbefore⟩, hfaulty⟩
      · rintro ⟨before, t', after, heq, hbefore, hfaulty⟩
        cases before with
        | nil =>
          obtain ⟨rfl, -⟩ := List.cons.inj heq
          rw [← read_eq_error_iff, h] at hfaulty
          cases hfaulty
        | cons s before =>
          obtain ⟨rfl, rfl⟩ := List.cons.inj heq
          exact ⟨before, t', after, rfl, (List.forall_mem_cons.1 hbefore).2, hfaulty⟩

/-- **The grammar of query strings.**  A query string can be read exactly if each of its tokens can,
and otherwise the fault is that of the first token that cannot. -/
theorem read_outcome_iff (search : Text) :
    ((∃ r, (read search).outcome = .ok r) ↔
        ∀ t ∈ (queryText search).splitOn '&', Admissible t) ∧
      ∀ fault, (read search).outcome = .error fault ↔
        ∃ before t after, (queryText search).splitOn '&' = before ++ t :: after ∧
          (∀ s ∈ before, Admissible s) ∧ Faulty t fault := by
  rw [← splitTokens_eq, read]
  exact ⟨readTokens_eq_ok_iff, fun fault => readTokens_eq_error_iff⟩

end Request

end Listing
