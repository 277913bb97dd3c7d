import Mathlib
import Listing.Double.Reading
import Listing.Proofs.Numeral
import Listing.Proofs.Text.Percent

/-!
# The notation of floating point numbers

A floating point number is written as a word, or as digits with a point and an exponent, in either
case with or without a sign in front.  `Written` is this grammar, put in terms of the text alone.
The reader works through a text from the left and takes digits as long as there are any; since
what may follow the digits never starts with a digit, it accepts the texts of the grammar and no
others.  None of them has a character outside of ASCII, a blank or an underscore in it.
-/

namespace Listing

namespace Decimal

/-- Digits, at least one, without a point or with one before, among or after them. -/
inductive Mantissa : Text → Prop
  | whole {w : Text} : (∀ c ∈ w, c.isDigit = true) → w ≠ [] → Mantissa w
  | point {w f : Text} : (∀ c ∈ w, c.isDigit = true) → (∀ c ∈ f, c.isDigit = true) →
      w ≠ [] ∨ f ≠ [] → Mantissa (w ++ '.' :: f)

/-- Nothing, or a letter, a sign or none, and a run of digits. -/
inductive Exponent : Text → Prop
  | none : Exponent []
  | letter {c : Char} {sign digits : Text} : c = 'e' ∨ c = 'E' → sign ∈ Numeral.signs →
      Numeral.isDigits digits = true → Exponent (c :: (sign ++ digits))

end Decimal

namespace Double

/-- The words for infinity and for what is not a number, in small letters. -/
def words : List Text := ["inf", "infinity", "nan"]

/-- A floating point number, the sign taken off: a word, in any case, or a decimal number. -/
inductive Unsigned : Text → Prop
  | word {t : Text} : t.map Char.toLower ∈ words → Unsigned t
  | decimal {m e : Text} : Decimal.Mantissa m → Decimal.Exponent e → Unsigned (m ++ e)

/-- The texts in the notation of floating point numbers. -/
def Written (t : Text) : Prop :=
  ∃ sign ∈ Numeral.signs, ∃ rest, t = sign ++ rest ∧ Unsigned rest

end Double

namespace Decimal

/-! ### Exponents -/

lemma head?_exponent {e : Text} (h : Exponent e) :
    ∀ c ∈ e.head?, c.isDigit = false ∧ c ≠ '.' := by
  cases h with
  | none => simp
  | letter hc => rcases hc with rfl | rfl <;> simp

lemma exists_readExponent?_iff {e : Text} : (∃ n, readExponent? e = some n) ↔ Exponent e := by
  cases e with
  | nil => exact ⟨fun _ => .none, fun _ => ⟨0, rfl⟩⟩
  | cons c rest =>
    have hsign : (∃ sign ∈ Numeral.signs, ∃ digits, rest = sign ++ digits ∧
        Numeral.isDigits digits = true) ↔ Numeral.isDigits (Numeral.splitSign rest).2 = true :=
      Numeral.exists_sign_append_iff fun _ => Numeral.head?_of_isDigits
    have hread : (∃ n, readExponent? (c :: rest) = some n) ↔
        (c = 'e' ∨ c = 'E') ∧ Numeral.isDigits (Numeral.splitSign rest).2 = true := by
      rw [readExponent?]
      simp
    rw [hread, ← hsign]
    constructor
    · rintro ⟨hc, sign, hmem, digits, rfl, hdigits⟩
      exact .letter hc hmem hdigits
    · intro h
      cases h with
      | letter hc hmem hdigits => exact ⟨hc, _, hmem, _, rfl, hdigits⟩

/-! ### Digits and what follows them -/

lemma spanDigits_append {w rest : Text} (hw : ∀ c ∈ w, c.isDigit = true)
    (hrest : ∀ c ∈ rest.head?, c.isDigit = false) : spanDigits (w ++ rest) = (w, rest) := by
  rw [spanDigits, List.takeWhile_append_of_pos hw, List.dropWhile_append_of_pos hw]
  cases rest with
  | nil => simp
  | cons c rest => simp [hrest c rfl]

lemma exists_digits_append (t : Text) : ∃ w rest, t = w ++ rest ∧
    (∀ c ∈ w, c.isDigit = true) ∧ ∀ c ∈ rest.head?, c.isDigit = false := by
  refine ⟨_, _, List.takeWhile_append_dropWhile.symm, fun c hc => List.mem_takeWhile_imp hc,
    fun c hc => ?_⟩
  have hhead := List.head?_dropWhile_not Char.isDigit t
  rw [Option.mem_def.1 hc] at hhead
  simpa using hhead

/-- There has to be a digit, and an exponent after the digits. -/
lemma exists_ite_eq_some_iff {w f rest : Text} {make : ℤ → Decimal} :
    (∃ d, (if w.isEmpty && f.isEmpty then none else (readExponent? rest).map make) = some d) ↔
      (w ≠ [] ∨ f ≠ []) ∧ Exponent rest := by
  have hempty : (w.isEmpty && f.isEmpty) = true ↔ ¬(w ≠ [] ∨ f ≠ []) := by simp
  rw [← exists_readExponent?_iff]
  split
  · next h => simp [hempty.1 h]
  · next h =>
    rw [hempty, not_not] at h
    simp [h]

/-- Digits around a point are one coefficient, and those after it lower the exponent. -/
lemma readUnsigned?_point (negative : Bool) {w f rest : Text} (hw : ∀ c ∈ w, c.isDigit = true)
    (hf : ∀ c ∈ f, c.isDigit = true) (hrest : ∀ c ∈ rest.head?, c.isDigit = false) :
    readUnsigned? negative (w ++ '.' :: (f ++ rest)) =
      if w.isEmpty && f.isEmpty then none
      else (readExponent? rest).map fun e =>
        ⟨negative, Numeral.value (w ++ f), e - f.length⟩ := by
  rw [readUnsigned?, spanDigits_append hw (by simp)]
  simp only [spanDigits_append hf hrest]

lemma readUnsigned?_whole (negative : Bool) {w rest : Text} (hw : ∀ c ∈ w, c.isDigit = true)
    (hrest : ∀ c ∈ rest.head?, c.isDigit = false ∧ c ≠ '.') :
    readUnsigned? negative (w ++ rest) =
      if w.isEmpty then none
      else (readExponent? rest).map fun e => ⟨negative, Numeral.value w, e⟩ := by
  rw [readUnsigned?, spanDigits_append hw fun c hc => (hrest c hc).1]
  simp only
  split
  · exact absurd rfl (hrest '.' rfl).2
  · simp

lemma exists_readUnsigned?_point_iff {negative : Bool} {w f rest : Text}
    (hw : ∀ c ∈ w, c.isDigit = true) (hf : ∀ c ∈ f, c.isDigit = true)
    (hrest : ∀ c ∈ rest.head?, c.isDigit = false) :
    (∃ d, readUnsigned? negative (w ++ '.' :: (f ++ rest)) = some d) ↔
      (w ≠ [] ∨ f ≠ []) ∧ Exponent rest := by
  rw [readUnsigned?_point negative hw hf hrest]
  exact exists_ite_eq_some_iff

lemma exists_readUnsigned?_whole_iff {negative : Bool} {w rest : Text}
    (hw : ∀ c ∈ w, c.isDigit = true) (hrest : ∀ c ∈ rest.head?, c.isDigit = false ∧ c ≠ '.') :
    (∃ d, readUnsigned? negative (w ++ rest) = some d) ↔ w ≠ [] ∧ Exponent rest := by
  have hnil : (w ≠ [] ∨ ([] : Text) ≠ []) ↔ w ≠ [] := or_iff_left (by simp)
  have hempty : (w.isEmpty && ([] : Text).isEmpty) = w.isEmpty := Bool.and_true _
  rw [readUnsigned?_whole negative hw hrest, ← hnil, ← hempty]
  exact exists_ite_eq_some_iff

/-- **Decimal numbers** are read if they are a mantissa with an exponent. -/
lemma exists_readUnsigned?_iff (negative : Bool) {t : Text} :
    (∃ d, readUnsigned? negative t = some d) ↔ ∃ m e, t = m ++ e ∧ Mantissa m ∧ Exponent e := by
  constructor
  · intro h
    obtain ⟨w, rest, rfl, hw, hrest⟩ := exists_digits_append t
    by_cases hpoint : ∃ after, rest = '.' :: after
    · obtain ⟨after, rfl⟩ := hpoint
      obtain ⟨f, e, rfl, hf, he⟩ := exists_digits_append after
      obtain ⟨hne, hexponent⟩ := (exists_readUnsigned?_point_iff hw hf he).1 h
      exact ⟨w ++ '.' :: f, e, by simp, .point hw hf hne, hexponent⟩
    · have hhead : ∀ c ∈ rest.head?, c.isDigit = false ∧ c ≠ '.' := by
        refine fun c hc => ⟨hrest c hc, ?_⟩
        rintro rfl
        exact hpoint (List.head?_eq_some_iff.1 hc)
      obtain ⟨hne, hexponent⟩ := (exists_readUnsigned?_whole_iff hw hhead).1 h
      exact ⟨w, rest, rfl, .whole hw hne, hexponent⟩
  · rintro ⟨m, e, rfl, hm, he⟩
    have hhead := head?_exponent he
    cases hm with
    | whole hw hne => exact (exists_readUnsigned?_whole_iff hw hhead).2 ⟨hne, he⟩
    | point hw hf hne =>
      rw [List.append_assoc, List.cons_append]
      exact (exists_readUnsigned?_point_iff hw hf fun c hc => (hhead c hc).1).2 ⟨hne, he⟩

end Decimal

namespace Double

/-! ### The characters of a number -/

/-- The words are made of letters. -/
lemma isAlpha_of_word {t : Text} (h : t.map Char.toLower ∈ words) :
    ∀ c ∈ t, c.isAlpha = true := by
  have hlower : ∀ w ∈ words, ∀ c ∈ w, c.isLower = true := by
    simp [words, Char.isLower]
  intro c hc
  rw [← Char.isLower_toLower_eq_isAlpha]
  exact hlower _ h _ (List.mem_map_of_mem hc)

/-- The characters that numbers are written with. -/
def Bare (c : Char) : Prop :=
  c.isAlphanum = true ∨ c = '+' ∨ c = '-' ∨ c = '.'

lemma bare_of_digits {w : Text} (h : ∀ c ∈ w, c.isDigit = true) : ∀ c ∈ w, Bare c :=
  fun c hc => .inl (by simp [Char.isAlphanum, h c hc])

lemma bare_of_sign {sign : Text} (h : sign ∈ Numeral.signs) : ∀ c ∈ sign, Bare c := by
  intro c hc
  rcases Numeral.eq_of_mem_sign h c hc with rfl | rfl
  · exact .inr (.inl rfl)
  · exact .inr (.inr (.inl rfl))

lemma bare_of_mantissa {m : Text} (h : Decimal.Mantissa m) : ∀ c ∈ m, Bare c := by
  cases h with
  | whole hw => exact bare_of_digits hw
  | point hw hf =>
    exact List.forall_mem_append.2 ⟨bare_of_digits hw,
      List.forall_mem_cons.2 ⟨.inr (.inr (.inr rfl)), bare_of_digits hf⟩⟩

lemma bare_of_exponent {e : Text} (h : Decimal.Exponent e) : ∀ c ∈ e, Bare c := by
  cases h with
  | none => simp
  | @letter c sign digits hc hsign hdigits =>
    have hletter : Bare c := .inl (by rcases hc with rfl | rfl <;> decide)
    exact List.forall_mem_cons.2 ⟨hletter, List.forall_mem_append.2
      ⟨bare_of_sign hsign, bare_of_digits (Numeral.isDigits_iff.1 hdigits).2⟩⟩

lemma Written.bare {t : Text} (h : Written t) : ∀ c ∈ t, Bare c := by
  obtain ⟨sign, hsign, rest, rfl, hrest⟩ := h
  refine List.forall_mem_append.2 ⟨bare_of_sign hsign, ?_⟩
  cases hrest with
  | word hword => exact fun c hc => .inl (by simp [Char.isAlphanum, isAlpha_of_word hword c hc])
  | decimal hm he => exact List.forall_mem_append.2 ⟨bare_of_mantissa hm, bare_of_exponent he⟩

/-- Characters of ASCII that are neither blanks nor the underscore. -/
def Plain (c : Char) : Prop :=
  c.toNat < 128 ∧ Text.isBlank c = false ∧ c ≠ '_'

lemma plain_of_bare {c : Char} (h : Bare c) : Plain c := by
  rcases h with h | rfl | rfl | rfl
  · have hkept : Text.Percent.isKept c = true := by simp [Text.Percent.isKept, h]
    have hgraphic := Text.Percent.graphic_of_isKept hkept
    refine ⟨by omega, Text.Percent.isBlank_of_isKept hkept, ?_⟩
    rintro rfl
    exact absurd h (by decide)
  all_goals exact ⟨by decide, by decide, by decide⟩

/-- What is written as a number is plain. -/
lemma Written.plain {t : Text} (h : Written t) : ∀ c ∈ t, Plain c :=
  fun c hc => plain_of_bare (h.bare c hc)

/-! ### Reading -/

lemma Unsigned.head? {t : Text} (h : Unsigned t) : ∀ c ∈ t.head?, c ≠ '+' ∧ c ≠ '-' := by
  have halpha {c : Char} (hc : c.isAlpha = true) : c ≠ '+' ∧ c ≠ '-' := by
    constructor <;> rintro rfl <;> exact absurd hc (by decide)
  intro c hc
  cases h with
  | word hword => exact halpha (isAlpha_of_word hword c (List.mem_of_mem_head? hc))
  | decimal hm =>
    cases hm with
    | @whole w hw hne =>
      obtain ⟨d, rest, rfl⟩ := List.exists_cons_of_ne_nil hne
      obtain rfl : d = c := by simpa using hc
      exact Numeral.ne_sign_of_isDigit (hw d (by simp))
    | @point w f hw =>
      cases w with
      | nil =>
        obtain rfl : '.' = c := by simpa using hc
        decide
      | cons d rest =>
        obtain rfl : d = c := by simpa using hc
        exact Numeral.ne_sign_of_isDigit (hw d (by simp))

lemma unsigned_iff {t : Text} :
    Unsigned t ↔ t.map Char.toLower ∈ words ∨
      ∃ m e, t = m ++ e ∧ Decimal.Mantissa m ∧ Decimal.Exponent e := by
  constructor
  · intro h
    cases h with
    | word hword => exact .inl hword
    | decimal hm he => exact .inr ⟨_, _, rfl, hm, he⟩
  · rintro (hword | ⟨m, e, rfl, hm, he⟩)
    · exact .word hword
    · exact .decimal hm he

lemma mem_words_iff {w : Text} : w ∈ words ↔ w ∈ infinityWords ∨ w = "nan" := by
  simp [words, infinityWords, or_assoc]

/-- **Texts in the notation** of floating point numbers are those that can be read. -/
lemma exists_read?_iff {t : Text} : (∃ x, read? t = some x) ↔ Written t := by
  rw [Written, Numeral.exists_sign_append_iff fun _ => Unsigned.head?, unsigned_iff, mem_words_iff,
    read?]
  simp only
  split
  · next hword => exact iff_of_true ⟨_, rfl⟩ (.inl (.inl hword))
  · split
    · next hnan => exact iff_of_true ⟨_, rfl⟩ (.inl (.inr hnan))
    · next hword hnan =>
      rw [or_iff_right (not_or.2 ⟨hword, hnan⟩),
        ← Decimal.exists_readUnsigned?_iff (Numeral.splitSign t).1]
      simp

/-- A numeral is a decimal number without a point and an exponent. -/
lemma written_of_spells {t : Text} {n : ℤ} (h : Numeral.Spells t n) : Written t := by
  have hrun {w : Text} (hw : Numeral.isDigits w = true) : Unsigned w := by
    obtain ⟨hne, hdigits⟩ := Numeral.isDigits_iff.1 hw
    simpa using Unsigned.decimal (.whole hdigits hne) .none
  cases h with
  | unsigned hw => exact ⟨"", by decide, t, rfl, hrun hw⟩
  | @plus w hw => exact ⟨"+", by decide, w, rfl, hrun hw⟩
  | @minus w hw => exact ⟨"-", by decide, w, rfl, hrun hw⟩

end Double

end Listing
