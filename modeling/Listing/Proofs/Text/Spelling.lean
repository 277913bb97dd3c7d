import Mathlib
import Listing.Proofs.Text.Percent

/-!
# The spellings of a value

A value may be spelled in many ways: each of its characters stands for itself or is escaped octet
by octet, with hexadecimal digits in either case, and where anything is escaped at all a space may
be a plus.  Whatever the mixture, the value is read from each of them.  One of the spellings is the
one that is written, which keeps to a few characters that mean nothing else in a query string.
-/

namespace Listing.Text

/-- The octets of a character are those of core. -/
lemma Utf8.octets_eq_utf8EncodeChar (c : Char) : octets c = String.utf8EncodeChar c := by
  have hvalid := toNat_valid c
  have hval : c.val.toNat = c.toNat := rfl
  simp only [octets, continuation, String.utf8EncodeChar, hval]
  set n := c.toNat
  by_cases h1 : n < 0x80
  · rw [if_pos h1, if_pos (show n ≤ 127 by omega)]
  rw [if_neg h1, if_neg (show ¬n ≤ 127 by omega)]
  by_cases h2 : n < 0x800
  · rw [if_pos h2, if_pos (show n ≤ 2047 by omega), show n / 64 % 32 = n / 64 by omega]
    simp only [Nat.add_comm]
  rw [if_neg h2, if_neg (show ¬n ≤ 2047 by omega)]
  by_cases h3 : n < 0x10000
  · rw [if_pos h3, if_pos (show n ≤ 65535 by omega), show n / 4096 % 16 = n / 4096 by omega]
    simp only [Nat.add_comm]
  · rw [if_neg h3, if_neg (show ¬n ≤ 65535 by omega),
      show n / 262144 % 8 = n / 262144 by omega]
    simp only [Nat.add_comm]

namespace Percent

open Utf8

/-! ### Spellings -/

/-- The hexadecimal digits in lower case. -/
def lowerDigits : Text := "0123456789abcdef"

/-- The hexadecimal digits in upper case. -/
def upperDigits : Text := "0123456789ABCDEF"

/-- A hexadecimal digit of a value, in either case. -/
def IsHexDigit (n : ℕ) (c : Char) : Prop :=
  lowerDigits[n]? = some c ∨ upperDigits[n]? = some c

/-- An escape of an octet: a percent sign and two hexadecimal digits. -/
def IsEscape (o : UInt8) (t : Text) : Prop :=
  ∃ high low, t = ['%', high, low] ∧ IsHexDigit (o.toNat / 16) high ∧ IsHexDigit (o.toNat % 16) low

/-- A value and a text that spells it character by character, where a plus may stand for a space if
`plus` holds. -/
inductive Spelled (plus : Prop) : (value t : Text) → Prop
  | nil : Spelled plus [] []
  /-- A character stands for itself. -/
  | literal {c : Char} {value t : Text} : c ≠ '%' → c ≠ '+' → Spelled plus value t →
      Spelled plus (c :: value) (c :: t)
  /-- All octets of a character are escaped. -/
  | escaped {c : Char} {escapes : List Text} {value t : Text} :
      List.Forall₂ IsEscape (String.utf8EncodeChar c) escapes → Spelled plus value t →
      Spelled plus (c :: value) (escapes.flatten ++ t)
  /-- A plus stands for a space. -/
  | plus {value t : Text} : plus → Spelled plus value t → Spelled plus (' ' :: value) ('+' :: t)

/-- A text that spells a value: a plus stands for a space if the text has escapes. -/
def Spells (t value : Text) : Prop :=
  Spelled ('%' ∈ t) value t

/-- A letter or a digit of ASCII, or one of four marks. -/
def Unreserved (c : Char) : Prop :=
  ('A' ≤ c ∧ c ≤ 'Z') ∨ ('a' ≤ c ∧ c ≤ 'z') ∨ ('0' ≤ c ∧ c ≤ '9') ∨ c ∈ ['_', '.', '-', '~']

instance (c : Char) : Decidable (Unreserved c) :=
  inferInstanceAs (Decidable (_ ∨ _))

/-- Texts of unreserved characters and of escapes with digits in upper case. -/
inductive Plain : Text → Prop
  | nil : Plain []
  | unreserved {c : Char} {t : Text} : Unreserved c → Plain t → Plain (c :: t)
  | escape {high low : Char} {t : Text} : high ∈ upperDigits → low ∈ upperDigits → Plain t →
      Plain ('%' :: high :: low :: t)

/-! ### Escapes in either case -/

lemma hexValue?_of_isHexDigit {n : ℕ} {c : Char} (h : IsHexDigit n c) : hexValue? c = some n := by
  have hlower : ∀ n < 16, lowerDigits[n]?.bind hexValue? = some n := by decide
  have hupper : ∀ n < 16, upperDigits[n]?.bind hexValue? = some n := by decide
  rcases h with h | h
  · have hn := hlower n (List.getElem?_eq_some_iff.1 h).1
    rwa [h] at hn
  · have hn := hupper n (List.getElem?_eq_some_iff.1 h).1
    rwa [h] at hn

lemma pieces_cons {c : Char} (h : c ≠ '%') (rest : Text) :
    pieces (c :: rest) = .ofChar c :: pieces rest := by
  rw [pieces]
  intro high low rest' hc
  exact absurd hc h

lemma plusToSpace_of_ne {c : Char} (h : c ≠ '+') : plusToSpace c = c :=
  if_neg h

lemma plusToSpace_of_isHexDigit {n : ℕ} {c : Char} (h : IsHexDigit n c) : plusToSpace c = c := by
  refine plusToSpace_of_ne ?_
  rintro rfl
  cases hexValue?_of_isHexDigit h

/-- An escape is cut off as its octet, whatever the case of its digits. -/
lemma pieces_of_isEscape {o : UInt8} {t : Text} (h : IsEscape o t) (rest : Text) :
    pieces ((t ++ rest).map plusToSpace) = .octet o :: pieces (rest.map plusToSpace) := by
  obtain ⟨high, low, rfl, hhigh, hlow⟩ := h
  have ho : octet? high low = some o := by
    simp only [octet?, hexValue?_of_isHexDigit hhigh, hexValue?_of_isHexDigit hlow]
    rw [Nat.div_add_mod, UInt8.ofNat_toNat]
  have hpercent : plusToSpace '%' = '%' := plusToSpace_of_ne (by decide)
  simp only [List.cons_append, List.nil_append, List.map_cons, hpercent,
    plusToSpace_of_isHexDigit hhigh, plusToSpace_of_isHexDigit hlow, pieces, ho]

lemma pieces_of_forall₂_isEscape {os : List UInt8} {escapes : List Text}
    (h : List.Forall₂ IsEscape os escapes) (rest : Text) :
    pieces ((escapes.flatten ++ rest).map plusToSpace)
      = os.map Piece.octet ++ pieces (rest.map plusToSpace) := by
  induction h with
  | nil => rfl
  | cons ho _ ih =>
    rw [List.flatten_cons, List.append_assoc, pieces_of_isEscape ho, ih, List.map_cons,
      List.cons_append]

/-! ### Reading spellings -/

/-- A character that stands for itself is read as itself, whether or not it is an octet. -/
lemma readFrom_ofChar (c : Char) (rest : List Piece) :
    readFrom none (.ofChar c :: rest) = c :: readFrom none rest := by
  by_cases h : c.toNat < 0x80
  · have hread := readFrom_octets c rest
    rw [octets, if_pos h] at hread
    rw [Piece.ofChar, if_pos h]
    exact hread
  · rw [Piece.ofChar, if_neg h]
    rfl

/-- Where pluses stand for spaces, the value is read character by character: after each of them the
reader of octets stands between two characters again. -/
lemma readFrom_of_spelled {plus : Prop} {value t : Text} (h : Spelled plus value t) :
    readFrom none (pieces (t.map plusToSpace)) = value := by
  induction h with
  | nil => rfl
  | literal hpercent hplus _ ih =>
    rw [List.map_cons, plusToSpace_of_ne hplus, pieces_cons hpercent, readFrom_ofChar, ih]
  | escaped hescapes _ ih =>
    rw [pieces_of_forall₂_isEscape hescapes, ← octets_eq_utf8EncodeChar, readFrom_octets, ih]
  | plus _ _ ih =>
    have hspace : plusToSpace '+' = ' ' := rfl
    rw [List.map_cons, hspace, pieces_cons (by decide), readFrom_ofChar, ih]

/-- A spelling without a percent sign has neither escapes nor pluses for spaces. -/
lemma eq_of_spelled {plus : Prop} {value t : Text} (h : Spelled plus value t) (hplus : ¬plus)
    (hpercent : '%' ∉ t) : t = value := by
  induction h with
  | nil => rfl
  | literal _ _ _ ih => rw [ih fun hmem => hpercent (List.mem_cons_of_mem _ hmem)]
  | @escaped c escapes value t hescapes _ _ =>
    -- a character has an octet, and its escape a percent sign
    exfalso
    cases hos : String.utf8EncodeChar c with
    | nil => exact absurd hos String.utf8EncodeChar_ne_nil
    | cons o os =>
      rw [hos] at hescapes
      obtain ⟨e, es, ⟨high, low, rfl, -⟩, -, rfl⟩ := List.forall₂_cons_left_iff.1 hescapes
      exact hpercent (by simp)
  | plus h => exact absurd h hplus

lemma decode_of_spells {value t : Text} (h : Spells t value) : decode t = value := by
  rw [decode]
  split
  · exact readFrom_of_spelled h
  · next hpercent =>
    have hpercent : '%' ∉ t := by simpa using hpercent
    exact eq_of_spelled h hpercent hpercent

/-! ### The written spelling -/

lemma getElem?_upperDigits (n : ℕ) : upperDigits[n % 16]? = some (upperHexDigit n) := by
  have hall : ∀ m < 16, upperDigits[m]? = some (Nat.digitChar m).toUpper := by decide
  exact hall (n % 16) (Nat.mod_lt n (by omega))

lemma isEscape_escape (o : UInt8) : IsEscape o (escape o) := by
  have hlt := o.toNat_lt
  have hhigh := getElem?_upperDigits (o.toNat / 16)
  rw [show o.toNat / 16 % 16 = o.toNat / 16 by omega] at hhigh
  exact ⟨_, _, rfl, .inr hhigh, .inr (getElem?_upperDigits o.toNat)⟩

lemma spelled_encode (plus : Prop) (value : Text) : Spelled plus value (encode value) := by
  induction value with
  | nil => exact .nil
  | cons c value ih =>
    rw [encode, List.flatMap_cons, ← encode, encodeChar]
    split
    · next hkept =>
      refine .literal ?_ ?_ ih <;> rintro rfl <;> exact absurd hkept (by decide)
    · rw [List.flatMap_def]
      refine .escaped ?_ ih
      rw [← octets_eq_utf8EncodeChar, List.forall₂_map_right_iff, List.forall₂_same]
      exact fun o _ => isEscape_escape o

/-- **Every text is read back** as it was written. -/
lemma decode_encode (t : Text) : decode (encode t) = t :=
  decode_of_spells (spelled_encode _ t)

lemma unreserved_of_isKept {c : Char} (h : isKept c = true) : Unreserved c := by
  have hall : ∀ n < 0x7F, isKept (Char.ofNat n) = true → Unreserved (Char.ofNat n) := by
    decide +kernel
  have hc := hall c.toNat (graphic_of_isKept h).2
  rw [Char.ofNat_toNat] at hc
  exact hc h

lemma plain_flatMap_escape (os : List UInt8) {t : Text} (h : Plain t) :
    Plain (os.flatMap escape ++ t) := by
  induction os with
  | nil => exact h
  | cons o os ih =>
    exact .escape (List.mem_of_getElem? (getElem?_upperDigits _))
      (List.mem_of_getElem? (getElem?_upperDigits _)) ih

lemma plain_encode (value : Text) : Plain (encode value) := by
  induction value with
  | nil => exact .nil
  | cons c value ih =>
    rw [encode, List.flatMap_cons, ← encode, encodeChar]
    split
    · next hkept => exact .unreserved (unreserved_of_isKept hkept) ih
    · exact plain_flatMap_escape _ ih

/-- No character of a written text separates anything in a query string, and none is blank. -/
lemma harmless_of_mem_encode {value : Text} {c : Char} (h : c ∈ encode value) :
    c ∉ ['&', '=', ':', ',', '?', '+'] ∧ isBlank c = false := by
  rcases mem_encode h with hkept | rfl
  · refine ⟨fun hmem => ?_, isBlank_of_isKept hkept⟩
    simp only [List.mem_cons, List.not_mem_nil, or_false] at hmem
    rcases hmem with rfl | rfl | rfl | rfl | rfl | rfl <;> exact absurd hkept (by decide)
  · decide

/-- **Spellings.**  A value is read from each of its spellings.  What is written is one of them; it
is made of unreserved characters and of escapes in upper case, so that it holds no separator of a
query string, no plus and no blank, and the value is read back from it. -/
theorem decode_spelling (value : Text) :
    (∀ t, Spells t value → decode t = value) ∧ Spells (encode value) value ∧
      Plain (encode value) ∧
      (∀ c ∈ encode value, c ∉ ['&', '=', ':', ',', '?', '+'] ∧ isBlank c = false) ∧
      decode (encode value) = value :=
  ⟨fun _ h => decode_of_spells h, spelled_encode _ _, plain_encode value,
    fun _ h => harmless_of_mem_encode h, decode_encode value⟩

/-- A letter escaped with digits in both cases, a space as a plus, the same letter as itself, and an
escaped plus in front of an escaped letter of ASCII. -/
theorem decode_spelling_mixed :
    Spells "%c3%A9+é%2b%78" "é é+x" ∧ decode "%c3%A9+é%2b%78" = "é é+x" := by
  have hacute : List.Forall₂ IsEscape (String.utf8EncodeChar 'é') ["%c3", "%A9"] :=
    .cons ⟨'c', '3', rfl, .inl rfl, .inl rfl⟩ (.cons ⟨'A', '9', rfl, .inr rfl, .inl rfl⟩ .nil)
  have hplus : List.Forall₂ IsEscape (String.utf8EncodeChar '+') ["%2b"] :=
    .cons ⟨'2', 'b', rfl, .inl rfl, .inl rfl⟩ .nil
  have hletter : List.Forall₂ IsEscape (String.utf8EncodeChar 'x') ["%78"] :=
    .cons ⟨'7', '8', rfl, .inl rfl, .inl rfl⟩ .nil
  have hpercent : '%' ∈ ("%c3%A9+é%2b%78" : Text) := by decide
  have h : Spells "%c3%A9+é%2b%78" "é é+x" :=
    .escaped hacute (.plus hpercent (.literal (by decide) (by decide)
      (.escaped hplus (.escaped hletter .nil))))
  exact ⟨h, (decode_spelling "é é+x").1 _ h⟩

end Percent

end Listing.Text
