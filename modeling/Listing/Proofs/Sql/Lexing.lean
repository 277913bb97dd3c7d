import Mathlib
import Listing.Proofs.Request.Spelling
import Listing.Proofs.Sql.Conditions
import Listing.Proofs.Sql.Grammar

/-!
# Cutting the text of a request into lexemes

The text of a request is put together from names, keywords and signs, and it is cut into lexemes
where it was put together.  For this a word has to end where the next part begins, so there are two
notions: `Cuts` for texts that are cut the same whatever follows, and `CutsWord` for those that may
end in a word, and are cut as said before anything that no word goes on with.
-/

namespace Listing.Sql

open Lexeme

/-- The text starts with a character that ends every word before it. -/
def Breaks (t : Text) : Prop :=
  t.head?.any (fun c => c == ' ' || c == ',' || c == ')') = true

/-- The text is cut into these lexemes, whatever follows. -/
def Cuts (t : Text) (ls : List Lexeme) : Prop :=
  ∀ rest, scan [] (t ++ rest) = (scan [] rest).map fun ms => ls ++ ms

/-- The text is cut into these lexemes, if what follows goes on with no word. -/
def CutsWord (t : Text) (ls : List Lexeme) : Prop :=
  ∀ rest, rest = [] ∨ Breaks rest → scan [] (t ++ rest) = (scan [] rest).map fun ms => ls ++ ms

/-! ### Single characters and words -/

lemma scan_cons_word {word rest : Text} {c : Char} (h : isWordChar c = true) :
    scan word (c :: rest) = scan (word ++ [c]) rest := by
  rw [scan, if_pos h]
  · rintro r rfl
    exact absurd h (by decide)
  · rintro r rfl
    exact absurd h (by decide)
  · rintro rfl
    exact absurd h (by decide)

@[simp] lemma ofWord_nil : ofWord [] = [] := rfl

@[simp] lemma scan_nil (word : Text) : scan word [] = some (ofWord word) := rfl

@[simp] lemma scan_blank (word rest : Text) :
    scan word (' ' :: rest) = (scan [] rest).map fun ms => ofWord word ++ ms := rfl

/-- A character that is a lexeme, unless it is part of a longer one. -/
lemma scan_sign {c : Char} {l : Lexeme} {rest : Text} (h : ofChar? c = some l)
    (hrest : c = '<' ∨ c = '>' → rest.head? ≠ some '=') (word : Text) :
    scan word (c :: rest) = (scan [] rest).map fun ms => ofWord word ++ l :: ms := by
  have hword : isWordChar c = false := by
    unfold ofChar? at h
    split at h
    case h_8 => cases h
    all_goals rfl
  rw [scan, if_neg (by simp [hword]), h]
  · rintro r rfl rfl
    exact absurd rfl (hrest (.inl rfl))
  · rintro r rfl rfl
    exact absurd rfl (hrest (.inr rfl))
  · rintro rfl
    simp [ofChar?] at h

lemma scan_append_word {word t rest : Text} (h : ∀ c ∈ t, isWordChar c = true) :
    scan word (t ++ rest) = scan (word ++ t) rest := by
  induction t generalizing word with
  | nil => simp
  | cons c t ih =>
    rw [List.cons_append, scan_cons_word (h c (by simp)),
      ih fun d hd => h d (List.mem_cons_of_mem _ hd), List.append_assoc]
    rfl

/-- A word that has been read ends where the text ends or breaks. -/
lemma scan_of_breaks {word rest : Text} (h : rest = [] ∨ Breaks rest) :
    scan word rest = (scan [] rest).map fun ms => ofWord word ++ ms := by
  cases rest with
  | nil => simp
  | cons c rest =>
    have hc : (c = ' ' ∨ c = ',') ∨ c = ')' := by simpa [Breaks] using h
    rcases hc with (rfl | rfl) | rfl
    · simp
    · rw [scan_sign rfl (by simp), scan_sign rfl (by simp)]
      simp [Function.comp_def]
    · rw [scan_sign rfl (by simp), scan_sign rfl (by simp)]
      simp [Function.comp_def]

lemma cutsWord_of_forall {word : Text} (h : ∀ c ∈ word, isWordChar c = true) :
    CutsWord word (ofWord word) := by
  intro rest hrest
  rw [scan_append_word h, List.nil_append, scan_of_breaks hrest]

/-! ### Longer texts -/

lemma Cuts.cutsWord {t : Text} {ls : List Lexeme} (h : Cuts t ls) : CutsWord t ls :=
  fun rest _ => h rest

lemma cuts_nil : Cuts [] [] :=
  fun rest => by simp

lemma Cuts.append {t u : Text} {ls ms : List Lexeme} (ht : Cuts t ls) (hu : Cuts u ms) :
    Cuts (t ++ u) (ls ++ ms) := by
  intro rest
  rw [List.append_assoc, ht, hu, Option.map_map]
  simp [Function.comp_def]

lemma Cuts.append_word {t u : Text} {ls ms : List Lexeme} (ht : Cuts t ls) (hu : CutsWord u ms) :
    CutsWord (t ++ u) (ls ++ ms) := by
  intro rest hrest
  rw [List.append_assoc, ht, hu rest hrest, Option.map_map]
  simp [Function.comp_def]

lemma CutsWord.append {t u : Text} {ls ms : List Lexeme} (ht : CutsWord t ls) (hu : Cuts u ms)
    (hbreaks : Breaks u) : Cuts (t ++ u) (ls ++ ms) := by
  intro rest
  have hrest : Breaks (u ++ rest) := by
    cases u with
    | nil => cases hbreaks
    | cons c u => exact hbreaks
  rw [List.append_assoc, ht _ (.inr hrest), hu, Option.map_map]
  simp [Function.comp_def]

/-- Parts that may end in a word are cut from each other by a separator that breaks words. -/
lemma cutsWord_joined {separator : Text} {ss : List Lexeme} (hs : Cuts separator ss)
    (hbreaks : Breaks separator) {parts : List Text}
    {lss : List (List Lexeme)} (h : List.Forall₂ CutsWord parts lss) :
    CutsWord (Text.joined separator parts) (ss.intercalate lss) := by
  induction h with
  | nil => exact cuts_nil.cutsWord
  | @cons p ls parts lss hp hrest ih =>
    cases hrest with
    | nil => simpa using hp
    | cons hq hrest =>
      rw [Text.joined_cons_cons, List.intercalate_cons_cons]
      exact (hp.append hs hbreaks).append_word ih

/-! ### Keywords and signs -/

lemma isWordChar_of_keyword (k : Keyword) : ∀ c ∈ k.text, isWordChar c = true := by
  rw [← List.all_eq_true]
  cases k <;> decide

lemma ofWord_keyword (k : Keyword) : ofWord k.text = [.keyword k] := by
  cases k <;> decide

lemma cutsWord_keyword (k : Keyword) : CutsWord k.text [.keyword k] := by
  have h := cutsWord_of_forall (isWordChar_of_keyword k)
  rwa [ofWord_keyword] at h

lemma cuts_blank : Cuts " " [] := by
  intro rest
  simp

lemma cuts_sign {c : Char} {l : Lexeme} (h : ofChar? c = some l) (hc : c ≠ '<' ∧ c ≠ '>') :
    Cuts [c] [l] :=
  fun rest => scan_sign h (by simp [hc]) []

lemma cuts_sign_blank {c : Char} {l : Lexeme} (h : ofChar? c = some l) : Cuts [c, ' '] [l] := by
  intro rest
  have hsign : scan [] (c :: ' ' :: rest) = _ := scan_sign h (by simp) []
  simpa [Function.comp_def] using hsign

lemma cuts_lessOrEqual : Cuts "<=" [.lessOrEqual] :=
  fun _ => rfl

lemma cuts_greaterOrEqual : Cuts ">=" [.greaterOrEqual] :=
  fun _ => rfl

lemma cuts_mark : Cuts " ?" [.mark] :=
  cuts_blank.append (cuts_sign rfl (by decide))

lemma cuts_comma : Cuts ", " [.comma] :=
  cuts_sign_blank rfl

/-- A keyword between blanks. -/
lemma Cuts.keyword {t : Text} {ls : List Lexeme} (k : Keyword) (h : Cuts t ls)
    (hbreaks : Breaks t) : Cuts (' ' :: (k.text ++ t)) (.keyword k :: ls) :=
  cuts_blank.append ((cutsWord_keyword k).append h hbreaks)

/-! ### Conditions -/

lemma IsIdentifier.cutsWord {name : Text} (h : IsIdentifier name) : CutsWord name [.name name] := by
  have hword : ofWord name = [.name name] := by
    rw [ofWord, if_neg (by simpa using h.ne_nil), Keyword.ofWord?_eq_none_iff.2 h.not_keyword]
  have hcuts := cutsWord_of_forall h.word
  rwa [hword] at hcuts

/-- The predicate of a test. -/
def Test.predicate : Test → Predicate
  | like => .like
  | less => .less
  | lessOrEqual => .lessOrEqual
  | greater => .greater
  | greaterOrEqual => .greaterOrEqual
  | between => .between

/-- The lexemes of a condition. -/
def Condition.lexemes : Condition → List Lexeme
  | is column => .name column :: Predicate.is.lexemes
  | equal column => .name column :: Predicate.equal.lexemes
  | among column count => .name column :: (Predicate.among count).lexemes
  | any column test count =>
    if count = 1 then .name column :: test.predicate.lexemes
    else
      .opening :: [.keyword .OR].intercalate
        (List.replicate count (.name column :: test.predicate.lexemes)) ++ [.closing]

lemma cuts_test (test : Test) : Cuts (' ' :: test.text) test.predicate.lexemes := by
  have hmark : Cuts "?" [.mark] := cuts_sign rfl (by decide)
  cases test with
  | like => exact cuts_mark.keyword .LIKE rfl
  | less => exact cuts_blank.append ((cuts_sign_blank rfl).append hmark)
  | lessOrEqual => exact cuts_blank.append (cuts_lessOrEqual.append cuts_mark)
  | greater => exact cuts_blank.append ((cuts_sign_blank rfl).append hmark)
  | greaterOrEqual => exact cuts_blank.append (cuts_greaterOrEqual.append cuts_mark)
  | between =>
    have hand := cuts_mark.append (cuts_mark.keyword .AND rfl)
    exact hand.keyword .BETWEEN rfl

lemma cutsWord_joined_replicate {separator part : Text} {ss ls : List Lexeme}
    (hs : Cuts separator ss) (hbreaks : Breaks separator)
    (h : CutsWord part ls) (count : ℕ) :
    CutsWord (Text.joined separator (List.replicate count part))
      (ss.intercalate (List.replicate count ls)) := by
  refine cutsWord_joined hs hbreaks ?_
  induction count with
  | zero => exact .nil
  | succ count ih => exact .cons h ih

/-- A condition is cut into its lexemes. -/
lemma Condition.cuts {c : Condition} (h : IsIdentifier c.column) : Cuts c.text c.lexemes := by
  have hopening : Cuts "(" [.opening] := cuts_sign rfl (by decide)
  have hclosing : Cuts ")" [.closing] := cuts_sign rfl (by decide)
  have hmark : Cuts "?" [.mark] := cuts_sign rfl (by decide)
  cases c with
  | is column =>
    exact h.cutsWord.append (cuts_mark.keyword .IS rfl) rfl
  | equal column =>
    exact h.cutsWord.append (cuts_blank.append ((cuts_sign_blank rfl).append hmark)) rfl
  | among column count =>
    have hin := (cuts_blank.append hopening).keyword .IN rfl
    have hmarks : CutsWord _ (marks count) :=
      cutsWord_joined_replicate cuts_comma rfl hmark.cutsWord count
    have hlist := hmarks.append hclosing rfl
    have hcolumn := h.cutsWord.append hin rfl
    rw [text, List.append_assoc]
    exact hcolumn.append hlist
  | any column test count =>
    have htest : Cuts (column ++ ' ' :: test.text) (.name column :: test.predicate.lexemes) :=
      h.cutsWord.append (cuts_test test) rfl
    rw [text, lexemes]
    split
    · next hone => simpa [hone] using htest
    · next hone =>
      have hor := cuts_blank.keyword .OR rfl
      have hjoined := cutsWord_joined_replicate hor rfl htest.cutsWord
        count
      rw [alternatives_of_length_ne_one (by simpa using hone), List.append_assoc]
      exact hopening.append (hjoined.append hclosing rfl)

/-! ### Clauses -/

/-- The lexemes of the clause for the conditions of filters. -/
def whereLexemes (m : Filters) : List Lexeme :=
  if conditions m = [] then []
  else .keyword .WHERE :: [.keyword .AND].intercalate ((conditions m).map Condition.lexemes)

/-- The lexemes of the clause for an order. -/
def orderLexemes (m : Sorting) : List Lexeme :=
  if m.named = [] then []
  else .keyword .ORDER :: .keyword .BY ::
    [.comma].intercalate (m.named.map fun e => [.name e.1, .keyword (.ofDirection e.2)])

lemma Condition.text_ne_nil (c : Condition) : c.text ≠ [] := by
  cases c with
  | any column test count =>
    rw [text]
    by_cases hone : count = 1
    · simp [hone]
    · rw [alternatives_of_length_ne_one (by simpa using hone)]
      simp
  | _ => simp [text]

lemma whereText_eq_nil_iff {m : Filters} : whereText m = [] ↔ conditions m = [] := by
  rw [whereText, Text.joined_eq_nil_iff, List.map_eq_nil_iff]
  intro p hp
  obtain ⟨c, -, rfl⟩ := List.mem_map.1 hp
  exact c.text_ne_nil

lemma orderText_eq_nil_iff {m : Sorting} : orderText m = [] ↔ m.named = [] := by
  rw [orderText, Text.joined_eq_nil_iff, List.map_eq_nil_iff]
  · rfl
  · intro p hp
    obtain ⟨e, -, rfl⟩ := List.mem_map.1 hp
    simp

lemma cuts_clause {start t : Text} {ss ls : List Lexeme} (hs : CutsWord start ss)
    (ht : CutsWord t ls) (hne : t ≠ []) :
    Cuts ((clause start t).flatMap fun p => p ++ (" " : Text)) (ss ++ ls) := by
  have hend := ht.append cuts_blank rfl
  have hclause := hs.append (cuts_blank.append hend) rfl
  rw [flatMap_clause, if_neg hne]
  simpa using hclause

lemma cuts_where {m : Filters} (h : ∀ c ∈ conditions m, IsIdentifier c.column) :
    Cuts ((clause "WHERE" (whereText m)).flatMap fun p => p ++ (" " : Text)) (whereLexemes m) := by
  rw [whereLexemes]
  by_cases hnil : conditions m = []
  · rw [if_pos hnil, whereText_eq_nil_iff.2 hnil]
    exact cuts_nil
  · have hparts : List.Forall₂ CutsWord ((conditions m).map Condition.text)
        ((conditions m).map Condition.lexemes) := by
      rw [List.forall₂_map_left_iff, List.forall₂_map_right_iff, List.forall₂_same]
      exact fun c hc => (Condition.cuts (h c hc)).cutsWord
    have hand := cuts_blank.keyword .AND rfl
    rw [if_neg hnil]
    exact cuts_clause (cutsWord_keyword .WHERE)
      (cutsWord_joined hand rfl hparts)
      (whereText_eq_nil_iff.not.2 hnil)

lemma cuts_order {m : Sorting} (h : ∀ e ∈ m.named, IsIdentifier e.1) :
    Cuts ((clause "ORDER BY" (orderText m)).flatMap fun p => p ++ (" " : Text))
      (orderLexemes m) := by
  rw [orderLexemes]
  by_cases hnil : m.named = []
  · rw [if_pos hnil, orderText_eq_nil_iff.2 hnil]
    exact cuts_nil
  · have hdirection (d : Direction) : CutsWord (keyword d) [.keyword (.ofDirection d)] := by
      cases d with
      | ascending => exact cutsWord_keyword .ASC
      | descending => exact cutsWord_keyword .DESC
    have hparts : List.Forall₂ CutsWord (m.named.map fun e => e.1 ++ ' ' :: keyword e.2)
        (m.named.map fun e => [.name e.1, .keyword (.ofDirection e.2)]) := by
      rw [List.forall₂_map_left_iff, List.forall₂_map_right_iff, List.forall₂_same]
      intro e he
      have hname := (h e he).cutsWord.append cuts_blank rfl
      simpa using hname.append_word (hdirection e.2)
    have hby := ((cutsWord_keyword .ORDER).append cuts_blank rfl).append_word (cutsWord_keyword .BY)
    rw [if_neg hnil]
    exact cuts_clause hby
      (cutsWord_joined cuts_comma rfl hparts)
      (orderText_eq_nil_iff.not.2 hnil)

lemma cuts_page : Cuts pageText Statement.pageLexemes := by
  have hoffset := cuts_mark.keyword .OFFSET rfl
  have hpage := (cutsWord_keyword .LIMIT).append (cuts_mark.append hoffset) rfl
  exact hpage

/-- The text of a request is cut into the lexemes of its clauses. -/
lemma read_text {r : Request} (hfilters : ∀ e ∈ r.filters.entries, IsIdentifier e.1)
    (hsorting : ∀ e ∈ r.sorting.named, IsIdentifier e.1) :
    Lexeme.read (text r) =
      some (whereLexemes r.filters ++ orderLexemes r.sorting ++ Statement.pageLexemes) := by
  have hcolumns : ∀ c ∈ conditions r.filters, IsIdentifier c.column := by
    intro c hc
    obtain ⟨e, he, hce⟩ := List.mem_filterMap.1 hc
    rw [column_of_condition? hce]
    exact hfilters e he
  have hcuts := ((cuts_where hcolumns).append (cuts_order hsorting)).append cuts_page []
  rw [List.append_nil] at hcuts
  rw [Lexeme.read, text_eq, clausesText, List.flatMap_append, hcuts]
  simp [scan, ofWord_nil]

end Listing.Sql
