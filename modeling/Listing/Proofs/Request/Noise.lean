import Mathlib
import Listing.Proofs.Request.Grammar
import Listing.Proofs.Text.Cells
import Listing.Proofs.Elementwise
import Listing.Proofs.Sorting

/-!
# Noise in a query string

Blanks around the separators of a query string, blank tokens, blank items of an order, blank values
of a filter and a question mark in front can be added as one likes: the query string is read as
before, or cannot be read for a reason of the same kind.

A token is known by its *effect*, which is how it changes a request, or the kind of fault that it
has.  The effect of a token depends on its cells alone, and blank tokens have none.  So noise has to
be followed only as far as it changes cells, which is inside an order and inside a filter.
-/

namespace Listing

open Text

/-- The kind of a fault: the name of what is malformed, or none for a number with too many digits.
-/
def Fault.kind : Fault → Option Text
  | .malformed cause => some cause.name
  | .tooManyDigits => none

/-- Noise in an order: blanks around a colon or a comma, or a blank item beside one that is not. -/
inductive Sorting.Noise : Text → Text → Prop
  | beside {v w : Text} : Beside [',', ':'] v w → Noise v w
  | item {v w : Text} : (∃ item ∈ v.splitOn ',', blank item = false) → Widened ',' v w →
      Noise v w

/-- Noise in a filter: blanks around a colon or a comma, or a blank value after the colon. -/
inductive Filter.Noise : Text → Text → Prop
  | beside {v w : Text} : ':' ∈ v → Beside [',', ':'] v w → Noise v w
  | value {word v w : Text} : Widened ',' v w → Noise (word ++ ':' :: v) (word ++ ':' :: w)

/-- Noise in the value of a token that is an order or a filter. -/
inductive Token.Noise : Text → Text → Prop
  | order {key v w : Text} : '=' ∉ key → trim key = "order" → Sorting.Noise v w →
      Noise (key ++ '=' :: v) (key ++ '=' :: w)
  | filter {key v w : Text} : '=' ∉ key → trim key ∉ Filters.reserved → Filter.Noise v w →
      Noise (key ++ '=' :: v) (key ++ '=' :: w)

namespace Request

/-- What stands in front of the tokens of a query string: nothing, or a question mark and blanks
before it. -/
inductive Front : Text → Text → Prop
  | bare {rest : Text} : (trim rest).head? ≠ some '?' → Front [] rest
  | marked {before rest : Text} : blank before = true → Front (before ++ ['?']) rest

/-- Noise in a query string. -/
inductive Noise : Text → Text → Prop
  /-- Blanks at the ends. -/
  | ends {before after : Text} (s : Text) : blank before = true → blank after = true →
      Noise s (before ++ s ++ after)
  /-- Blanks around an ampersand or an equals sign. -/
  | beside {s s' : Text} : Beside ['&', '='] s s' → Noise s s'
  /-- A blank token, but not in front of the question mark. -/
  | token {front rest rest' : Text} : Front front rest → Widened '&' rest rest' →
      Noise (front ++ rest) (front ++ rest')
  /-- Noise in the value of a token. -/
  | value {front t u : Text} {ts us : List Text} : Front front (joined "&" (ts ++ t :: us)) →
      '&' ∉ t → Token.Noise t u →
      Noise (front ++ joined "&" (ts ++ t :: us)) (front ++ joined "&" (ts ++ u :: us))
  /-- A question mark in front of a query string without one. -/
  | mark {s : Text} : (trim s).head? ≠ some '?' → Noise s ('?' :: s)

end Request

/-! ### Orders -/

namespace Sorting

lemma toOption_readItem_congr {t u : Text} (h : parts ':' t = parts ':' u) :
    (readItem (trim t)).toOption = (readItem (trim u)).toOption := by
  rw [readItem_trim, readItem_trim, h]
  split
  · split
    · rfl
    · rfl
  · rfl

/-- An order is known by its cells, up to what is wrong with it. -/
lemma toOption_read_of_cells_eq {v w : Text} (h : cells ',' ':' v = cells ',' ':' w) :
    (read v).toOption = (read w).toOption := by
  have hitems : List.Forall₂ (fun s t => (readItem s).toOption = (readItem t).toOption)
      (items v) (items w) := by
    rw [items_eq, items_eq, List.forall₂_map_left_iff, List.forall₂_map_right_iff]
    exact (forall₂_of_cells_eq (by decide) h).imp fun _ _ => toOption_readItem_congr
  have hmap (x : Except Malformed (List (Text × Direction))) :
      (x.map Fields.ofList).toOption = x.toOption.map Fields.ofList := by
    cases x <;> rfl
  rw [read, read, hmap, hmap, toOption_mapM_congr hitems]

lemma cells_trim (t : Text) : cells ',' ':' (trim t) = cells ',' ':' t :=
  cells_eq_of_parts_eq (by decide) (parts_trim (by decide) t)

lemma Noise.cells_eq {v w : Text} (h : Noise v w) : cells ',' ':' v = cells ',' ':' w := by
  cases h with
  | beside h => exact h.cells_eq (by decide) (by decide) (by decide)
  | item _ h => exact h.cells_eq (by decide) (by decide)

lemma Noise.mem_iff {v w : Text} (h : Noise v w) {x : Char} (hx : isBlank x = false)
    (hne : x ≠ ',') : x ∈ v ↔ x ∈ w := by
  cases h with
  | beside h => exact h.mem_iff hx
  | item _ h => exact h.mem_iff hx hne

lemma Noise.blank_eq_false {v w : Text} (h : Noise v w) : blank v = false ∧ blank w = false := by
  have hcells := h.cells_eq
  cases h with
  | beside h =>
    obtain ⟨c, hc, hmem⟩ := h.exists_mem
    have hc : isBlank c = false := by
      revert c
      simp [isBlank, isSpace]
    exact ⟨blank_eq_false_iff.2 ⟨c, hmem, hc⟩, blank_eq_false_iff.2 ⟨c, (h.mem_iff hc).1 hmem, hc⟩⟩
  | item hitem _ =>
    obtain ⟨item, hmem, hitem⟩ := hitem
    have hne : cells ',' ':' v ≠ [] := cells_ne_nil (by decide) hmem hitem
    have hblank {t : Text} (ht : cells ',' ':' t ≠ []) : blank t = false := by
      rw [← Bool.not_eq_true]
      exact fun h => ht (cells_of_blank (by decide) (by decide) h)
    exact ⟨hblank hne, hblank (hcells ▸ hne)⟩

end Sorting

/-! ### Filters -/

namespace Filter

/-- What a filter is written as after the colon falls apart at the commas. -/
lemma values_readValues_append_cons (c : Comparison) (s t : Text) :
    (of c (readValues (s ++ ',' :: t))).values =
      (of c (readValues s)).values ++ (of c (readValues t)).values := by
  simp only [of, readValues, List.splitOn_append_cons_self, List.map_append, List.filter_append]

lemma values_readValues_of_blank (c : Comparison) {t : Text} (h : blank t = true) :
    (of c (readValues t)).values = [] := by
  have hcomma : ',' ∉ t := not_mem_of_blank (by decide) h
  rw [of, readValues, List.splitOn_eq_singleton hcomma, List.map_singleton, trim_eq_nil_iff.2 h]
  rfl

lemma readValues_of_parts_eq {v w : Text} (h : parts ',' v = parts ',' w) :
    readValues v = readValues w := by
  have hparts (t : Text) : readValues t = (parts ',' t).map Percent.decode := by
    rw [readValues, parts, List.map_map]
    rfl
  rw [hparts, hparts, h]

/-- A filter that is cut at its colon. -/
lemma mapError_read_of_cutAt {t word values : Text} (h : CutAt ':' t word values) :
    (read (trim t)).mapError Malformed.name =
      if blank word then .error "InvalidParameter"
      else ((Comparison.read (trim word)).map fun c => of c (readValues values)).mapError
        Malformed.name := by
  obtain ⟨word', values', hcut, hword, hvalues⟩ := h.of_parts_eq (parts_trim (by decide) t).symm
  have hblank : blank word' = blank word := blank_eq_of_trim_eq hword
  have hread : readValues values' = readValues values :=
    readValues_of_parts_eq (parts_eq_of_trim_eq (by decide) hvalues)
  rw [read_of_cutAt (trim_trim t) hcut, hblank, hword, hread]
  split <;> rfl

lemma mapError_read_of_count_ne_one {t : Text} (h : t.count ':' ≠ 1) :
    (read (trim t)).mapError Malformed.name = .error "InvalidParameter" := by
  rw [read_of_count_ne_one (trim_trim t) (by rwa [count_trim (by decide)])]
  rfl

/-- Words with a comma are no comparisons. -/
lemma mapError_read_of_comma {t word values : Text} (h : CutAt ':' t word values)
    (hcomma : ',' ∈ word) :
    (read (trim t)).mapError Malformed.name = .error "InvalidSimilarity" := by
  have hblank : blank word = false := blank_eq_false_iff.2 ⟨',', hcomma, by decide⟩
  have hnone : ∀ c : Comparison, trim word ≠ c.word := by
    intro c hc
    have hmem : ',' ∈ c.word := hc ▸ (mem_trim (by decide)).2 hcomma
    cases c <;> revert hmem <;> decide
  rw [mapError_read_of_cutAt h, hblank, if_neg (by simp), Comparison.read_eq_error hnone]
  rfl

lemma mapError_read_congr {t u word values word' values' : Text} (ht : CutAt ':' t word values)
    (hu : CutAt ':' u word' values') (hword : trim word = trim word')
    (hvalues : ∀ c, (of c (readValues values)).values = (of c (readValues values')).values) :
    (read (trim t)).mapError Malformed.name = (read (trim u)).mapError Malformed.name := by
  have hblank : blank word = blank word' := blank_eq_of_trim_eq hword
  have hof : (fun c => of c (readValues values)) = fun c => of c (readValues values') :=
    funext fun c => congrArg (Filter.mk c) (hvalues c)
  rw [mapError_read_of_cutAt ht, mapError_read_of_cutAt hu, hblank, hword, hof]

lemma Noise.count_eq {v w : Text} (h : Noise v w) {x : Char} (hx : isBlank x = false)
    (hne : x ≠ ',') : v.count x = w.count x := by
  cases h with
  | beside _ h => exact h.count_eq hx
  | value h =>
    rw [List.count_append, List.count_append, List.count_cons, List.count_cons, h.count_eq hx hne]

lemma Noise.mem_iff {v w : Text} (h : Noise v w) {x : Char} (hx : isBlank x = false)
    (hne : x ≠ ',') : x ∈ v ↔ x ∈ w := by
  rw [← List.count_pos_iff, ← List.count_pos_iff, h.count_eq hx hne]

lemma Noise.colon_mem {v w : Text} (h : Noise v w) : ':' ∈ v := by
  cases h with
  | beside hmem _ => exact hmem
  | value _ => simp

/-- **Noise in a filter** is not seen in what is read of it. -/
lemma Noise.mapError_read {v w : Text} (h : Noise v w) :
    (read (trim v)).mapError Malformed.name = (read (trim w)).mapError Malformed.name := by
  have hcolons : v.count ':' = w.count ':' := h.count_eq (by decide) (by decide)
  by_cases hcount : v.count ':' = 1
  · have hcount' := hcolons ▸ hcount
    obtain ⟨word, values, hcut⟩ := count_eq_one_iff.1 hcount
    cases h with
    | beside _ h =>
      rcases h.cases_cons with h | h
      · -- blanks around a comma, which can as well stand where the comparison should be
        rcases h.cutAt hcut (by decide) (by decide) with
          ⟨word', h, hcomma, hcut'⟩ | ⟨values', h, hcut'⟩
        · rw [mapError_read_of_comma hcut hcomma,
            mapError_read_of_comma hcut' ((h.mem_iff (by decide)).1 hcomma)]
        · refine mapError_read_congr hcut hcut' rfl fun c => ?_
          rw [readValues_of_parts_eq (h.parts_eq (by decide))]
      · obtain ⟨word', values', hcut', hword, hvalues⟩ := hcut.of_parts_eq (h.parts_eq (by decide))
        refine mapError_read_congr hcut hcut' hword.symm fun c => ?_
        rw [readValues_of_parts_eq (parts_eq_of_trim_eq (by decide) hvalues)]
    | value h =>
      refine mapError_read_congr (cutAt_of_count_eq_one hcount) (cutAt_of_count_eq_one hcount') rfl
        fun c => ?_
      exact h.eq_of_joined (values_readValues_append_cons c) fun _ => values_readValues_of_blank c
  · rw [mapError_read_of_count_ne_one hcount, mapError_read_of_count_ne_one (hcolons ▸ hcount)]

end Filter

/-! ### Tokens -/

/-- How a token that was read changes a request, or the kind of its fault. -/
def Token.effect (x : Except Fault Token) : Except (Option Text) (Request → Request) :=
  (x.map fun token r => r.apply token).mapError Fault.kind

namespace Token

/-- A token is known by its cells, up to what is wrong with it. -/
lemma effect_read_of_parts_eq {t u : Text} (h : parts '=' t = parts '=' u) :
    effect (read t) = effect (read u) := by
  have hblank : blank t = blank u := by
    rw [Bool.eq_iff_iff, ← parts_eq_nil_cell_iff (c := '=') (by decide), h,
      parts_eq_nil_cell_iff (by decide)]
  by_cases hb : blank t = true
  · rw [read_of_blank hb, read_of_blank (hblank ▸ hb)]
  rw [Bool.not_eq_true] at hb
  by_cases hcount : t.count '=' = 1
  · obtain ⟨key, value, hcut⟩ := count_eq_one_iff.1 hcount
    obtain ⟨key', value', hcut', hkey, hvalue⟩ := hcut.of_parts_eq h
    rw [read_of_cutAt hcut, read_of_cutAt hcut', hkey, hvalue, blank_eq_of_trim_eq hkey,
      blank_eq_of_trim_eq hvalue]
    split <;> rfl
  · rw [read_of_count_ne_one hb hcount,
      read_of_count_ne_one (hblank ▸ hb) (count_eq_of_parts_eq h ▸ hcount)]
    rfl

lemma effect_order_congr {v w : Text} (h : (Sorting.read v).toOption = (Sorting.read w).toOption) :
    effect (.ok (.order v)) = effect (.ok (.order w)) := by
  have happly (r : Request) : r.apply (.order v) = r.apply (.order w) := by
    rw [Request.apply, Request.apply]
    revert h
    cases Sorting.read v <;> cases Sorting.read w <;> intro h <;> cases h <;> rfl
  exact congrArg Except.ok (funext happly)

lemma effect_readField_congr {key v w : Text} (hv : ':' ∈ v) (hw : ':' ∈ w)
    (h : (Filter.read v).mapError Malformed.name = (Filter.read w).mapError Malformed.name) :
    effect (readField key v) = effect (readField key w) := by
  rw [readField_of_colon hv, readField_of_colon hw]
  revert h
  cases Filter.read v with
  | ok f =>
    cases Filter.read w with
    | ok g => rintro ⟨⟩; rfl
    | error cause => rintro ⟨⟩
  | error cause =>
    cases Filter.read w with
    | ok g => rintro ⟨⟩
    | error cause' =>
      intro h
      exact congrArg (fun name => Except.error (some name)) (Except.error.inj h)

/-- A key with another value. -/
lemma effect_read_congr {key v w : Text} (hkey : '=' ∉ key) (hmem : '=' ∈ v ↔ '=' ∈ w)
    (hv : blank v = false) (hw : blank w = false)
    (h : effect (readPair (trim key) (trim v)) = effect (readPair (trim key) (trim w))) :
    effect (read (key ++ '=' :: v)) = effect (read (key ++ '=' :: w)) := by
  by_cases hsign : '=' ∈ v
  · have hread {u : Text} (hu : '=' ∈ u) :
        effect (read (key ++ '=' :: u)) = .error (some "InvalidSearchParameters") := by
      have hcount : (key ++ '=' :: u).count '=' ≠ 1 := fun hone =>
        (cutAt_of_count_eq_one hone).after hu
      have hblank : blank (key ++ '=' :: u) = false :=
        blank_eq_false_iff.2 ⟨'=', by simp, by decide⟩
      rw [read_of_count_ne_one hblank hcount]
      rfl
    rw [hread hsign, hread (hmem.1 hsign)]
  · have hcut : CutAt '=' (key ++ '=' :: v) key v := ⟨rfl, hkey, hsign⟩
    have hcut' : CutAt '=' (key ++ '=' :: w) key w := ⟨rfl, hkey, mt hmem.2 hsign⟩
    rw [read_of_cutAt hcut, read_of_cutAt hcut', hv, hw]
    split
    · rfl
    · exact h

/-- **Noise in the value of a token** is not seen in its effect. -/
lemma Noise.effect_read {t u : Text} (h : Noise t u) : effect (read t) = effect (read u) := by
  cases h with
  | @order key v w hsign hkey h =>
    have hcolon : ':' ∈ trim v ↔ ':' ∈ trim w := by
      rw [mem_trim (by decide), mem_trim (by decide), h.mem_iff (by decide) (by decide)]
    refine effect_read_congr hsign (h.mem_iff (by decide) (by decide)) h.blank_eq_false.1
      h.blank_eq_false.2 ?_
    rw [hkey, readPair_order, readPair_order]
    by_cases hv : ':' ∈ trim v
    · rw [if_pos hv, if_pos (hcolon.1 hv)]
      refine effect_order_congr (Sorting.toOption_read_of_cells_eq ?_)
      rw [Sorting.cells_trim, Sorting.cells_trim, h.cells_eq]
    · rw [if_neg hv, if_neg (mt hcolon.2 hv)]
      rfl
  | @filter key v w hsign hkey h =>
    have hv : ':' ∈ v := h.colon_mem
    have hw : ':' ∈ w := (h.mem_iff (by decide) (by decide)).1 hv
    have hblank {u : Text} (hu : ':' ∈ u) : blank u = false :=
      blank_eq_false_iff.2 ⟨':', hu, by decide⟩
    refine effect_read_congr hsign (h.mem_iff (by decide) (by decide)) (hblank hv) (hblank hw) ?_
    rw [readPair_field hkey, readPair_field hkey]
    exact effect_readField_congr ((mem_trim (by decide)).2 hv) ((mem_trim (by decide)).2 hw)
      h.mapError_read

lemma Noise.exists_eq {t u : Text} (h : Noise t u) :
    ∃ key v w, t = key ++ '=' :: v ∧ u = key ++ '=' :: w := by
  cases h with
  | order => exact ⟨_, _, _, rfl, rfl⟩
  | filter => exact ⟨_, _, _, rfl, rfl⟩

lemma Noise.mem_iff {t u : Text} (h : Noise t u) {x : Char} (hx : isBlank x = false)
    (hne : x ≠ ',') : x ∈ t ↔ x ∈ u := by
  cases h with
  | order _ _ h => simp only [List.mem_append, List.mem_cons, h.mem_iff hx hne]
  | filter _ _ h => simp only [List.mem_append, List.mem_cons, h.mem_iff hx hne]

end Token

/-! ### Query strings -/

namespace Request

/-- The effects of the tokens of a text that are not blank, in order. -/
def effects (t : Text) : List (Except (Option Text) (Request → Request)) :=
  ((t.splitOn '&').filter fun u => !blank u).map fun u => Token.effect (Token.read u)

lemma effects_append_cons (s t : Text) : effects (s ++ '&' :: t) = effects s ++ effects t := by
  rw [effects, List.splitOn_append_cons_self, List.filter_append, List.map_append]
  rfl

lemma effects_of_not_mem {t : Text} (h : '&' ∉ t) (hb : blank t = false) :
    effects t = [Token.effect (Token.read t)] := by
  rw [effects, List.splitOn_eq_singleton h, List.filter_cons_of_pos (by simp [hb])]
  rfl

lemma effects_of_cells_eq {s t : Text} (h : cells '&' '=' s = cells '&' '=' t) :
    effects s = effects t := by
  have hrows := forall₂_of_cells_eq (by decide) h
  rw [effects, effects, ← List.forall₂_eq_eq_eq, List.forall₂_map_left_iff,
    List.forall₂_map_right_iff]
  exact hrows.imp fun _ _ => Token.effect_read_of_parts_eq

lemma effects_trim (t : Text) : effects (trim t) = effects t :=
  effects_of_cells_eq (cells_eq_of_parts_eq (by decide) (parts_trim (by decide) t))

/-- **A query string is known by the effects of its tokens.** -/
lemma mapError_readTokens (r : Request) (ts : List Text) :
    (readTokens r ts).outcome.mapError Fault.kind =
      ((ts.filter fun t => !blank t).map fun t => Token.effect (Token.read t)).foldlM
        (fun r effect => effect.map fun change => change r) r := by
  induction ts generalizing r with
  | nil => rfl
  | cons t ts ih =>
    rw [readTokens]
    by_cases hb : blank t = true
    · rw [List.filter_cons_of_neg (by simp [hb]), Token.read_of_blank hb]
      exact ih r
    · rw [List.filter_cons_of_pos (by simp [hb]), List.map_cons, List.foldlM_cons]
      cases Token.read t with
      | error fault => rfl
      | ok token => exact ih (r.apply token)

lemma mapError_read (s : Text) :
    (read s).outcome.mapError Fault.kind =
      (effects (queryText s)).foldlM (fun r effect => effect.map fun change => change r) {} := by
  rw [read, splitTokens_eq, mapError_readTokens, effects]

lemma effects_of_noise {t u : Text} (h : Token.Noise t u) (hamp : '&' ∉ t) :
    effects t = effects u := by
  have hamp' : '&' ∉ u := mt (h.mem_iff (by decide) (by decide)).2 hamp
  have hread := h.effect_read
  obtain ⟨key, v, w, rfl, rfl⟩ := h.exists_eq
  have hblank (value : Text) : blank (key ++ '=' :: value) = false :=
    blank_eq_false_iff.2 ⟨'=', by simp, by decide⟩
  rw [effects_of_not_mem hamp (hblank v), effects_of_not_mem hamp' (hblank w), hread]

/-! ### The question mark in front -/

lemma exists_front (s : Text) : ∃ front rest, Front front rest ∧ s = front ++ rest := by
  by_cases hmark : (trim s).head? = some '?'
  · obtain ⟨before, after, hbefore, -, hs⟩ := exists_trim s
    obtain ⟨rest, hrest⟩ := List.head?_eq_some_iff.1 hmark
    rw [hrest] at hs
    exact ⟨before ++ ['?'], rest ++ after, .marked hbefore, by simpa using hs⟩
  · exact ⟨[], s, .bare hmark, rfl⟩

namespace Front

variable {front rest rest' : Text}

lemma queryText_eq (h : Front front rest) : queryText (front ++ rest) = trim rest := by
  cases h with
  | bare h => rw [List.nil_append, queryText, if_neg h, trim_trim]
  | @marked before rest hbefore =>
    have htrim : trim (before ++ ['?'] ++ rest) = trim ('?' :: rest) := by
      simpa using trim_between (t := '?' :: rest) hbefore blank_nil
    obtain ⟨s, after, hs, hafter, rfl⟩ := exists_trim_cons (c := '?') (by decide) rest
    have hend : trim (s ++ after) = trim s := by
      simpa using trim_between (t := s) blank_nil hafter
    rw [queryText, htrim, hs, List.head?_cons, if_pos rfl, List.tail_cons, hend]

lemma effects_queryText (h : Front front rest) :
    effects (queryText (front ++ rest)) = effects rest := by
  rw [h.queryText_eq, effects_trim]

/-- The front stays if the rest starts as before, or with anything but a question mark. -/
lemma congr (h : Front front rest)
    (hhead : (trim rest').head? = (trim rest).head? ∨ (trim rest').head? ≠ some '?') :
    Front front rest' := by
  cases h with
  | bare h =>
    refine .bare ?_
    rcases hhead with hhead | hhead
    · rwa [hhead]
    · exact hhead
  | marked hbefore => exact .marked hbefore

/-- What follows the first equals sign of a query string does not matter for the front. -/
lemma of_joined {ts us us' : List Text} {key v w : Text}
    (h : Front front (joined "&" (ts ++ (key ++ '=' :: v) :: us))) :
    Front front (joined "&" (ts ++ (key ++ '=' :: w) :: us')) := by
  have hsign : isBlank '=' = false := by decide
  have hhead (v : Text) (us : List Text) :
      (trim (joined "&" (ts ++ (key ++ '=' :: v) :: us))).head? =
        ((ts.flatMap (fun t => t ++ ("&" : Text)) ++ key).find? fun c => !isBlank c).or
          (some '=') := by
    obtain ⟨rest, hrest⟩ := exists_joined_cons "&" us
    rw [head?_trim, joined_append_cons, hrest]
    simp [hsign]
  exact h.congr (.inl ((hhead w us').trans (hhead v us).symm))

lemma not_mem (h : Front front rest) {x : Char} (hx : isBlank x = false) (hne : x ≠ '?') :
    x ∉ front := by
  cases h with
  | bare => simp
  | marked hbefore => simp [not_mem_of_blank hx hbefore, hne]

end Front

/-- **One piece of noise** leaves the effects of the tokens as they are. -/
lemma Noise.effects_eq {s s' : Text} (h : Noise s s') :
    effects (queryText s) = effects (queryText s') := by
  cases h with
  | ends s hbefore hafter => rw [queryText, queryText, trim_between hbefore hafter]
  | beside h =>
    obtain ⟨front, rest, hfront, rfl⟩ := exists_front s
    have hout : ∀ c ∈ ['&', '='], c ∉ front := by
      simp [hfront.not_mem (x := '&') (by decide) (by decide),
        hfront.not_mem (x := '=') (by decide) (by decide)]
    obtain ⟨rest', rfl, hrest⟩ := h.of_append hout
    have hblank : ∀ c ∈ ['&', '='], isBlank c = false := by simp [isBlank, isSpace]
    have hfront' : Front front rest' := hfront.congr (.inl (hrest.head?_trim hblank).symm)
    rw [hfront.effects_queryText, hfront'.effects_queryText]
    exact effects_of_cells_eq (hrest.cells_eq (by decide) (by decide) (by decide))
  | @token front rest rest' hfront h =>
    have hhead := h.head?_trim (by decide)
    have hfront' : Front front rest' := hfront.congr (hhead.imp_right fun heq => by simp [heq])
    rw [hfront.effects_queryText, hfront'.effects_queryText]
    exact effects_of_cells_eq (h.cells_eq (by decide) (by decide))
  | @value front t u ts us hfront hamp h =>
    have hfront' : Front front (joined "&" (ts ++ u :: us)) := by
      -- the noise comes after an equals sign
      obtain ⟨key, v, w, rfl, rfl⟩ := h.exists_eq
      exact hfront.of_joined
    have hparts (vs : List Text) (hne : vs ≠ []) : effects (joined "&" vs) = vs.flatMap effects :=
      flatMap_of_joined effects_append_cons hne
    rw [hfront.effects_queryText, hfront'.effects_queryText, hparts _ (by simp),
      hparts _ (by simp), List.flatMap_append, List.flatMap_append, List.flatMap_cons,
      List.flatMap_cons, effects_of_noise h hamp]
  | mark h =>
    have hbare : queryText s = trim s := (Front.bare h).queryText_eq
    have hmarked : queryText ('?' :: s) = trim s := (Front.marked blank_nil).queryText_eq
    rw [hbare, hmarked]

/-- **Noise in a query string** does no harm.  However much of it is added, the query string is read
as the same request, or as before it cannot be read, with a fault of the same kind. -/
theorem read_of_noise {s s' : Text} (h : Relation.ReflTransGen Noise s s') :
    (∃ r, (read s).outcome = .ok r ∧ (read s').outcome = .ok r) ∨
      ∃ fault fault', (read s).outcome = .error fault ∧ (read s').outcome = .error fault' ∧
        fault.kind = fault'.kind := by
  have heffects : effects (queryText s) = effects (queryText s') := by
    induction h with
    | refl => rfl
    | tail _ hstep ih => exact ih.trans hstep.effects_eq
  have hread : (read s).outcome.mapError Fault.kind = (read s').outcome.mapError Fault.kind := by
    rw [mapError_read, mapError_read, heffects]
  revert hread
  cases (read s).outcome with
  | ok r =>
    cases (read s').outcome with
    | ok r' =>
      intro hread
      exact .inl ⟨r, rfl, by rw [Except.ok.inj hread]⟩
    | error fault' => rintro ⟨⟩
  | error fault =>
    cases (read s').outcome with
    | ok r' => rintro ⟨⟩
    | error fault' =>
      intro hread
      exact .inr ⟨fault, fault', rfl, rfl, Except.error.inj hread⟩

/-- A question mark, blanks around an equals sign, a blank token, a blank item of the order, blanks
around the colon of the filter, a blank value of it and blanks at both ends, one after the other. -/
theorem read_of_noise_everywhere :
    Relation.ReflTransGen Noise "order=b:asc&a=contains:1"
        " ?order =b:asc, & &a=contains : 1,\x0b\x1f" ∧
      (read "order=b:asc&a=contains:1").outcome =
        .ok ⟨⟨[("a", ⟨.contains, ["1"]⟩)]⟩, ⟨[("b", .ascending)]⟩, 50, 0⟩ ∧
      (read " ?order =b:asc, & &a=contains : 1,\x0b\x1f").outcome =
        .ok ⟨⟨[("a", ⟨.contains, ["1"]⟩)]⟩, ⟨[("b", .ascending)]⟩, 50, 0⟩ := by
  have hmark : Noise "order=b:asc&a=contains:1" "?order=b:asc&a=contains:1" := .mark (by decide)
  have hsign : Noise "?order=b:asc&a=contains:1" "?order =b:asc&a=contains:1" :=
    .beside (@Beside.around _ '=' " " "" "?order" "b:asc&a=contains:1" (by simp) rfl rfl)
  have htoken : Noise "?order =b:asc&a=contains:1" "?order =b:asc& &a=contains:1" :=
    .token (@Front.marked [] _ rfl)
      (@Widened.among '&' " " ["order =b:asc"] ["a=contains:1"] (by simp) rfl)
  have hitem : Noise "?order =b:asc& &a=contains:1" "?order =b:asc, & &a=contains:1" :=
    @Noise.value "?" _ _ [] [" ", "a=contains:1"] (@Front.marked [] _ rfl) (by decide)
      (@Token.Noise.order "order " "b:asc" "b:asc, " (by decide) (by decide)
        (.item ⟨"b:asc", by decide, by decide⟩ (@Widened.among ',' " " ["b:asc"] [] (by simp) rfl)))
  have hcolon : Noise "?order =b:asc, & &a=contains:1" "?order =b:asc, & &a=contains : 1" :=
    @Noise.value "?" _ _ ["order =b:asc, ", " "] [] (@Front.marked [] _ rfl) (by decide)
      (@Token.Noise.filter "a" "contains:1" "contains : 1" (by decide) (by decide)
        (.beside (by decide) (@Beside.around _ ':' " " " " "contains" "1" (by simp) rfl rfl)))
  have hvalue : Noise "?order =b:asc, & &a=contains : 1" "?order =b:asc, & &a=contains : 1,\x0b" :=
    @Noise.value "?" _ _ ["order =b:asc, ", " "] [] (@Front.marked [] _ rfl) (by decide)
      (@Token.Noise.filter "a" "contains : 1" "contains : 1,\x0b" (by decide) (by decide)
        (@Filter.Noise.value "contains " _ _ (@Widened.among ',' "\x0b" [" 1"] [] (by simp) rfl)))
  have hends : Noise "?order =b:asc, & &a=contains : 1,\x0b"
      " ?order =b:asc, & &a=contains : 1,\x0b\x1f" :=
    @Noise.ends " " "\x1f" "?order =b:asc, & &a=contains : 1,\x0b" rfl rfl
  have hnoise := (((((Relation.ReflTransGen.single hmark).tail hsign).tail htoken).tail hitem).tail
    hcolon).tail hvalue |>.tail hends
  have hread : (read "order=b:asc&a=contains:1").outcome =
      .ok ⟨⟨[("a", ⟨.contains, ["1"]⟩)]⟩, ⟨[("b", .ascending)]⟩, 50, 0⟩ := by
    decide
  refine ⟨hnoise, hread, ?_⟩
  rcases read_of_noise hnoise with ⟨r, hr, hr'⟩ | ⟨fault, -, hfault, -, -⟩
  · rw [hr', ← hr, hread]
  · rw [hread] at hfault
    cases hfault

-- of the faults themselves no more can be said, since they hold the text that is at fault
example : (read "a=b=c").outcome = .error (.malformed (.pair "a=b=c")) ∧
    (read "a =b=c").outcome = .error (.malformed (.pair "a =b=c")) := by
  decide

end Request

end Listing
