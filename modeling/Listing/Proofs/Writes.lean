import Mathlib
import Listing.Proofs.Sorting
import Listing.Proofs.Request.Built

/-!
# Maps under any writes

A map of filters or of sort fields is made of pairs or read from a text, and then names are written
into it, in any order and as often as one likes; some writes are refused.  What such a map is to
hold is said by a log of the pairs that were written.  An order that is read logs the pairs that its
segments name.

The map itself keeps no log.  That it holds what the log says is kept by every single write, and
so by any run of them.
-/

namespace Listing

variable {α W : Type}

namespace Fields

/-! ### Work on a map -/

/-- Work on a map, which may be refused. -/
abbrev Work (α : Type) := ExceptT Malformed (StateM (Fields α))

/-- The outcome of the work, and the map after it. -/
def Work.run (p : Work α Unit) (m : Fields α) : Except Malformed Unit × Fields α :=
  StateT.run (ExceptT.run p) m

/-- Changes the map, unless the change is refused. -/
def Work.update (change : Fields α → Except Malformed (Fields α)) : Work α Unit := do
  let m ← get
  let m' ← change m
  MonadStateOf.set m'

lemma Work.run_update (change : Fields α → Except Malformed (Fields α)) (m : Fields α) :
    (update change).run m = match change m with
      | .ok m' => (.ok (), m')
      | .error cause => (.error cause, m) := by
  have hget : (update change).run m = (do
      let m' ← change m
      MonadStateOf.set m' : Work α Unit).run m := rfl
  rw [hget]
  cases change m <;> rfl

/-- The map after writes on none, each of them done or refused. -/
def after (perform : W → Work α Unit) (ws : List W) : Fields α :=
  ws.foldl (fun m w => ((perform w).run m).2) empty

/-- The log of writes, where `logged` says what a write does to the log or why it is refused. -/
def logOf (logged : W → Except Malformed (Log α → Log α)) (ws : List W) : Log α :=
  ws.foldl (fun log w =>
    match logged w with
    | .ok change => change log
    | .error _ => log) []

/-- Work that does to a map what is said to be done to its log: if it is to be refused, it is, and
leaves the map as it was. -/
inductive Follows (p : Work α Unit) (m : Fields α) (log : Log α) :
    Except Malformed (Log α → Log α) → Prop
  | refused {cause : Malformed} : p.run m = (.error cause, m) → Follows p m log (.error cause)
  | done {change : Log α → Log α} {m' : Fields α} : p.run m = (.ok (), m') →
      m'.Holds (change log) → Follows p m log (.ok change)

lemma follows_update_of_error {change : Fields α → Except Malformed (Fields α)} {m : Fields α}
    {log : Log α} {cause : Malformed} (h : change m = .error cause) :
    Follows (.update change) m log (.error cause) :=
  .refused (by rw [Work.run_update, h])

lemma follows_update_of_ok {change : Fields α → Except Malformed (Fields α)} {m m' : Fields α}
    {log : Log α} {logged : Log α → Log α} (h : change m = .ok m') (hm' : m'.Holds (logged log)) :
    Follows (.update change) m log (.ok logged) :=
  .done (by rw [Work.run_update, h]) hm'

/-- **A run of writes.** -/
lemma holds_after {perform : W → Work α Unit} {logged : W → Except Malformed (Log α → Log α)}
    (hstep : ∀ w m log, m.Holds log → Follows (perform w) m log (logged w)) (ws : List W) :
    (after perform ws).Holds (logOf logged ws) := by
  -- by the last write, which is done with what the others left or changes nothing
  induction ws using List.reverseRecOn with
  | nil => exact holds_empty
  | append_singleton ws w ih =>
    have hw := hstep w _ _ ih
    rw [after, List.foldl_concat, ← after, logOf, List.foldl_concat, ← logOf]
    cases hlogged : logged w with
    | error cause =>
      rw [hlogged] at hw
      cases hw with
      | refused hrun => rwa [hrun]
    | ok change =>
      rw [hlogged] at hw
      cases hw with
      | done hrun hholds => rwa [hrun]

/-- What is true of all that a write may log is true of the whole log. -/
lemma forall_mem_logOf {logged : W → Except Malformed (Log α → Log α)} {P : Text × α → Prop}
    {ws : List W}
    (hstep : ∀ w ∈ ws, ∀ change, logged w = .ok change → ∀ log, (∀ e ∈ log, P e) →
      ∀ e ∈ change log, P e) : ∀ e ∈ logOf logged ws, P e := by
  induction ws using List.reverseRecOn with
  | nil => simp [logOf]
  | append_singleton ws w ih =>
    have ih := ih fun w' hw' => hstep w' (List.mem_append_left _ hw')
    rw [logOf, List.foldl_concat, ← logOf]
    cases hlogged : logged w with
    | error cause => exact ih
    | ok change => exact hstep w (by simp) change hlogged _ ih

end Fields

open Fields

/-! ### Sort fields -/

namespace Sorting

/-- A write on sort fields; those that are made anew take the place of those before. -/
inductive Write where
  | ofList (pairs : List (Text × Direction))
  | read (t : Text)
  | set (name : Text) (d : Direction)
deriving DecidableEq, Repr

/-- Does a write. -/
def Write.perform : Write → Work Direction Unit
  | ofList pairs => .update fun _ => .ok (Fields.ofList pairs)
  | read t => .update fun _ => Sorting.read t
  | set name d => .update fun m => .ok (m.set name d)

/-- What a write does to the log, or why it is refused. -/
inductive Write.Logs : Write → Except Malformed (Log Direction → Log Direction) → Prop
  | ofList (pairs : List (Text × Direction)) : Logs (ofList pairs) (.ok fun _ => pairs)
  /-- An order has the pairs that its segments name, -/
  | read {t : Text} {pairs : List (Text × Direction)} : List.Forall₂ Names (segments t) pairs →
      Logs (read t) (.ok fun _ => pairs)
  /-- or is refused for its first faulty segment. -/
  | faulty {t s : Text} {before after : List Text} {cause : Malformed} :
      t.splitOn ',' = before ++ s :: after →
      (∀ u ∈ before, Text.blank u = true ∨ ∃ e, Names u e) → Faulty s cause →
      Logs (read t) (.error cause)
  | set (name : Text) (d : Direction) : Logs (set name d) (.ok fun log => log ++ [(name, d)])

lemma Write.exists_logs (w : Write) : ∃ change, w.Logs change := by
  cases w with
  | ofList pairs => exact ⟨_, .ofList pairs⟩
  | read t =>
    cases hread : Sorting.read t with
    | ok m =>
      obtain ⟨pairs, hpairs, -⟩ := read_eq_ok_iff.1 hread
      exact ⟨_, .read hpairs⟩
    | error cause =>
      obtain ⟨before, s, after, hsplit, hbefore, hfaulty⟩ := read_eq_error_iff.1 hread
      exact ⟨_, .faulty hsplit hbefore hfaulty⟩
  | set name d => exact ⟨_, .set name d⟩

lemma follows_perform {w : Write} {change : Except Malformed (Log Direction → Log Direction)}
    (hw : w.Logs change) {m : Sorting} {log : Log Direction} (h : m.Holds log) :
    Follows w.perform m log change := by
  cases hw with
  | ofList pairs => exact follows_update_of_ok rfl (holds_ofList pairs)
  | read hpairs =>
    exact follows_update_of_ok (read_eq_ok_iff.2 ⟨_, hpairs, rfl⟩) (holds_ofList _)
  | faulty hsplit hbefore hfaulty =>
    exact follows_update_of_error (read_eq_error_iff.2 ⟨_, _, _, hsplit, hbefore, hfaulty⟩)
  | set name d => exact follows_update_of_ok rfl (h.set name d)

end Sorting

/-! ### Filters -/

namespace Filters

/-- A write on filters; those that are made anew take the place of those before. -/
inductive Write where
  | ofList (pairs : List (Text × Filter))
  | insert (name : Text) (f : Filter)
  | compare (name : Text) (c : Comparison) (values : List Text)
deriving DecidableEq, Repr

/-- Does a write. -/
def Write.perform : Write → Work Filter Unit
  | ofList pairs => .update fun _ => Filters.ofList pairs
  | insert name f => .update fun m : Filters => m.insert name f
  | compare name c values => .update fun m : Filters => m.compare name c values

/-- What the write of a name does to the log; a reserved name is refused. -/
def loggedAt (name : Text) (f : Filter) : Except Malformed (Log Filter → Log Filter) :=
  if reserved.contains name then .error (.filter name) else .ok fun log => log ++ [(name, f)]

/-- What a write does to the log; of several reserved names the first is the one refused. -/
def Write.logged : Write → Except Malformed (Log Filter → Log Filter)
  | ofList pairs =>
    match (pairs.map Prod.fst).find? reserved.contains with
    | some name => .error (.filter name)
    | none => .ok fun _ => pairs
  | insert name f => loggedAt name f
  | compare name c values => loggedAt name ⟨c, values.filter fun v => !Text.blank v⟩

/-- No filter that is written as it is holds a blank value. -/
def Write.Solid : Write → Prop
  | ofList pairs => ∀ e ∈ pairs, ∀ v ∈ e.2.values, Text.blank v = false
  | insert _ f => ∀ v ∈ f.values, Text.blank v = false
  | compare _ _ _ => True

lemma follows_insert {m : Filters} {log : Log Filter} (h : m.Holds log) (name : Text)
    (f : Filter) :
    Follows (.update fun m : Filters => m.insert name f) m log (loggedAt name f) := by
  rw [loggedAt]
  by_cases hname : name ∈ reserved
  · rw [if_pos (List.contains_iff_mem.2 hname)]
    exact follows_update_of_error (insert_eq_error hname f)
  · rw [if_neg (mt List.contains_iff_mem.1 hname)]
    exact follows_update_of_ok (insert_eq_ok_iff.2 ⟨hname, rfl⟩) (h.set name f)

lemma follows_perform (w : Write) {m : Filters} {log : Log Filter} (h : m.Holds log) :
    Follows w.perform m log w.logged := by
  cases w with
  | ofList pairs =>
    rw [Write.perform, Write.logged, ofList_eq]
    cases (pairs.map Prod.fst).find? reserved.contains with
    | some name => exact follows_update_of_error rfl
    | none => exact follows_update_of_ok rfl (holds_ofList pairs)
  | insert name f => exact follows_insert h name f
  | compare name c values => exact follows_insert h name _

/-- What is logged holds no blank value. -/
lemma blank_of_mem_logged {w : Write} (hw : w.Solid) {change : Log Filter → Log Filter}
    (h : w.logged = .ok change) {log : Log Filter}
    (hlog : ∀ e ∈ log, ∀ v ∈ e.2.values, Text.blank v = false) :
    ∀ e ∈ change log, ∀ v ∈ e.2.values, Text.blank v = false := by
  have hinsert {name : Text} {f : Filter} (hf : ∀ v ∈ f.values, Text.blank v = false)
      (h : loggedAt name f = .ok change) :
      ∀ e ∈ change log, ∀ v ∈ e.2.values, Text.blank v = false := by
    rw [loggedAt] at h
    split at h
    · cases h
    · rw [← Except.ok.inj h]
      intro e he
      rcases List.mem_append.1 he with he | he
      · exact hlog e he
      · rw [List.mem_singleton.1 he]
        exact hf
  cases w with
  | ofList pairs =>
    rw [Write.logged] at h
    split at h
    · cases h
    · rw [← Except.ok.inj h]
      exact hw
  | insert name f => exact hinsert hw h
  | compare name c values => exact hinsert (fun v hv => by simpa using (List.mem_filter.1 hv).2) h

end Filters

/-- **Whatever is written** into sort fields or filters, in any order and with any repetition, the
map holds what the log of its writes says.  Whatever is written next does what the log says too: a
write under a reserved name, or of an order that cannot be read, is refused and leaves the map as
it was.  And no filter holds a blank value, provided that none is written as it is with one. -/
theorem holds_after_writes :
    ((∀ w : Sorting.Write, ∃ change, w.Logs change) ∧
      ∀ logged : Sorting.Write → Except Malformed (Log Direction → Log Direction),
        (∀ w, Sorting.Write.Logs w (logged w)) → ∀ ws : List Sorting.Write,
          (after Sorting.Write.perform ws).Holds (logOf logged ws) ∧
          ∀ w : Sorting.Write, Follows w.perform (after Sorting.Write.perform ws)
            (logOf logged ws) (logged w)) ∧
    ∀ ws : List Filters.Write,
      (after Filters.Write.perform ws).Holds (logOf Filters.Write.logged ws) ∧
      (∀ w : Filters.Write, Follows w.perform (after Filters.Write.perform ws)
        (logOf Filters.Write.logged ws) w.logged) ∧
      ((∀ w ∈ ws, w.Solid) → ∀ e ∈ (after Filters.Write.perform ws).entries,
        ∀ v ∈ e.2.values, Text.blank v = false) := by
  refine ⟨⟨Sorting.Write.exists_logs, fun logged hlogs ws => ?_⟩, fun ws => ?_⟩
  · have hholds := holds_after (fun w _ _ => Sorting.follows_perform (hlogs w)) ws
    exact ⟨hholds, fun w => Sorting.follows_perform (hlogs w) hholds⟩
  · have hholds := holds_after (fun w _ _ => Filters.follows_perform w) ws
    refine ⟨hholds, fun w => Filters.follows_perform w hholds, fun hsolid e he => ?_⟩
    exact forall_mem_logOf (fun w hw _ h _ => Filters.blank_of_mem_logged (hsolid w hw) h) e
      (hholds.mem_log he)

/-- Names that are written again, a reserved name among others, and filters that are not made at all
because of one. -/
theorem holds_after_writes_refused :
    after Filters.Write.perform
        [.ofList [("a", ⟨.equals, ["1"]⟩), ("b", ⟨.contains, ["x"]⟩), ("a", ⟨.less, ["2"]⟩)],
          .insert "limit" ⟨.equals, ["7"]⟩, .compare "c" .less ["3", " "],
          .ofList [("z", ⟨.equals, ["1"]⟩), ("order", ⟨.equals, []⟩)],
          .compare "a" .between ["1", "", "9"]] =
        ⟨[("a", ⟨.between, ["1", "9"]⟩), ("b", ⟨.contains, ["x"]⟩), ("c", ⟨.less, ["3"]⟩)]⟩ ∧
      ∀ e ∈ (after Filters.Write.perform
          [.ofList [("a", ⟨.equals, ["1"]⟩), ("b", ⟨.contains, ["x"]⟩), ("a", ⟨.less, ["2"]⟩)],
            .insert "limit" ⟨.equals, ["7"]⟩, .compare "c" .less ["3", " "],
            .ofList [("z", ⟨.equals, ["1"]⟩), ("order", ⟨.equals, []⟩)],
            .compare "a" .between ["1", "", "9"]]).entries,
        ∀ v ∈ e.2.values, Text.blank v = false := by
  refine ⟨by decide, (holds_after_writes.2 _).2.2 ?_⟩
  simp only [List.forall_mem_cons, Filters.Write.Solid, List.not_mem_nil, false_imp_iff,
    implies_true, and_true, true_and]
  decide

end Listing
