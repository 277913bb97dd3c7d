import Mathlib
import Listing.Proofs.Request.Page
import Listing.Proofs.Request.Range

/-!
# Requests under editing

Requests are made, copied and changed in place, in any order and as often as one likes.  An
operation speaks of a request by the number that this was given when it was made; it changes one
request or makes a further one, or it is refused, and then the work goes on with the next.

Whatever is done, every request is well formed, and an operation that is refused leaves all
requests as they were.  This is not so because of how operations are put together: work on the
requests that is refused halfway keeps what it has done so far.  It holds since every operation
comes to its refusal, if there is one, before it writes.
-/

namespace Listing.Editing

/-- Why an operation is refused. -/
inductive Refusal where
  /-- No request has the number. -/
  | noRequest (i : ℕ)
  /-- The request has no filter on the field. -/
  | noFilter (name : Text)
  /-- A filter or an order cannot be read, or a name is reserved. -/
  | malformed (cause : Malformed)
  /-- A query string cannot be read. -/
  | unreadable (fault : Fault)
  /-- Numbers of the page are out of range. -/
  | page (faults : List (PageKey × PageFault))
deriving DecidableEq, Repr

/-- Work on the requests that have been made so far. -/
abbrev Edit := ExceptT Refusal (StateM (List Request))

variable {α β ε : Type} {s s' : List Request} {i : ℕ}

/-- The result of the work or its refusal, and the requests after it. -/
def run (p : Edit α) (s : List Request) : Except Refusal α × List Request :=
  (ExceptT.run p).run s

/-! ### Operations -/

/-- The request with a number. -/
def fetch (i : ℕ) : Edit Request := do
  match (← get)[i]? with
  | some r => pure r
  | none => throw (.noRequest i)

/-- Writes a request, unless it is refused. -/
def commit (x : Except Refusal Request) (write : Request → List Request → List Request) :
    Edit Unit := do
  let r ← x
  modify (write r)

/-- Adds a request. -/
def make (x : Except Refusal Request) : Edit Unit :=
  commit x fun r s => s ++ [r]

/-- Adds a request that is made out of another one. -/
def copy (i : ℕ) (change : Request → Except Refusal Request) : Edit Unit := do
  let r ← fetch i
  make (change r)

/-- Changes a request in place. -/
def amend (i : ℕ) (change : Request → Except Refusal Request) : Edit Unit := do
  let r ← fetch i
  commit (change r) fun r' s => s.set i r'

/-- Where a filter comes from. -/
inductive Origin where
  | of (c : Comparison) (values : List Text)
  | read (text : Text)
  /-- The filter that a request has on a field. -/
  | held (i : ℕ) (name : Text)
  | append (origin : Origin) (value : Text)
deriving DecidableEq, Repr

/-- The filter that comes from an origin. -/
def Origin.filter : Origin → Edit Filter
  | of c values => pure (.of c values)
  | read t => ((Filter.read t).mapError .malformed : Except Refusal Filter)
  | held i name => do
    let r ← fetch i
    match r.filters.get? name with
    | some f => pure f
    | none => throw (.noFilter name)
  | append origin v => do
    let f ← origin.filter
    pure (f.append v)

/-- What is done with requests. -/
inductive Operation where
  | default
  | init (limit offset : ℤ)
  | read (search : Text)
  | reread (i : ℕ)
  | keep (i : ℕ) (names : List Text)
  | drop (i : ℕ) (names : List Text)
  | clamp (i : ℕ) (cap : ℤ)
  | compare (i : ℕ) (name : Text) (c : Comparison) (values : List Text)
  | insert (i : ℕ) (name : Text) (origin : Origin)
  | sort (i : ℕ) (name : Text) (d : Direction)
  | setSorting (i : ℕ) (text : Text)
  | setPage (i : ℕ) (key : PageKey) (n : ℤ)
deriving DecidableEq, Repr

/-- The request with other filters, unless these are malformed. -/
def withFilters (r : Request) (filters : Except Malformed Filters) : Except Refusal Request :=
  (filters.map fun m => { r with filters := m }).mapError .malformed

/-- The request with another order, unless this is malformed. -/
def withSorting (r : Request) (sorting : Except Malformed Sorting) : Except Refusal Request :=
  (sorting.map fun m => { r with sorting := m }).mapError .malformed

/-- The request that a query string asks for. -/
def readSearch (search : Text) : Except Refusal Request :=
  (Request.read search).outcome.mapError .unreadable

/-- Does an operation. -/
def Operation.perform : Operation → Edit Unit
  | default => make (.ok {})
  | init limit offset => make ((Request.ofParts {} {} limit offset).mapError .page)
  | read search => make (readSearch search)
  | reread i => copy i fun r => readSearch r.text
  | keep i names => copy i fun r => .ok (r.keep names)
  | drop i names => copy i fun r => .ok (r.drop names)
  | clamp i cap => copy i fun r => (r.clamp cap).mapError fun fault => .page [(.limit, fault)]
  | compare i name c values =>
    amend i fun r => withFilters r (r.filters.compare name c values)
  | insert i name origin => do
    let f ← origin.filter
    amend i fun r => withFilters r (r.filters.insert name f)
  | sort i name d => amend i fun r => .ok { r with sorting := r.sorting.set name d }
  | setSorting i t => amend i fun r => withSorting r (Sorting.read t)
  | setPage i key n =>
    amend i fun r => (r.setPage? key n).mapError fun fault => .page [(key, fault)]

/-- The requests after operations on none, each of them done or refused. -/
def after (ops : List Operation) : List Request :=
  ops.foldl (fun s op => (run op.perform s).2) []

example : after [.default, .compare 0 "limit" .equals ["1"], .clamp 0 7, .setPage 1 .limit (-1),
    .compare 0 "a" .equals ["1", " "]] =
      [{ filters := ⟨[("a", ⟨.equals, ["1"]⟩)]⟩ }, { limit := 7 }] := by
  decide

/-! ### Refusals -/

/-- There is no filter of this origin. -/
def Origin.Refused (s : List Request) : Origin → Prop
  | of _ _ => False
  | read t => ∃ cause, Filter.read t = .error cause
  | held i name => ∀ r ∈ s[i]?, r.filters.get? name = none
  | append origin _ => origin.Refused s

/-- A query string cannot be read. -/
def Unreadable (search : Text) : Prop :=
  ∃ fault, (Request.read search).outcome = .error fault

/-- The operation is refused, be it only because the request that it speaks of is not there. -/
def Operation.Refused (s : List Request) : Operation → Prop
  | default => False
  | init limit offset => ¬((0 ≤ limit ∧ limit ≤ maxPage) ∧ 0 ≤ offset ∧ offset ≤ maxPage)
  | read search => Unreadable search
  | reread i => ∀ r ∈ s[i]?, Unreadable r.text
  | keep i _ => ∀ r ∈ s[i]?, False
  | drop i _ => ∀ r ∈ s[i]?, False
  | clamp i cap => ∀ r ∈ s[i]?, cap < 0
  | compare i name _ _ => ∀ r ∈ s[i]?, name ∈ Filters.reserved
  | insert i name origin => origin.Refused s ∨ ∀ r ∈ s[i]?, name ∈ Filters.reserved
  | sort i _ _ => ∀ r ∈ s[i]?, False
  | setSorting i t => ∀ r ∈ s[i]?, ∃ cause, Sorting.read t = .error cause
  | setPage i _ n => ∀ r ∈ s[i]?, n < 0 ∨ maxPage < n

/-- Work that is refused on a condition, and then leaves all requests as they are, and that else
has a result and leaves requests with a property. -/
inductive Does (p : Edit α) (s : List Request) (refused : Prop) (post : α → List Request → Prop) :
    Prop
  | refused {refusal : Refusal} : refused → run p s = (.error refusal, s) → Does p s refused post
  | done {a : α} {s' : List Request} : ¬refused → run p s = (.ok a, s') → post a s' →
      Does p s refused post

/-- Work after which all requests are well formed, and that is refused on a condition. -/
def Sound (p : Edit α) (s : List Request) (refused : Prop) : Prop :=
  Does p s refused fun _ s' => ∀ r ∈ s', r.WellFormed

/-! ### Steps of the work -/

lemma run_bind_of_ok {p : Edit α} {f : α → Edit β} {a : α} (h : run p s = (.ok a, s')) :
    run (p >>= f) s = run (f a) s' := by
  simp only [run, ExceptT.run, StateT.run, bind, ExceptT.bind, ExceptT.mk, StateT.bind] at h ⊢
  rw [h]
  rfl

lemma run_bind_of_error {p : Edit α} {f : α → Edit β} {refusal : Refusal}
    (h : run p s = (.error refusal, s')) : run (p >>= f) s = (.error refusal, s') := by
  simp only [run, ExceptT.run, StateT.run, bind, ExceptT.bind, ExceptT.mk, StateT.bind] at h ⊢
  rw [h]
  rfl

lemma run_fetch (i : ℕ) (s : List Request) :
    run (fetch i) s = (match s[i]? with
      | some r => .ok r
      | none => .error (.noRequest i), s) := by
  have hget : run (get : Edit (List Request)) s = (.ok s, s) := rfl
  rw [fetch, run_bind_of_ok hget]
  cases s[i]? <;> rfl

/-- Work that goes on from a request is refused, too, if the request is not there. -/
lemma does_fetch {f : Request → Edit α} {refused : Request → Prop}
    {post : α → List Request → Prop}
    (h : ∀ r ∈ s[i]?, Does (f r) s (refused r) post) :
    Does (fetch i >>= f) s (∀ r ∈ s[i]?, refused r) post := by
  have hrun := run_fetch i s
  cases hi : s[i]? with
  | none =>
    -- whatever is asked of a request that is not there holds
    rw [hi] at hrun
    exact .refused (by simp) (run_bind_of_error hrun)
  | some r =>
    rw [hi] at hrun
    have hbind : run (fetch i >>= f) s = run (f r) s := run_bind_of_ok hrun
    simp only [Option.mem_some_iff, forall_eq']
    cases h r hi with
    | refused hrefused hf => exact .refused hrefused (hbind.trans hf)
    | done hrefused hf hpost => exact .done hrefused (hbind.trans hf) hpost

/-- An outcome that is a well-formed request, unless it is refused on a condition. -/
inductive Yields (x : Except Refusal Request) (refused : Prop) : Prop
  | refused {refusal : Refusal} : refused → x = .error refusal → Yields x refused
  | done {r : Request} : ¬refused → x = .ok r → r.WellFormed → Yields x refused

lemma run_commit_of_ok {r : Request} (write : Request → List Request → List Request) :
    run (commit (.ok r) write) s = (.ok (), write r s) := rfl

lemma run_commit_of_error {refusal : Refusal}
    (write : Request → List Request → List Request) :
    run (commit (.error refusal) write) s = (.error refusal, s) := rfl

lemma sound_commit {x : Except Refusal Request} {write : Request → List Request → List Request}
    {refused : Prop} (h : Yields x refused)
    (hwrite : ∀ r : Request, r.WellFormed → ∀ q ∈ write r s, q.WellFormed) :
    Sound (commit x write) s refused := by
  cases h with
  | @refused refusal hrefused hx =>
    subst hx
    exact .refused hrefused (run_commit_of_error write)
  | @done r hrefused hx hr =>
    subst hx
    exact .done hrefused (run_commit_of_ok write) (hwrite r hr)

section Sound

variable (hs : ∀ r ∈ s, r.WellFormed)
include hs

lemma sound_make {x : Except Refusal Request} {refused : Prop} (h : Yields x refused) :
    Sound (make x) s refused := by
  refine sound_commit h fun r hr q hq => ?_
  rcases List.mem_append.1 hq with hq | hq
  · exact hs q hq
  · rw [List.mem_singleton.1 hq]
    exact hr

variable {change : Request → Except Refusal Request} {refused : Request → Prop}

lemma sound_copy (h : ∀ r : Request, r.WellFormed → Yields (change r) (refused r)) :
    Sound (copy i change) s (∀ r ∈ s[i]?, refused r) :=
  does_fetch fun r hr => sound_make hs (h r (hs r (List.mem_of_getElem? hr)))

lemma sound_amend (h : ∀ r : Request, r.WellFormed → Yields (change r) (refused r)) :
    Sound (amend i change) s (∀ r ∈ s[i]?, refused r) := by
  refine does_fetch fun r hr => sound_commit (h r (hs r (List.mem_of_getElem? hr))) ?_
  intro r' hr' q hq
  rcases List.mem_or_eq_of_mem_set hq with hq | rfl
  · exact hs q hq
  · exact hr'

/-- A filter that comes from somewhere holds no blank value, and to look for it changes nothing. -/
lemma does_filter (origin : Origin) :
    Does origin.filter s (origin.Refused s) fun f s' =>
      s' = s ∧ ∀ v ∈ f.values, Text.blank v = false := by
  induction origin with
  | of c values =>
    have hrun : run (Origin.of c values).filter s = (.ok (.of c values), s) := rfl
    exact .done id hrun ⟨rfl, fun v hv => Filter.blank_of_mem_of hv⟩
  | read t =>
    cases hread : Filter.read t with
    | error cause =>
      have hrun : run (Origin.read t).filter s = (.error (.malformed cause), s) := by
        rw [Origin.filter, hread]
        rfl
      exact .refused ⟨cause, hread⟩ hrun
    | ok f =>
      have hrun : run (Origin.read t).filter s = (.ok f, s) := by
        rw [Origin.filter, hread]
        rfl
      exact .done (by simp [Origin.Refused, hread]) hrun ⟨rfl, Filter.solid_of_read hread⟩
  | held i name =>
    refine does_fetch fun r hr => ?_
    cases hget : r.filters.get? name with
    | none =>
      have hrun : run (throw (.noFilter name) : Edit Filter) s = (.error (.noFilter name), s) := rfl
      exact .refused rfl hrun
    | some f =>
      have hrun : run (pure f : Edit Filter) s = (.ok f, s) := rfl
      have hsolid := (hs r (List.mem_of_getElem? hr)).filters.solid _ (Fields.mem_of_get? hget)
      exact .done (by simp) hrun ⟨rfl, hsolid⟩
  | append origin v ih =>
    cases ih with
    | refused hrefused hrun => exact .refused hrefused (run_bind_of_error hrun)
    | @done f s' hrefused hrun hpost =>
      exact .done hrefused (run_bind_of_ok hrun) ⟨hpost.1, fun v hv => Filter.blank_of_mem_of hv⟩

end Sound

/-! ### The changes -/

lemma yields_mapError {x : Except ε Request} {f : ε → Refusal} {refused : Prop}
    (herror : (∃ e, x = .error e) ↔ refused) (hok : ∀ r, x = .ok r → r.WellFormed) :
    Yields (x.mapError f) refused := by
  cases x with
  | error e => exact .refused (herror.1 ⟨e, rfl⟩) rfl
  | ok r => exact .done (fun h => by simpa using herror.2 h) rfl (hok r rfl)

lemma yields_map {x : Except ε α} {g : α → Request} {f : ε → Refusal} {refused : Prop}
    (herror : (∃ e, x = .error e) ↔ refused) (hok : ∀ a, x = .ok a → (g a).WellFormed) :
    Yields ((x.map g).mapError f) refused := by
  cases x with
  | error e => exact .refused (herror.1 ⟨e, rfl⟩) rfl
  | ok a => exact .done (fun h => by simpa using herror.2 h) rfl (hok a rfl)

lemma yields_readSearch (search : Text) : Yields (readSearch search) (Unreadable search) :=
  yields_mapError Iff.rfl fun _ h => (Request.readable_of_read h).wellFormed

section Changes

variable {r : Request} (hr : r.WellFormed)
include hr

/-- A filter without blank values is written unless its field has a reserved name. -/
lemma yields_insert {name : Text} {f : Filter} (hf : ∀ v ∈ f.values, Text.blank v = false) :
    Yields (withFilters r (r.filters.insert name f)) (name ∈ Filters.reserved) := by
  refine yields_map Filters.insert_eq_error_iff fun m hm => ?_
  obtain ⟨hname, rfl⟩ := Filters.insert_eq_ok_iff.1 hm
  exact ⟨hr.filters.set hname hf, hr.nodup, hr.limit_le, hr.offset_le⟩

lemma yields_setSorting (t : Text) :
    Yields (withSorting r (Sorting.read t)) (∃ cause, Sorting.read t = .error cause) := by
  refine yields_map Iff.rfl fun m hm => ?_
  exact ⟨hr.filters, (Sorting.nodup_and_named_of_read hm).1, hr.limit_le, hr.offset_le⟩

lemma yields_setPage (key : PageKey) (n : ℤ) :
    Yields ((r.setPage? key n).mapError fun fault => .page [(key, fault)])
      (n < 0 ∨ maxPage < n) := by
  refine yields_mapError Request.setPage?_eq_error_iff fun r' hr' => ?_
  obtain ⟨hn, rfl⟩ := Request.setPage?_eq_ok_iff.1 hr'
  cases key with
  | limit => exact ⟨hr.filters, hr.nodup, by simp only [Request.setPage]; omega, hr.offset_le⟩
  | offset => exact ⟨hr.filters, hr.nodup, hr.limit_le, by simp only [Request.setPage]; omega⟩

lemma yields_clamp (cap : ℤ) :
    Yields ((r.clamp cap).mapError fun fault => .page [(.limit, fault)]) (cap < 0) := by
  refine yields_mapError (Request.clamp_eq_error_iff hr.limit_le) fun r' hr' => ?_
  obtain ⟨-, rfl⟩ := (Request.clamp_eq_ok_iff hr.limit_le).1 hr'
  exact ⟨hr.filters, hr.nodup, (min_le_left _ _).trans hr.limit_le, hr.offset_le⟩

end Changes

/-! ### Operations and runs of them -/

lemma yields_ofParts {limit offset : ℤ} :
    Yields ((Request.ofParts {} {} limit offset).mapError .page)
      ¬((0 ≤ limit ∧ limit ≤ maxPage) ∧ 0 ≤ offset ∧ offset ≤ maxPage) := by
  refine yields_mapError ?_ fun r hr => ?_
  · rw [← Request.pageFaults_eq_nil, Request.ofParts]
    split
    · next h => simp [h]
    · next h => simpa using h
  · exact Request.built_iff.1 (.ofParts .empty .empty hr)

/-- **One operation** keeps all requests well formed, and changes nothing if it is refused. -/
lemma sound_perform (hs : ∀ r ∈ s, r.WellFormed) (op : Operation) :
    Sound op.perform s (op.Refused s) := by
  have hdone {r : Request} (h : r.WellFormed) : Yields (.ok r) False := .done id rfl h
  cases op with
  | default => exact sound_make hs (hdone Request.readable_empty.wellFormed)
  | init limit offset => exact sound_make hs yields_ofParts
  | read search => exact sound_make hs (yields_readSearch search)
  | reread i => exact sound_copy hs fun r _ => yields_readSearch r.text
  | keep i names => exact sound_copy hs fun r hr => hdone (hr.keep names)
  | drop i names => exact sound_copy hs fun r hr => hdone (hr.drop names)
  | clamp i cap => exact sound_copy hs fun r hr => yields_clamp hr cap
  | compare i name c values =>
    exact sound_amend hs fun r hr => yields_insert hr fun v hv => Filter.blank_of_mem_of hv
  | insert i name origin =>
    -- the filter is looked for first, and the request is found as it was before
    cases does_filter hs origin with
    | refused hrefused hrun => exact .refused (.inl hrefused) (run_bind_of_error hrun)
    | @done f s' hrefused hrun hpost =>
      obtain ⟨rfl, hsolid⟩ := hpost
      have hrun := run_bind_of_ok (f := fun f => amend i fun r =>
        withFilters r (r.filters.insert name f)) hrun
      have hamend : Sound (amend i fun r => withFilters r (r.filters.insert name f)) s'
          (∀ r ∈ s'[i]?, name ∈ Filters.reserved) :=
        sound_amend hs fun r hr => yields_insert hr hsolid
      cases hamend with
      | refused h hamend => exact .refused (.inr h) (hrun.trans hamend)
      | done h hamend hpost => exact .done (not_or.2 ⟨hrefused, h⟩) (hrun.trans hamend) hpost
  | sort i name d =>
    exact sound_amend hs fun r hr => hdone
      ⟨hr.filters, Fields.nodup_names_set hr.nodup name d, hr.limit_le, hr.offset_le⟩
  | setSorting i t => exact sound_amend hs fun r hr => yields_setSorting hr t
  | setPage i key n => exact sound_amend hs fun r hr => yields_setPage hr key n

lemma wellFormed_after (ops : List Operation) : ∀ r ∈ after ops, r.WellFormed := by
  -- by the last operation: it is done with what the others left, or it changes nothing
  induction ops using List.reverseRecOn with
  | nil => simp [after]
  | append_singleton ops op ih =>
    rw [after, List.foldl_concat]
    cases sound_perform ih op with
    | refused _ hrun =>
      rw [← after, hrun]
      exact ih
    | done _ hrun hpost =>
      rw [← after, hrun]
      exact hpost

/-- **Whatever is done with requests**, all of them are well formed at every time: no field has two
filters, none with a filter has a reserved name, no filter holds a blank value, nothing is sorted
by a field twice, and the page is in range.  And whatever is done next is refused exactly on the
condition of the operation, and then all requests are as they were. -/
theorem sound_after (ops : List Operation) (op : Operation) :
    (∀ r ∈ after ops, r.WellFormed) ∧
      Sound op.perform (after ops) (op.Refused (after ops)) :=
  ⟨wellFormed_after ops, sound_perform (wellFormed_after ops) op⟩

end Listing.Editing
