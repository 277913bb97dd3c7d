import Mathlib
import Listing.Run

/-!
# The statements and the deeds of a run

Which statements a run hands to the database, put together from the parts of the run: the parts that
go on with a result add their statements to those before, and a fault adds none.  The same is said
of the deeds of a run, which are all of its events but the log: the closing of the database comes
last, and the threshold of the log takes none of them away.
-/

namespace Listing

/-- Whether an event is an entry of the log. -/
def Event.isLogged : Event → Bool
  | .logged _ => true
  | _ => false

namespace Run

variable {α β ε : Type}

/-! ### Statements -/

lemma mem_statements_iff {x : Run α} {s : Statement} :
    s ∈ x.statements ↔ Event.executed s ∈ x.events := by
  rw [statements, List.mem_filterMap]
  constructor
  · rintro ⟨e, he, hs⟩
    cases e with
    | executed t => exact Option.some.inj hs ▸ he
    | _ => cases hs
  · intro h
    exact ⟨_, h, rfl⟩

lemma mem_statements_bind {x : Run α} {f : α → Run β} {s : Statement} :
    s ∈ (x >>= f).statements ↔
      s ∈ x.statements ∨ ∃ a, x.outcome = .ok a ∧ s ∈ (f a).statements := by
  obtain ⟨events, outcome⟩ := x
  cases outcome with
  | ok a => simp [mem_statements_iff]
  | error e => simp [mem_statements_iff]

@[simp] lemma statements_lift (failure : ε → Failure) (x : Except ε α) :
    (lift failure x).statements = [] := by
  cases x <;> rfl

lemma mem_statements_emit {e : Event} {s : Statement} :
    s ∈ (emit e).statements ↔ e = .executed s := by
  rw [mem_statements_iff, emit, List.mem_singleton, eq_comm]

lemma lift_eq_ok_iff {failure : ε → Failure} {x : Except ε α} {a : α} :
    (lift failure x).outcome = .ok a ↔ x = .ok a := by
  cases x <;> simp [lift]

/-! ### Deeds -/

/-- The events of a run, apart from its log. -/
def deeds (x : Run α) : List Event :=
  x.events.filter fun e => !e.isLogged

lemma deeds_bind_of_ok {x : Run α} {a : α} (h : x.outcome = .ok a) (f : α → Run β) :
    (x >>= f).deeds = x.deeds ++ (f a).deeds := by
  obtain ⟨events, outcome⟩ := x
  obtain rfl : outcome = .ok a := h
  simp [deeds]

lemma outcome_bind_of_ok {x : Run α} {a : α} (h : x.outcome = .ok a) (f : α → Run β) :
    (x >>= f).outcome = (f a).outcome := by
  obtain ⟨events, outcome⟩ := x
  obtain rfl : outcome = .ok a := h
  rfl

lemma bind_of_error {x : Run α} {e : Failure} (h : x.outcome = .error e) (f : α → Run β) :
    x >>= f = ⟨x.events, .error e⟩ := by
  obtain ⟨events, outcome⟩ := x
  obtain rfl : outcome = .error e := h
  rfl

lemma lift_ok_bind (failure : ε → Failure) (a : α) (f : α → Run β) :
    lift failure (.ok a) >>= f = f a := rfl

lemma lift_error_bind (failure : ε → Failure) (e : ε) (f : α → Run β) :
    lift failure (.error e) >>= f = ⟨[], .error (failure e)⟩ := rfl

lemma outcome_lift (failure : ε → Failure) (x : Except ε α) :
    (lift failure x).outcome = x.mapError failure := by
  cases x <;> rfl

@[simp] lemma deeds_lift (failure : ε → Failure) (x : Except ε α) :
    (lift failure x).deeds = [] := by
  cases x <;> rfl

lemma deeds_emit_bind {e : Event} (h : e.isLogged = false) (f : Unit → Run α) :
    (emit e >>= f).deeds = e :: (f ()).deeds := by
  simp [emit, deeds, h]

@[simp] lemma deeds_closing (x : Run α) : x.closing.deeds = x.deeds ++ [.closed] := by
  simp [closing, deeds, Event.isLogged]

@[simp] lemma deeds_atLeast (threshold : Level) (x : Run α) :
    (x.atLeast threshold).deeds = x.deeds := by
  simp only [deeds, atLeast, List.filter_filter]
  refine List.filter_congr fun e _ => ?_
  cases e <;> rfl

lemma output_deeds (x : Run α) : (⟨x.deeds, x.outcome⟩ : Run α).output = x.output := by
  simp only [output, deeds, List.filterMap_filter]
  refine List.filterMap_congr fun e _ => ?_
  cases e <;> rfl

lemma statements_deeds (x : Run α) :
    (⟨x.deeds, x.outcome⟩ : Run α).statements = x.statements := by
  simp only [statements, deeds, List.filterMap_filter]
  refine List.filterMap_congr fun e _ => ?_
  cases e <;> rfl

/-- A complaint at the end of a run is the last line of the error output, whatever the threshold of
the log. -/
lemma getLast?_errorOutput_atLeast (threshold : Level) (events : List Event) (line : Text)
    (outcome : Except Failure α) :
    ((⟨events ++ [.complained line], outcome⟩ : Run α).atLeast threshold).errorOutput.getLast? =
      some line := by
  simp [errorOutput, atLeast]

end Run

end Listing
