import Mathlib
import Listing.Proofs.Command.Ends

/-!
# The statements of the command

Everything that the command hands to the database comes from counting and fetching, which it does
for the request that it has read and cut down to the greatest page, under the fields that its
arguments allow.  This request is the one whose lines it has printed before.
-/

namespace Listing.Command

variable {db : Store.Backend} {env : Environment} {arguments : Arguments} {s : Statement}

/-- Statements are run over a connection if all fields are allowed. -/
lemma Session.of_mem_statements {r : Request} {allowed : List Text} {c p : Statement}
    {statements : List Statement} {outcome : Except Failure (ℤ × List Row)}
    (h : Session db r allowed c p statements outcome) (hs : s ∈ statements) :
    Store.checkAllowed r allowed = .ok () ∧ (s = c ∨ s = p) := by
  cases h with
  | refused => cases hs
  | uncounted hcheck | miscounted hcheck => exact ⟨hcheck, .inl (List.mem_singleton.1 hs)⟩
  | unfetched hcheck | fetched hcheck => exact ⟨hcheck, by simpa using hs⟩

lemma Work.of_mem_statements {t : Transcript} {outcome : Except Failure Unit}
    (h : Work db env arguments t outcome) (hs : s ∈ t.contact.statements) :
    ∃ (q : Prepared env arguments) (path : Text) (allowed : List Text), t.before = q.lines ∧
      Connects q path allowed ∧ Store.checkAllowed q.request allowed = .ok () ∧
      (s = q.count ∨ s = q.rows) := by
  cases h with
  | failed q hconnects _ _ hsession | done q hconnects _ hsession =>
    obtain ⟨hcheck, hs⟩ := hsession.of_mem_statements hs
    exact ⟨q, _, _, rfl, hconnects, hcheck, hs⟩
  | _ => cases hs

/-- A statement of the command counts or fetches the rows of a request whose fields are allowed, and
the output starts with the lines about this request. -/
lemma exists_prepared_of_mem_statements (hs : s ∈ (execute db env arguments).statements) :
    ∃ (q : Prepared env arguments) (path : Text) (allowed rest : List Text),
      (execute db env arguments).output = q.lines ++ rest ∧ Connects q path allowed ∧
      Store.checkAllowed q.request allowed = .ok () ∧ (s = q.count ∨ s = q.rows) := by
  obtain ⟨t, complaint, hshown, hends⟩ := ends_execute db env arguments
  rw [hshown.statements_eq] at hs
  rcases hends.work with rfl | ⟨outcome, hwork⟩
  · cases hs
  · obtain ⟨q, path, allowed, hbefore, hconnects, hcheck, hs⟩ := hwork.of_mem_statements hs
    refine ⟨q, path, allowed, t.after, ?_, hconnects, hcheck, hs⟩
    rw [hshown.output_eq, hbefore]

/-- **Where statements come from.**  A statement of the command is one of counting or of fetching,
for the request that was read, with its page cut down. -/
lemma mem_statements_execute (hs : s ∈ (execute db env arguments).statements) :
    ∃ settings asked r allow, (Request.read arguments.search).outcome = .ok asked ∧
      asked.clamp (settings : Settings).maxLimit = .ok r ∧ arguments.allow = some allow ∧
      (s ∈ (Store.fetchCount db arguments.table r (allowedFields allow)).statements ∨
        s ∈ (Store.fetchRows db arguments.table r (allowedFields allow)).statements) := by
  obtain ⟨q, path, allowed, -, -, ⟨-, ⟨allow, hallow, rfl⟩, -⟩, hcheck, hs⟩ :=
    exists_prepared_of_mem_statements hs
  have hallowed := Store.checkAllowed_eq_ok_iff.1 hcheck
  refine ⟨q.settings, q.asked, q.request, allow, q.read, q.clamped, hallow, ?_⟩
  rcases hs with rfl | rfl
  · exact .inl (Store.mem_statements_fetchCount.2 ⟨hallowed, q.values, q.filtered, rfl⟩)
  · exact .inr (Store.mem_statements_fetchRows.2 ⟨hallowed, q.fragment, q.compiled, rfl⟩)

end Listing.Command
