import Mathlib
import Listing.Proofs.Command.Ends
import Listing.Proofs.Request.RoundTrip

/-!
# Faults that are not reported

A query string that cannot be read is malformed in one of a few ways, each of which has a name, a
text and a message; the command reports it and ends with exit code two.  There is one fault beside
these: a number of the page with more digits than are ever converted.  It is no more than a number
out of range, for which the default would do, but it ends the reading without a report, and the
command with it.  This happens exactly if such a number comes before anything malformed.
-/

namespace Listing

open Text

/-- A number of the page with more digits than are converted. -/
def Token.Overlong (t : Text) : Prop :=
  ∃ key value : Text, IsPair t key value ∧ (key = "limit" ∨ key = "offset") ∧
    Numeral.isDigits value = true ∧ 4300 < value.length

namespace Token

lemma faulty_tooManyDigits_iff {t : Text} : Faulty t .tooManyDigits ↔ Overlong t := by
  constructor
  · intro h
    cases h with
    | page hpair hkey hdigits hlength => exact ⟨_, _, hpair, hkey, hdigits, hlength⟩
  · rintro ⟨key, value, hpair, hkey, hdigits, hlength⟩
    exact .page hpair hkey hdigits hlength

lemma written_of_isDigits {digits : Text} (h : Numeral.isDigits digits = true) :
    Written digits ∧ digits ≠ [] := by
  simp only [Numeral.isDigits, Bool.and_eq_true, Bool.not_eq_true', List.isEmpty_eq_false_iff,
    List.all_eq_true] at h
  refine ⟨Written.of_isKept fun c hc => ?_, h.1⟩
  simp [Percent.isKept, Char.isAlphanum, h.2 c hc]

lemma overlong_of_digits (key : PageKey) {digits : Text} (h : Numeral.isDigits digits = true)
    (hlength : 4300 < digits.length) : Overlong (key.word ++ '=' :: digits) := by
  obtain ⟨hwritten, hne⟩ := written_of_isDigits h
  have hkey := isKey_page key
  have hpair : IsPair (key.word ++ '=' :: digits) key.word digits :=
    ⟨key.word, digits, ⟨rfl, hkey.no_equals, hwritten.not_mem_equals⟩, hkey.blank_eq_false,
      hwritten.solid.blank_eq_false hne, hkey.trim_eq, hwritten.solid.trimmed.trim_eq⟩
  refine ⟨key.word, digits, hpair, ?_, h, hlength⟩
  cases key with
  | limit => exact Or.inl rfl
  | offset => exact Or.inr rfl

end Token

namespace Request

open Token

/-- A number of the page has too many digits, and every token before it can be read. -/
def Overflows (search : Text) : Prop :=
  ∃ before t after, (queryText search).splitOn '&' = before ++ t :: after ∧
    (∀ s ∈ before, Admissible s) ∧ Overlong t

lemma outcome_eq_tooManyDigits_iff {search : Text} :
    (read search).outcome = .error .tooManyDigits ↔ Overflows search := by
  rw [read, readTokens_eq_error_iff, splitTokens_eq, Overflows]
  simp only [faulty_tooManyDigits_iff]

/-- Without such a number a query string is read, or malformed. -/
lemma ok_or_malformed_iff {search : Text} :
    ((∃ r, (read search).outcome = .ok r) ∨
        ∃ cause, (read search).outcome = .error (.malformed cause)) ↔ ¬Overflows search := by
  rw [← outcome_eq_tooManyDigits_iff]
  cases (read search).outcome with
  | ok r => simp
  | error fault => cases fault <;> simp

/-- A query string that is nothing but a number of the page. -/
lemma overflows_of_digits (key : PageKey) {digits : Text} (h : Numeral.isDigits digits = true)
    (hlength : 4300 < digits.length) : Overflows (key.word ++ '=' :: digits) := by
  obtain ⟨hwritten, hne⟩ := written_of_isDigits h
  obtain ⟨htrimmed, hamp⟩ := token_cut (isKey_page key) hwritten hne
  have hmark : (key.word ++ '=' :: digits).head? ≠ some '?' := by
    rw [List.head?_append_of_ne_nil _ (isKey_page key).ne_nil]
    cases key <;> decide
  have htokens : splitTokens (joined "&" [key.word ++ '=' :: digits])
      = [key.word ++ '=' :: digits] :=
    splitTokens_joined (by simpa using htrimmed) (by simpa using hamp) hmark
  rw [splitTokens_eq, joined_singleton] at htokens
  exact ⟨[], _, [], htokens, by simp, overlong_of_digits key h hlength⟩

end Request

/-! ### The command -/

namespace Command

variable {db : Store.Backend} {env : Environment} {arguments : Arguments}

/-- A query string that cannot be read ends the command before anything else is done: with a report
if it is malformed, and else with the fault itself. -/
lemma outcome_execute_of_fault {settings : Settings} (hsettings : Settings.load env = .ok settings)
    {fault : Fault} (hread : (Request.read arguments.search).outcome = .error fault) :
    (execute db env arguments).outcome =
      match fault with
      | .malformed _ => .ok 2
      | .tooManyDigits => .error (.request .tooManyDigits) := by
  obtain ⟨-, hperform⟩ := perform_of_fault db env settings hread
  rw [execute_of_load hsettings, Run.atLeast, exitCode, hperform]
  cases fault <;> rfl

end Command

namespace Request

/-- **Faults that are reported.**  A query string is read or is malformed, and if it is malformed
the command ends with exit code two, exactly if it has no number of the page with too many digits
before anything malformed. -/
theorem reported_iff_not_overflows (search : Text) :
    (((∃ r, (read search).outcome = .ok r) ∨
        ∃ cause, (read search).outcome = .error (.malformed cause)) ↔ ¬Overflows search) ∧
      ∀ (db : Store.Backend) (env : Environment) (arguments : Command.Arguments)
        (settings : Settings), arguments.search = search → Settings.load env = .ok settings →
        (¬∃ r, (read search).outcome = .ok r) →
        ((Command.execute db env arguments).outcome = .ok 2 ↔ ¬Overflows search) := by
  refine ⟨ok_or_malformed_iff, ?_⟩
  rintro db env arguments settings rfl hsettings hunread
  rw [← outcome_eq_tooManyDigits_iff]
  cases hread : (read arguments.search).outcome with
  | ok r => exact absurd ⟨r, hread⟩ hunread
  | error fault =>
    rw [Command.outcome_execute_of_fault hsettings hread]
    cases fault <;> simp

/-- The longest number that is converted has 4300 digits; one with a digit more is neither read
nor reported. -/
theorem not_reported_of_long_limit :
    ¬((∃ r, (read ("limit=" ++ List.replicate 4301 '9')).outcome = .ok r) ∨
      ∃ cause, (read ("limit=" ++ List.replicate 4301 '9')).outcome =
        .error (.malformed cause)) := by
  have hdigits (n : Nat) : Numeral.isDigits (List.replicate (n + 1) '9') = true := by
    simp [Numeral.isDigits]
  have hlength : 4300 < (List.replicate 4301 '9').length := by
    rw [List.length_replicate]
    omega
  rw [ok_or_malformed_iff, not_not]
  exact overflows_of_digits .limit (hdigits 4300) hlength

end Request

end Listing
