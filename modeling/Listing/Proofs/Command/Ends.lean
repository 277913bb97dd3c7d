import Mathlib
import Listing.Command.Execute
import Listing.Proofs.Config.Settings
import Listing.Proofs.Request.Page
import Listing.Proofs.Request.Range
import Listing.Proofs.Store.Fetching

/-!
# Where the command ends

The command goes through stages: it loads its settings, reads a request and cuts its page down,
compiles it and prints what it is, finds the database, opens it, counts and fetches.  Each stage may
be the last one.  What is done at each of them, and how the work ends there, is said here once: the
cases of `Session` are the ways in which the work over one connection ends, those of `Work` the ways
in which all of it does.  The log is left out, because the settings decide on what is seen of it.
-/

namespace Listing.Command

open Sql (Value Fragment)

/-! ### The stages -/

/-- A request that the command has read, cut down and compiled. -/
structure Prepared (env : Environment) (arguments : Arguments) where
  settings : Settings
  /-- The request that was read. -/
  asked : Request
  /-- The request for the page that the settings allow. -/
  request : Request
  fragment : Fragment
  /-- The values of the filters. -/
  values : List Value
  loaded : Settings.load env = .ok settings
  read : (Request.read arguments.search).outcome = .ok asked
  clamped : asked.clamp settings.maxLimit = .ok request
  compiled : Sql.compile request = .ok fragment
  filtered : Sql.filterValues request.filters = .ok values

namespace Prepared

variable {env : Environment} {arguments : Arguments} (q : Prepared env arguments)

/-- The three lines about the request. -/
def lines : List Text :=
  ["http: " ++ q.request.text, "sql: " ++ q.fragment.text,
    "values: " ++ Text.joined ", " (q.fragment.values.map Value.shown)]

/-- The statement that counts the rows of the request. -/
def count : Statement :=
  Store.countStatement arguments.table q.request.filters q.values

/-- The statement that fetches the rows of the request. -/
def rows : Statement :=
  Store.rowsStatement arguments.table q.fragment

lemma fetchCount_of_ok (db : Store.Backend) {allowed : List Text} {u : Unit}
    (h : Store.checkAllowed q.request allowed = .ok u) :
    (Store.fetchCount db arguments.table q.request allowed).deeds = [.executed q.count] ∧
      (Store.fetchCount db arguments.table q.request allowed).outcome =
        (db.first q.count).mapError .database >>= fun answer =>
          (countOfAnswer answer).mapError .count :=
  Store.fetchCount_of_ok h q.filtered

lemma fetchRows_of_ok (db : Store.Backend) {allowed : List Text} {u : Unit}
    (h : Store.checkAllowed q.request allowed = .ok u) :
    (Store.fetchRows db arguments.table q.request allowed).deeds = [.executed q.rows] ∧
      (Store.fetchRows db arguments.table q.request allowed).outcome =
        (db.all q.rows).mapError .database :=
  Store.fetchRows_of_ok h q.compiled

lemma describe_request : describe q.request = .ok q.lines := by
  rw [describe, q.compiled]
  rfl

/-- There is one way at most to prepare a request. -/
instance : Subsingleton (Prepared env arguments) where
  allEq p q := by
    obtain ⟨settings, asked, request, fragment, values, hsettings, hasked, hrequest, hfragment,
      hvalues⟩ := p
    obtain ⟨settings', asked', request', fragment', values', hsettings', hasked', hrequest',
      hfragment', hvalues'⟩ := q
    obtain rfl : settings = settings' := Except.ok.inj (hsettings.symm.trans hsettings')
    obtain rfl : asked = asked' := Except.ok.inj (hasked.symm.trans hasked')
    obtain rfl : request = request' := Except.ok.inj (hrequest.symm.trans hrequest')
    obtain rfl : fragment = fragment' := Except.ok.inj (hfragment.symm.trans hfragment')
    obtain rfl : values = values' := Except.ok.inj (hvalues.symm.trans hvalues')
    rfl

end Prepared

/-- The command asks for the database at a path, to run its request under a list of allowed fields.
-/
structure Connects {env : Environment} {arguments : Arguments} (q : Prepared env arguments)
    (path : Text) (allowed : List Text) : Prop where
  table : arguments.table ≠ []
  allow : ∃ allow, arguments.allow = some allow ∧ allowedFields allow = allowed
  path : Store.locate (databaseUrl arguments q.settings) env = .ok path

/-- The ways in which the work over a connection ends: the statements that were run, and the
outcome. -/
inductive Session (db : Store.Backend) (r : Request) (allowed : List Text) (c p : Statement) :
    List Statement → Except Failure (ℤ × List Row) → Prop
  /-- A field is not allowed. -/
  | refused {name : Text} : Store.checkAllowed r allowed = .error (.disallowed name) →
      Session db r allowed c p [] (.error (.disallowed name))
  /-- The database refuses to count. -/
  | uncounted {message : Text} : Store.checkAllowed r allowed = .ok () →
      db.first c = .error message → Session db r allowed c p [c] (.error (.database message))
  /-- What it answers is no count. -/
  | miscounted {answer : Option (List Cell)} {fault : CountFault} :
      Store.checkAllowed r allowed = .ok () → db.first c = .ok answer →
      countOfAnswer answer = .error fault → Session db r allowed c p [c] (.error (.count fault))
  /-- It refuses to fetch the rows. -/
  | unfetched {answer : Option (List Cell)} {total : ℤ} {message : Text} :
      Store.checkAllowed r allowed = .ok () → db.first c = .ok answer →
      countOfAnswer answer = .ok total → db.all p = .error message →
      Session db r allowed c p [c, p] (.error (.database message))
  /-- It answers both. -/
  | fetched {answer : Option (List Cell)} {total : ℤ} {rows : List Row} :
      Store.checkAllowed r allowed = .ok () → db.first c = .ok answer →
      countOfAnswer answer = .ok total → db.all p = .ok rows →
      Session db r allowed c p [c, p] (.ok (total, rows))

/-- The lines about the rows of a request and their number. -/
def counted (total : ℤ) (rows : List Row) : List Text :=
  ("total: " ++ Numeral.ofInt total) :: rows.map Row.shown

/-- What the command has to do with a database. -/
inductive Contact where
  /-- No database was asked for. -/
  | none
  /-- The database at a path could not be opened. -/
  | unopened (path : Text)
  /-- It was opened, and the statements were run over the connection. -/
  | opened (path : Text) (statements : List Statement)

namespace Contact

/-- The statements that were run. -/
def statements : Contact → List Statement
  | none | unopened _ => []
  | opened _ statements => statements

/-- What is done with the database: once it is opened, it is closed after the statements. -/
def events : Contact → List Event
  | none => []
  | unopened path => [.unopened path]
  | opened path statements => .opened path :: statements.map .executed ++ [.closed]

end Contact

/-- What the command does, its log apart: it prints lines, runs statements over a connection to a
database, if it gets so far, and prints lines again. -/
structure Transcript where
  before : List Text := []
  contact : Contact := .none
  after : List Text := []

/-- The events of a transcript. -/
def Transcript.events (t : Transcript) : List Event :=
  t.before.map .printed ++ t.contact.events ++ t.after.map .printed

/-- The ways in which the work of the command ends: its transcript and its outcome. -/
inductive Work (db : Store.Backend) (env : Environment) (arguments : Arguments) :
    Transcript → Except Failure Unit → Prop
  /-- The request cannot be read. -/
  | unread {settings : Settings} {fault : Fault} : Settings.load env = .ok settings →
      (Request.read arguments.search).outcome = .error fault →
      Work db env arguments {} (.error (.request fault))
  /-- The request has a value that cannot be bound. -/
  | unbound {settings : Settings} {asked r : Request} {fault : Sql.ValueFault} :
      Settings.load env = .ok settings → (Request.read arguments.search).outcome = .ok asked →
      asked.clamp settings.maxLimit = .ok r → Sql.compile r = .error fault →
      Work db env arguments {} (.error (.value fault))
  /-- No table is given. -/
  | described (q : Prepared env arguments) : arguments.table = [] →
      Work db env arguments { before := q.lines } (.ok ())
  /-- No list of allowed fields is given. -/
  | noAllowList (q : Prepared env arguments) : arguments.allow = none →
      Work db env arguments { before := q.lines } (.error .noAllowList)
  /-- No database is named. -/
  | noDatabase (q : Prepared env arguments) :
      Store.locate (databaseUrl arguments q.settings) env = .error .noDatabase →
      Work db env arguments { before := q.lines } (.error .noDatabase)
  /-- The database cannot be opened. -/
  | unopened (q : Prepared env arguments) {path message : Text} {allowed : List Text} :
      Connects q path allowed → db.opens path = .error message →
      Work db env arguments { before := q.lines, contact := .unopened path }
        (.error (.database message))
  /-- The work over the connection fails. -/
  | failed (q : Prepared env arguments) {path : Text} {allowed : List Text}
      {statements : List Statement} {failure : Failure} :
      Connects q path allowed → db.opens path = .ok () →
      (fetch db path arguments.table q.request allowed).outcome = .error failure →
      Session db q.request allowed q.count q.rows statements (.error failure) →
      Work db env arguments { before := q.lines, contact := .opened path statements }
        (.error failure)
  /-- The rows are counted and fetched. -/
  | done (q : Prepared env arguments) {path : Text} {allowed : List Text}
      {statements : List Statement} {total : ℤ} {rows : List Row} :
      Connects q path allowed → db.opens path = .ok () →
      Session db q.request allowed q.count q.rows statements (.ok (total, rows)) →
      Work db env arguments
        { before := q.lines, contact := .opened path statements, after := counted total rows }
        (.ok ())

variable {db : Store.Backend} {env : Environment} {arguments : Arguments} {settings : Settings}

/-! ### Reading and printing -/

@[simp] lemma deeds_readRequest (search : Text) : (readRequest search).deeds = [] := by
  simp [readRequest, Run.deeds, Event.isLogged]

@[simp] lemma deeds_printAll (lines : List Text) :
    (printAll lines).deeds = lines.map .printed := by
  simp [printAll, Run.deeds, Event.isLogged]

/-- A request that can be read can be cut down, whatever the settings. -/
lemma exists_clamp_of_read {asked : Request}
    (h : (Request.read arguments.search).outcome = .ok asked) (settings : Settings) :
    ∃ r, asked.clamp settings.maxLimit = .ok r := by
  have hlimit := (Request.readable_of_read h).wellFormed.limit_le
  exact ⟨_, (Request.clamp_eq_ok_iff hlimit).2 ⟨Int.natCast_nonneg _, rfl⟩⟩

/-! ### Over the connection -/

/-- If the database cannot be opened, nothing else is done with it. -/
lemma fetch_of_unopened {path message : Text} (h : db.opens path = .error message) (table : Text)
    (r : Request) (allowed : List Text) :
    fetch db path table r allowed = ⟨[.unopened path], .error (.database message)⟩ := by
  rw [fetch, connect, h]
  rfl

/-- **The work over a connection** runs the statements between the opening of the database and its
closing, whatever becomes of them. -/
lemma session_fetch {path : Text} (hopens : db.opens path = .ok ()) (q : Prepared env arguments)
    (allowed : List Text) :
    ∃ statements,
      (fetch db path arguments.table q.request allowed).deeds =
          .opened path :: statements.map .executed ++ [.closed] ∧
        Session db q.request allowed q.count q.rows statements
          (fetch db path arguments.table q.request allowed).outcome := by
  set work := Store.fetchCount db arguments.table q.request allowed >>= fun total =>
    Store.fetchRows db arguments.table q.request allowed >>= fun rows =>
      pure (total, rows) with hwork
  -- the database is opened before this work and closed after it, however it ends
  suffices h : ∃ statements, work.deeds = statements.map .executed ∧
      Session db q.request allowed q.count q.rows statements work.outcome by
    obtain ⟨statements, hdeeds, hsession⟩ := h
    have hfetch : fetch db path arguments.table q.request allowed =
        Run.emit (.opened path) >>= fun _ => work.closing := by
      rw [fetch, connect, hopens]
    rw [hfetch]
    refine ⟨statements, ?_, hsession⟩
    rw [Run.deeds_emit_bind rfl, Run.deeds_closing, hdeeds]
    rfl
  cases hcheck : Store.checkAllowed q.request allowed with
  | error e =>
    obtain ⟨name, rfl⟩ := Store.exists_of_checkAllowed_eq_error hcheck
    rw [hwork, Store.fetchCount_of_error hcheck]
    exact ⟨[], rfl, .refused hcheck⟩
  | ok u =>
    obtain ⟨hcount, htotal⟩ := q.fetchCount_of_ok db hcheck
    obtain ⟨hfetch, hrows⟩ := q.fetchRows_of_ok db hcheck
    cases hfirst : db.first q.count with
    | error message =>
      rw [hfirst] at htotal
      rw [hwork, Run.bind_of_error htotal]
      exact ⟨[q.count], hcount, .uncounted hcheck hfirst⟩
    | ok answer =>
      rw [hfirst] at htotal
      cases hanswer : countOfAnswer answer with
      | error fault =>
        have hfault := htotal.trans (congrArg (Except.mapError Failure.count) hanswer)
        rw [hwork, Run.bind_of_error hfault]
        exact ⟨[q.count], hcount, .miscounted hcheck hfirst hanswer⟩
      | ok total =>
        have hok := htotal.trans (congrArg (Except.mapError Failure.count) hanswer)
        rw [hwork, Run.deeds_bind_of_ok hok, Run.outcome_bind_of_ok hok, hcount]
        cases hall : db.all q.rows with
        | error message =>
          rw [hall] at hrows
          rw [Run.bind_of_error hrows]
          refine ⟨[q.count, q.rows], ?_, .unfetched hcheck hfirst hanswer hall⟩
          exact congrArg _ hfetch
        | ok rows =>
          rw [hall] at hrows
          rw [Run.deeds_bind_of_ok hrows, Run.outcome_bind_of_ok hrows, hfetch]
          exact ⟨[q.count, q.rows], rfl, .fetched hcheck hfirst hanswer hall⟩

/-! ### Under the settings -/

lemma perform_of_fault (db : Store.Backend) (env : Environment) (settings : Settings)
    {fault : Fault}
    (h : (Request.read arguments.search).outcome = .error fault) :
    (perform db env arguments settings).deeds = [] ∧
      (perform db env arguments settings).outcome = .error (.request fault) := by
  have hread : (readRequest arguments.search).outcome = .error (.request fault) := by
    rw [readRequest, h]
    rfl
  rw [perform, Run.bind_of_error hread]
  exact ⟨deeds_readRequest arguments.search, rfl⟩

lemma perform_of_unbound {asked r : Request} {fault : Sql.ValueFault}
    (hasked : (Request.read arguments.search).outcome = .ok asked)
    (hr : asked.clamp settings.maxLimit = .ok r) (hfault : Sql.compile r = .error fault) :
    (perform db env arguments settings).deeds = [] ∧
      (perform db env arguments settings).outcome = .error (.value fault) := by
  have hread : (readRequest arguments.search).outcome = .ok asked := by
    rw [readRequest, hasked]
    rfl
  have hdescribe : describe r = .error fault := by
    rw [describe, hfault]
    rfl
  rw [perform, Run.deeds_bind_of_ok hread, Run.outcome_bind_of_ok hread, hr, Run.lift_ok_bind,
    hdescribe, Run.lift_error_bind, deeds_readRequest]
  exact ⟨rfl, rfl⟩

/-- A request that is prepared is described, and run if there is a table. -/
lemma perform_of_prepared (db : Store.Backend) (q : Prepared env arguments) :
    (perform db env arguments q.settings).deeds = q.lines.map .printed ++
        (if arguments.table = [] then pure ()
          else query db env arguments q.settings q.request : Run Unit).deeds ∧
      (perform db env arguments q.settings).outcome =
        (if arguments.table = [] then pure ()
          else query db env arguments q.settings q.request : Run Unit).outcome := by
  have hread : (readRequest arguments.search).outcome = .ok q.asked := by
    rw [readRequest, q.read]
    rfl
  have hprint : (printAll q.lines).outcome = .ok () := rfl
  rw [perform, Run.deeds_bind_of_ok hread, Run.outcome_bind_of_ok hread, q.clamped,
    Run.lift_ok_bind, q.describe_request, Run.lift_ok_bind, Run.deeds_bind_of_ok hprint,
    Run.outcome_bind_of_ok hprint, deeds_readRequest, deeds_printAll]
  simp [List.isEmpty_iff]

/-- With a database and a list of allowed fields, the lines about the rows follow upon the work over
the connection. -/
lemma query_of_connects {q : Prepared env arguments} {path : Text} {allowed : List Text}
    {r : Request} (h : Connects q path allowed) :
    query db env arguments q.settings r =
      fetch db path arguments.table r allowed >>= fun found =>
        printAll (counted found.1 found.2) := by
  obtain ⟨allow, hallow, rfl⟩ := h.allow
  rw [query, hallow, h.path]
  rfl

lemma locate_eq_error {url : Option Text} {failure : Failure}
    (h : Store.locate url env = .error failure) : failure = .noDatabase := by
  cases url with
  | some url => cases h
  | none =>
    rw [Store.locate, Store.requiredUrl] at h
    cases henv : env.get? .databaseUrl with
    | none =>
      rw [henv] at h
      exact (Except.error.inj h).symm
    | some url =>
      rw [henv] at h
      dsimp only at h
      split at h
      · exact (Except.error.inj h).symm
      · cases h

/-- A database that cannot be opened is the end of the work. -/
lemma perform_of_unopened {q : Prepared env arguments} {path message : Text} {allowed : List Text}
    (h : Connects q path allowed) (hopens : db.opens path = .error message) :
    (perform db env arguments q.settings).deeds =
        Transcript.events { before := q.lines, contact := .unopened path } ∧
      (perform db env arguments q.settings).outcome = .error (.database message) := by
  obtain ⟨hdeeds, houtcome⟩ := perform_of_prepared db q
  rw [if_neg h.table, query_of_connects h, fetch_of_unopened hopens] at hdeeds houtcome
  refine ⟨?_, houtcome⟩
  rw [hdeeds, Transcript.events, List.map_nil, List.append_nil]
  rfl

/-- A failure over the connection is the end of the work. -/
lemma perform_of_failed {q : Prepared env arguments} {path : Text} {allowed : List Text}
    {failure : Failure} (h : Connects q path allowed) (hopens : db.opens path = .ok ())
    (hfailure : (fetch db path arguments.table q.request allowed).outcome = .error failure) :
    ∃ statements,
      (perform db env arguments q.settings).deeds =
          Transcript.events { before := q.lines, contact := .opened path statements } ∧
        (perform db env arguments q.settings).outcome = .error failure ∧
        Session db q.request allowed q.count q.rows statements (.error failure) := by
  obtain ⟨hdeeds, houtcome⟩ := perform_of_prepared db q
  obtain ⟨statements, hfetch, hsession⟩ := session_fetch hopens q allowed
  rw [if_neg h.table, query_of_connects h, Run.bind_of_error hfailure] at hdeeds houtcome
  refine ⟨statements, ?_, houtcome, hfailure ▸ hsession⟩
  rw [hdeeds, Transcript.events, List.map_nil, List.append_nil]
  exact congrArg _ hfetch

lemma work_of_connects {q : Prepared env arguments} {path : Text} {allowed : List Text}
    (h : Connects q path allowed) :
    ∃ t : Transcript, (perform db env arguments q.settings).deeds = t.events ∧
      Work db env arguments t (perform db env arguments q.settings).outcome := by
  cases hopens : db.opens path with
  | error message =>
    obtain ⟨hdeeds, houtcome⟩ := perform_of_unopened h hopens
    rw [houtcome]
    exact ⟨_, hdeeds, .unopened q h hopens⟩
  | ok u =>
    cases hfound : (fetch db path arguments.table q.request allowed).outcome with
    | error failure =>
      obtain ⟨statements, hdeeds, houtcome, hsession⟩ := perform_of_failed h hopens hfound
      rw [houtcome]
      exact ⟨_, hdeeds, .failed q h hopens hfound hsession⟩
    | ok found =>
      obtain ⟨hdeeds, houtcome⟩ := perform_of_prepared db q
      obtain ⟨statements, hfetch, hsession⟩ := session_fetch hopens q allowed
      rw [hfound] at hsession
      rw [hdeeds, houtcome, if_neg h.table, query_of_connects h, Run.deeds_bind_of_ok hfound,
        Run.outcome_bind_of_ok hfound, hfetch, deeds_printAll]
      refine ⟨_, ?_, .done q h hopens hsession⟩
      rw [Transcript.events, ← List.append_assoc]
      rfl

lemma work_of_prepared (q : Prepared env arguments) :
    ∃ t : Transcript, (perform db env arguments q.settings).deeds = t.events ∧
      Work db env arguments t (perform db env arguments q.settings).outcome := by
  obtain ⟨hdeeds, houtcome⟩ := perform_of_prepared db q
  by_cases htable : arguments.table = []
  · rw [hdeeds, houtcome, if_pos htable]
    exact ⟨_, rfl, .described q htable⟩
  rw [if_neg htable] at hdeeds houtcome
  cases hallow : arguments.allow with
  | none =>
    have hquery : query db env arguments q.settings q.request = ⟨[], .error .noAllowList⟩ := by
      rw [query, hallow]
      rfl
    rw [hdeeds, houtcome, hquery]
    exact ⟨_, rfl, .noAllowList q hallow⟩
  | some allow =>
    cases hpath : Store.locate (databaseUrl arguments q.settings) env with
    | error failure =>
      obtain rfl := locate_eq_error hpath
      have hquery : query db env arguments q.settings q.request = ⟨[], .error .noDatabase⟩ := by
        rw [query, hallow, hpath]
        rfl
      rw [hdeeds, houtcome, hquery]
      exact ⟨_, rfl, .noDatabase q hpath⟩
    | ok path => exact work_of_connects ⟨htable, ⟨allow, hallow, rfl⟩, hpath⟩

/-- **The work of the command** ends in one of these ways. -/
lemma work_perform (db : Store.Backend) (arguments : Arguments)
    (h : Settings.load env = .ok settings) :
    ∃ t : Transcript, (perform db env arguments settings).deeds = t.events ∧
      Work db env arguments t (perform db env arguments settings).outcome := by
  cases hread : (Request.read arguments.search).outcome with
  | error fault =>
    obtain ⟨hdeeds, houtcome⟩ := perform_of_fault db env settings hread
    rw [hdeeds, houtcome]
    exact ⟨_, rfl, .unread h hread⟩
  | ok asked =>
    obtain ⟨r, hr⟩ := exists_clamp_of_read hread settings
    cases hcompile : Sql.compile r with
    | error fault =>
      obtain ⟨hdeeds, houtcome⟩ := perform_of_unbound hread hr hcompile
      rw [hdeeds, houtcome]
      exact ⟨_, rfl, .unbound h hread hr hcompile⟩
    | ok fragment =>
      obtain ⟨values, hvalues, -, -⟩ := Store.exists_filterValues_of_compile hcompile
      exact work_of_prepared
        ⟨settings, asked, r, fragment, values, h, hread, hr, hcompile, hvalues⟩

/-! ### The exit code -/

/-- The ways in which the command ends: its transcript, the complaint after it, if there is one, and
its outcome. -/
inductive Ends (db : Store.Backend) (env : Environment) (arguments : Arguments) :
    Transcript → Option Text → Except Failure ℕ → Prop
  /-- The settings cannot be used. -/
  | misconfigured {faults : List (Variable × SettingFault)} : Settings.load env = .error faults →
      Ends db env arguments {} none (.error (.settings faults))
  /-- All work is done. -/
  | served {t : Transcript} : Work db env arguments t (.ok ()) →
      Ends db env arguments t none (.ok 0)
  /-- The request is rejected. -/
  | rejected {t : Transcript} {failure : Failure} {message : Text} :
      Work db env arguments t (.error failure) → rejection? failure = some message →
      Ends db env arguments t (some ("error: " ++ message)) (.ok 2)
  /-- The work fails for another reason. -/
  | broken {t : Transcript} {failure : Failure} : Work db env arguments t (.error failure) →
      rejection? failure = none → Ends db env arguments t none (.error failure)

/-- The transcript of the command is that of its work, if there was any. -/
lemma Ends.work {t : Transcript} {complaint : Option Text} {outcome : Except Failure ℕ}
    (h : Ends db env arguments t complaint outcome) :
    t = {} ∨ ∃ outcome', Work db env arguments t outcome' := by
  cases h with
  | misconfigured => exact .inl rfl
  | served hwork | rejected hwork | broken hwork => exact .inr ⟨_, hwork⟩

/-- A run does what a transcript says and then complains, which is the last thing that is written.
-/
structure Transcript.Shown (t : Transcript) (complaint : Option Text) (x : Run ℕ) : Prop where
  deeds : x.deeds = t.events ++ complaint.toList.map .complained
  last : ∀ line ∈ complaint, x.errorOutput.getLast? = some line

namespace Transcript.Shown

variable {t : Transcript} {complaint : Option Text} {x : Run ℕ}

lemma output_eq (h : t.Shown complaint x) : x.output = t.before ++ t.after := by
  rw [← Run.output_deeds, h.deeds]
  obtain ⟨before, contact, after⟩ := t
  cases contact <;> simp [Run.output, events, Contact.events, List.filterMap_map]

lemma statements_eq (h : t.Shown complaint x) : x.statements = t.contact.statements := by
  rw [← Run.statements_deeds, h.deeds]
  obtain ⟨before, contact, after⟩ := t
  cases contact <;>
    simp [Run.statements, events, Contact.events, Contact.statements, List.filterMap_map]

end Transcript.Shown

lemma execute_of_load (h : Settings.load env = .ok settings) :
    execute db env arguments =
      (exitCode (perform db env arguments settings)).atLeast settings.logLevel := by
  rw [execute, h]
  rfl

lemma exitCode_of_ok {x : Run Unit} (h : x.outcome = .ok ()) :
    exitCode x = ⟨x.events, .ok 0⟩ := by
  rw [exitCode, h]

lemma exitCode_of_none {x : Run Unit} {failure : Failure} (h : x.outcome = .error failure)
    (hnone : rejection? failure = none) : exitCode x = ⟨x.events, .error failure⟩ := by
  rw [exitCode, h]
  simp only [hnone]

lemma exitCode_of_some {x : Run Unit} {failure : Failure} {message : Text}
    (h : x.outcome = .error failure) (hsome : rejection? failure = some message) :
    ∃ entry, exitCode x =
      ⟨x.events ++ [.logged entry] ++ [.complained ("error: " ++ message)], .ok 2⟩ := by
  rw [exitCode, h]
  simp only [hsome, List.append_assoc]
  exact ⟨_, rfl⟩

/-- A rejection is reported after everything that was done. -/
lemma shown_of_rejection {t : Transcript} {failure : Failure} {message : Text}
    (h : Settings.load env = .ok settings)
    (hdeeds : (perform db env arguments settings).deeds = t.events)
    (houtcome : (perform db env arguments settings).outcome = .error failure)
    (hsome : rejection? failure = some message) :
    t.Shown (some ("error: " ++ message)) (execute db env arguments) ∧
      (execute db env arguments).outcome = .ok 2 := by
  obtain ⟨entry, hexit⟩ := exitCode_of_some houtcome hsome
  rw [execute_of_load h, hexit]
  refine ⟨⟨?_, ?_⟩, rfl⟩
  · rw [Run.deeds_atLeast, ← hdeeds]
    simp [Run.deeds, Event.isLogged]
  · rintro line ⟨⟩
    exact Run.getLast?_errorOutput_atLeast _ _ _ _

/-- **The command** ends in one of these ways. -/
lemma ends_execute (db : Store.Backend) (env : Environment) (arguments : Arguments) :
    ∃ t complaint, t.Shown complaint (execute db env arguments) ∧
      Ends db env arguments t complaint (execute db env arguments).outcome := by
  cases hsettings : Settings.load env with
  | error faults =>
    have hexecute : execute db env arguments = ⟨[], .error (.settings faults)⟩ := by
      rw [execute, hsettings]
      rfl
    rw [hexecute]
    exact ⟨{}, none, ⟨rfl, by simp⟩, .misconfigured hsettings⟩
  | ok settings =>
    obtain ⟨t, hdeeds, hwork⟩ := work_perform db arguments hsettings
    cases houtcome : (perform db env arguments settings).outcome with
    | ok u =>
      rw [houtcome] at hwork
      rw [execute_of_load hsettings, exitCode_of_ok houtcome]
      refine ⟨t, none, ⟨?_, by simp⟩, .served hwork⟩
      rw [Run.deeds_atLeast, ← hdeeds, Option.toList_none, List.map_nil, List.append_nil]
      rfl
    | error failure =>
      rw [houtcome] at hwork
      cases hrejection : rejection? failure with
      | none =>
        rw [execute_of_load hsettings, exitCode_of_none houtcome hrejection]
        refine ⟨t, none, ⟨?_, by simp⟩, .broken hwork hrejection⟩
        rw [Run.deeds_atLeast, ← hdeeds, Option.toList_none, List.map_nil, List.append_nil]
        rfl
      | some message =>
        obtain ⟨hshown, hexit⟩ := shown_of_rejection hsettings hdeeds houtcome hrejection
        rw [hexit]
        exact ⟨t, _, hshown, .rejected hwork hrejection⟩

end Listing.Command
