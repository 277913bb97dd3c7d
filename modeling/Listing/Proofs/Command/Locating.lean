import Mathlib
import Listing.Proofs.Command.Ends
import Listing.Proofs.Fields

/-!
# The database that the command opens

Where no database is named, the library looks for the name in the environment: the variable has to
be there, under exactly its name, and must not be empty.  The command hands over what its settings
say instead, and these have a rule of their own: they take the variable in any case of its letters,
and an empty value is a value.  So the command may open a database where the library opens another
one, or asks for a name.  With a variable that is there once at most and spelled as it should be,
this happens for an empty value only; and the command never gets so far if its list of allowed
fields was given as the divider, which leaves it without one.
-/

namespace Listing

/-- A variable is there once at most, and under no other spelling. -/
structure Environment.Spelled (env : Environment) (v : Variable) : Prop where
  nodup : (env.map Prod.fst).Nodup
  eq_name : ∀ e ∈ env, e.1.map Char.toUpper = v.name → e.1 = v.name

/-- A run asks for the database that the library finds in the environment, and if there is none, it
ends with the same failure and asks for none. -/
structure Command.OpensAlike (env : Environment) (x : Run ℕ) : Prop where
  opened : ∀ path, Store.locate none env = .ok path → x.path? = some path
  refused : ∀ failure, Store.locate none env = .error failure →
    x.outcome = .error failure ∧ x.path? = none

/-! ### The variable -/

namespace Environment

variable {env : Environment} {v : Variable}

lemma map_toUpper_name (v : Variable) : v.name.map Char.toUpper = v.name := by
  cases v <;> decide

/-- Where a variable has one spelling, both ways to look for it find the same. -/
lemma Spelled.getAnyCase?_eq (h : env.Spelled v) : env.getAnyCase? v = env.get? v := by
  have hany : env.getAnyCase? v = (⟨env.reverse⟩ : Fields Text).get? v.name := by
    refine congrArg _ (List.find?_congr fun e he => ?_)
    by_cases hname : e.1 = v.name
    · rw [hname, map_toUpper_name]
    · have hother := mt (h.eq_name e (List.mem_reverse.1 he)) hname
      rw [beq_eq_false_iff_ne.2 hother, beq_eq_false_iff_ne.2 hname]
  have hexact : env.get? v = (⟨env⟩ : Fields Text).get? v.name := rfl
  have hreverse : (⟨env.reverse⟩ : Fields Text).names.Nodup := by
    rw [Fields.names, List.map_reverse, List.nodup_reverse]
    exact h.nodup
  ext value
  rw [hany, hexact, Fields.get?_eq_some_iff hreverse, Fields.get?_eq_some_iff h.nodup,
    List.mem_reverse]

end Environment

lemma Store.locate_none_eq_ok_iff {env : Environment} {path : Text} :
    locate none env = .ok path ↔
      ∃ url, env.get? .databaseUrl = some url ∧ url ≠ [] ∧ Store.path url = path := by
  rw [locate, requiredUrl]
  cases henv : env.get? .databaseUrl with
  | none => simp [Except.map]
  | some url =>
    dsimp only
    by_cases hnil : url = [] <;> simp [hnil, Except.map]

/-! ### The database that a run asks for -/

/-- The path of the database that an event opens, or would open if it could. -/
def Event.path? : Event → Option Text
  | .opened path | .unopened path => some path
  | _ => none

namespace Run

variable {α β : Type}

lemma path?_eq (x : Run α) : x.path? = x.deeds.findSome? Event.path? := by
  rw [path?, deeds, ← List.head?_filterMap, ← List.head?_filterMap, List.filterMap_filter]
  refine congrArg List.head? (List.filterMap_congr fun e _ => ?_)
  cases e <;> rfl

/-- The first database that is asked for stays the first. -/
lemma path?_bind {x : Run α} {path : Text} (h : x.path? = some path)
    (f : α → Run β) : (x >>= f).path? = some path := by
  obtain ⟨events, outcome⟩ := x
  rw [path?] at h
  cases outcome with
  | ok a => rw [bind_ok, path?, List.findSome?_append, h, Option.some_or]
  | error e => exact h

end Run

namespace Command

variable {db : Store.Backend} {env : Environment} {arguments : Arguments}

/-- A request can be prepared if no stage before the query against the table fails. -/
lemma nonempty_prepared {settings : Settings} {asked r : Request} {fragment : Sql.Fragment}
    (hloaded : Settings.load env = .ok settings)
    (hread : (Request.read arguments.search).outcome = .ok asked)
    (hclamped : asked.clamp settings.maxLimit = .ok r)
    (hcompiled : Sql.compile r = .ok fragment) : Nonempty (Prepared env arguments) := by
  obtain ⟨values, hvalues, -, -⟩ := Store.exists_filterValues_of_compile hcompiled
  exact ⟨⟨settings, asked, r, fragment, values, hloaded, hread, hclamped, hcompiled, hvalues⟩⟩

lemma path?_exitCode (x : Run Unit) : (exitCode x).path? = x.path? := by
  cases houtcome : x.outcome with
  | ok u =>
    rw [exitCode_of_ok houtcome]
    rfl
  | error failure =>
    cases hrejection : rejection? failure with
    | none =>
      rw [exitCode_of_none houtcome hrejection]
      rfl
    | some message =>
      obtain ⟨entry, hexit⟩ := exitCode_of_some houtcome hrejection
      rw [hexit]
      simp [Run.path?, List.findSome?_append]

/-- The work over the connection starts with the database at the path, which may not open. -/
lemma path?_fetch (db : Store.Backend) (path table : Text) (r : Request) (allowed : List Text) :
    (fetch db path table r allowed).path? = some path := by
  refine Run.path?_bind ?_ _
  rw [connect]
  cases db.opens path <;> rfl

/-- Nothing but the query against the table asks for a database. -/
lemma path?_execute (db : Store.Backend) (q : Prepared env arguments)
    (htable : arguments.table ≠ []) :
    (execute db env arguments).path? =
      (query db env arguments q.settings q.request).path? := by
  have hdeeds := (perform_of_prepared db q).1
  have hprinted : (q.lines.map Event.printed).findSome? Event.path? = none := by
    simp [List.findSome?_map, Function.comp_def, Event.path?]
  rw [if_neg htable] at hdeeds
  calc (execute db env arguments).path?
      = (perform db env arguments q.settings).path? := by
        rw [execute_of_load q.loaded, Run.path?_eq, Run.deeds_atLeast, ← Run.path?_eq,
          path?_exitCode]
    _ = (query db env arguments q.settings q.request).path? := by
        rw [Run.path?_eq, hdeeds, List.findSome?_append, hprinted, Option.none_or,
          ← Run.path?_eq]

/-- The failure of the query against the table is that of the command, if it is no rejection. -/
lemma outcome_execute_of_query (q : Prepared env arguments) (htable : arguments.table ≠ [])
    {failure : Failure}
    (h : (query db env arguments q.settings q.request).outcome = .error failure)
    (hnone : rejection? failure = none) :
    (execute db env arguments).outcome = .error failure := by
  have houtcome := (perform_of_prepared db q).2
  rw [if_neg htable, h] at houtcome
  rw [execute_of_load q.loaded, exitCode_of_none houtcome hnone]
  rfl

/-- Without a list of allowed fields the command ends before it looks for a database. -/
lemma not_opensAlike_of_allow_eq_none (db : Store.Backend) (q : Prepared env arguments)
    (htable : arguments.table ≠ []) (hallow : arguments.allow = none) :
    ¬OpensAlike env (execute db env arguments) := by
  have hquery : query db env arguments q.settings q.request = ⟨[], .error .noAllowList⟩ := by
    rw [query, hallow]
    rfl
  have hopened : (execute db env arguments).path? = none := by
    rw [path?_execute db q htable, hquery]
    rfl
  have houtcome := outcome_execute_of_query q htable (congrArg Run.outcome hquery) rfl
  intro h
  cases hlocate : Store.locate none env with
  | ok path =>
    have hpath := h.opened path hlocate
    rw [hopened] at hpath
    cases hpath
  | error failure =>
    have hfailure := (h.refused failure hlocate).1
    rw [houtcome, locate_eq_error hlocate] at hfailure
    cases hfailure

/-- The command does what the name of its database comes to: it asks for a path, or it fails. -/
lemma path?_of_locate {allow : Text} (db : Store.Backend) (q : Prepared env arguments)
    (htable : arguments.table ≠ []) (hallow : arguments.allow = some allow) :
    (∀ path, Store.locate (databaseUrl arguments q.settings) env = .ok path →
        (execute db env arguments).path? = some path) ∧
      ∀ failure, Store.locate (databaseUrl arguments q.settings) env = .error failure →
        (execute db env arguments).outcome = .error failure ∧
          (execute db env arguments).path? = none := by
  refine ⟨fun path hpath => ?_, fun failure hfailure => ?_⟩
  · have hconnects : Connects q path (allowedFields allow) := ⟨htable, ⟨allow, hallow, rfl⟩, hpath⟩
    rw [path?_execute db q htable, query_of_connects hconnects]
    exact Run.path?_bind (path?_fetch db path _ _ _) _
  · obtain rfl := locate_eq_error hfailure
    have hquery : query db env arguments q.settings q.request = ⟨[], .error .noDatabase⟩ := by
      rw [query, hallow, hfailure]
      rfl
    rw [path?_execute db q htable, hquery]
    exact ⟨outcome_execute_of_query q htable (congrArg Run.outcome hquery) rfl, rfl⟩

lemma opensAlike_iff_of_allow {allow : Text} (db : Store.Backend) (q : Prepared env arguments)
    (htable : arguments.table ≠ []) (hdatabase : arguments.database = [])
    (hallow : arguments.allow = some allow) :
    OpensAlike env (execute db env arguments) ↔
      ∀ url, env.getAnyCase? .databaseUrl = some url →
        ∃ named, env.get? .databaseUrl = some named ∧ named ≠ [] ∧
          Store.path named = Store.path url := by
  have hsettings : databaseUrl arguments q.settings = env.getAnyCase? .databaseUrl := by
    rw [databaseUrl, hdatabase, ← (Settings.load_eq_ok_iff.1 q.loaded).1]
    rfl
  obtain ⟨hopened, hrefused⟩ := path?_of_locate db q htable hallow
  rw [hsettings] at hopened hrefused
  simp only [← Store.locate_none_eq_ok_iff]
  cases hany : env.getAnyCase? .databaseUrl with
  | none =>
    -- the settings name no database, and the same question is asked twice
    rw [hany] at hopened hrefused
    simp only [reduceCtorEq, false_implies, implies_true, iff_true]
    exact ⟨hopened, hrefused⟩
  | some url =>
    rw [hany] at hopened
    have hpath := hopened _ rfl
    simp only [Option.some.injEq, forall_eq']
    constructor
    · intro h
      cases hlocate : Store.locate none env with
      | ok path =>
        rw [← Option.some.inj (hpath.symm.trans (h.opened path hlocate))]
      | error failure =>
        rw [(h.refused failure hlocate).2] at hpath
        cases hpath
    · intro hlocate
      refine ⟨fun path h => ?_, fun failure h => ?_⟩
      · rw [hpath, ← Except.ok.inj (hlocate.symm.trans h)]
      · rw [hlocate] at h
        cases h

/-- **The database of the command** for a request against a table, if its arguments name none.  It
is the one that the library finds in the environment, or as there none at all, exactly if a list of
allowed fields is given, and what the settings take for the name of the database is found by the
library too, is not empty, and leads to the same path.  Where the variable has one spelling this is
so unless it is empty. -/
theorem opensAlike_iff (db : Store.Backend) (q : Prepared env arguments)
    (htable : arguments.table ≠ []) (hdatabase : arguments.database = []) :
    (OpensAlike env (execute db env arguments) ↔
      arguments.allow ≠ none ∧ ∀ url, env.getAnyCase? .databaseUrl = some url →
        ∃ named, env.get? .databaseUrl = some named ∧ named ≠ [] ∧
          Store.path named = Store.path url) ∧
      (env.Spelled .databaseUrl →
        (OpensAlike env (execute db env arguments) ↔
          arguments.allow ≠ none ∧ env.get? .databaseUrl ≠ some [])) := by
  cases hallow : arguments.allow with
  | none =>
    have hunlike := not_opensAlike_of_allow_eq_none db q htable hallow
    simp [hunlike]
  | some allow =>
    have hiff := opensAlike_iff_of_allow db q htable hdatabase hallow
    refine ⟨by simp [hiff], fun hspelled => ?_⟩
    rw [hiff, hspelled.getAnyCase?_eq]
    cases henv : env.get? .databaseUrl with
    | none => simp
    | some url =>
      simp

/-- A name with a scheme in front, in an environment with other variables. -/
theorem opensAlike_iff_scheme :
    OpensAlike [("HOME", "/"), ("DATABASE_URL", "sqlite://people.db"), ("LOG_LEVEL", "debug")]
      (execute { first := fun _ => .ok (some [.int 0]), all := fun _ => .ok [] }
        [("HOME", "/"), ("DATABASE_URL", "sqlite://people.db"), ("LOG_LEVEL", "debug")]
        { search := "a=1", table := "people", allow := some "a" }) := by
  obtain ⟨q⟩ : Nonempty (Prepared
      [("HOME", "/"), ("DATABASE_URL", "sqlite://people.db"), ("LOG_LEVEL", "debug")]
      { search := "a=1", table := "people", allow := some "a" }) :=
    nonempty_prepared rfl rfl rfl rfl
  have hspelled : Environment.Spelled
      [("HOME", "/"), ("DATABASE_URL", "sqlite://people.db"), ("LOG_LEVEL", "debug")]
      .databaseUrl := ⟨by decide, by decide⟩
  exact ((opensAlike_iff _ q (by decide) rfl).2 hspelled).2 ⟨by decide, by decide⟩

/-- A variable that is there but empty: the library asks for a name, the command for a database
without one. -/
theorem not_opensAlike_of_empty :
    ∃ _ : Prepared [("DATABASE_URL", "")] { search := "a=1", table := "people", allow := some "a" },
      Store.locate none [("DATABASE_URL", "")] = .error .noDatabase ∧
      (execute { first := fun _ => .ok (some [.int 0]), all := fun _ => .ok [] }
        [("DATABASE_URL", "")]
        { search := "a=1", table := "people", allow := some "a" }).path? = some [] ∧
      ¬OpensAlike [("DATABASE_URL", "")]
        (execute { first := fun _ => .ok (some [.int 0]), all := fun _ => .ok [] }
          [("DATABASE_URL", "")] { search := "a=1", table := "people", allow := some "a" }) := by
  obtain ⟨q⟩ : Nonempty (Prepared [("DATABASE_URL", "")]
      { search := "a=1", table := "people", allow := some "a" }) :=
    nonempty_prepared rfl rfl rfl rfl
  have hlocate : Store.locate none [("DATABASE_URL", "")] = .error .noDatabase := rfl
  have hopened : (execute { first := fun _ => .ok (some [.int 0]), all := fun _ => .ok [] }
      [("DATABASE_URL", "")]
      { search := "a=1", table := "people", allow := some "a" }).path? = some [] := by
    decide +kernel
  refine ⟨q, hlocate, hopened, fun h => ?_⟩
  rw [(h.refused _ hlocate).2] at hopened
  cases hopened

end Command

end Listing
