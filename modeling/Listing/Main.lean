import Listing.Command.Execute

/-!
# The command line

Runs the command on the words and the environment of the process. No database engine is linked, so
no database can be opened; without a table the command needs none.
-/

namespace Listing

/-- No database can be opened, and no statement is answered. -/
def noEngine : Store.Backend where
  opens _ := .error "no database engine is available"
  first _ := .error "no database engine is available"
  all _ := .error "no database engine is available"

/-- The environment of the process, as far as it is read. -/
def processEnvironment : IO Environment := do
  let found ← [Variable.databaseUrl, .logLevel, .maxLimit].filterMapM fun v => do
    let value ← IO.getEnv (String.ofList v.name)
    return value.map fun t => (v.name, t.toList)
  return found

/-- Shows one event of a run. -/
def show? (e : Event) : IO Unit :=
  match e with
  | .printed line => IO.println (String.ofList line)
  | .complained line => IO.eprintln (String.ofList line)
  | .logged entry => IO.eprintln (String.ofList entry.line)
  | .opened _ | .unopened _ | .executed _ | .closed => pure ()

end Listing

open Listing in
/-- Runs the command on the words of the command line. -/
def main (words : List String) : IO UInt32 := do
  match Command.parse (words.map String.toList) with
  | .help =>
    IO.println "usage: search [--table TABLE] [--allow FIELDS] [--database PATH]"
    return 0
  | .misuse =>
    IO.eprintln "usage: search [--table TABLE] [--allow FIELDS] [--database PATH]"
    return 2
  | .run arguments =>
    let run := Command.execute noEngine (← processEnvironment) arguments
    run.events.forM show?
    match run.outcome with
    | .ok code => return UInt32.ofNat code
    | .error failure =>
      IO.eprintln (String.ofList failure.message)
      return 1
