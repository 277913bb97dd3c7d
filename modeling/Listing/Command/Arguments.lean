import Listing.Text.Decimal

/-!
# The words of a command line

A command line has one operand, the query string, and options with two dashes: three that take a
value and one that asks for help. An option may be shortened as long as no other option starts the
same way, and its value is the next word or is attached by an equals sign. The first lone `--`
divides the words: all words after it are operands.

Every word before the divider is classified by itself, and then the words are taken from left to
right.
-/

namespace Listing.Command

/-- The options that take a value. -/
inductive Setting where
  | table
  | allow
  | database
deriving DecidableEq, Repr

/-- What an option asks for. -/
inductive Flag where
  | help
  | set (setting : Setting)
deriving DecidableEq, Repr

/-- The long options with their names. -/
def longOptions : List (Text × Flag) :=
  [("--help", .help), ("--table", .set .table), ("--allow", .set .allow),
    ("--database", .set .database)]

/-- What a word is, by itself. -/
inductive Word where
  | operand (t : Text)
  /-- An option, with the value attached to it, if any. -/
  | flag (f : Flag) (attached : Option Text)
  /-- A word that starts with a dash and is no option. -/
  | unknown
  /-- A word that no reading can save. -/
  | wrong
  /-- The word after which all words are operands. -/
  | divider
deriving DecidableEq, Repr

/-- A word without the line break that it may end in. -/
def dropFinalBreak (t : Text) : Text :=
  if t.getLast? = some '\n' then t.dropLast else t

/-- Whether a word looks like a negative number: a dash, then digits of any script, with at most
one point among them or in front of them. -/
def isNegativeNumber (t : Text) : Bool :=
  match dropFinalBreak t with
  | '-' :: rest =>
    match rest.splitOn '.' with
    | [whole] => !whole.isEmpty && whole.all Text.isDecimal
    | [whole, fraction] =>
      whole.all Text.isDecimal && !fraction.isEmpty && fraction.all Text.isDecimal
    | _ => false
  | _ => false

/-- Cuts a word at its first equals sign. -/
def splitAttached (t : Text) : Text × Option Text :=
  match t.dropWhile (· ≠ '=') with
  | _ :: value => (t.takeWhile (· ≠ '='), some value)
  | [] => (t, none)

/-- A word that is no option although it starts with a dash. -/
def classifyOther (t : Text) : Word :=
  if isNegativeNumber t || t.contains ' ' then .operand t else .unknown

/-- A word that starts with two dashes: the option that alone starts with its name. -/
def classifyLong (t : Text) : Word :=
  let (name, attached) := splitAttached t
  match longOptions.filter fun e => name.isPrefixOf e.1 with
  | [(_, f)] => .flag f attached
  | [] => classifyOther t
  | _ => .wrong

/-- The letters after the short option for help, after an equals sign or not: they can only repeat
it. -/
def classifyHelp (letters : Text) : Word :=
  let again :=
    match letters with
    | '=' :: rest => rest
    | _ => letters
  if letters.isEmpty || (!again.isEmpty && again.all (· = 'h')) then .flag .help none
  else .flag .help (some again)

/-- Classifies a word before the divider. -/
def classify (t : Text) : Word :=
  match t with
  | ['-', '-'] => .divider
  | '-' :: '-' :: _ => classifyLong t
  | '-' :: 'h' :: letters => classifyHelp letters
  | '-' :: _ :: _ => classifyOther t
  | _ => .operand t

/-- The words of a command line, classified; after the divider all are operands. -/
def classifyAll : List Text → List Word
  | [] => []
  | t :: rest =>
    if classify t = .divider then .divider :: rest.map .operand else classify t :: classifyAll rest

/-- The arguments of the command. An option that is absent counts as one with an empty value. -/
structure Arguments where
  search : Text
  table : Text := []
  /-- The fields that a request may speak of, as given; nothing if the value given was the
  divider. -/
  allow : Option Text := some []
  database : Text := []
deriving DecidableEq, Repr

/-- What a command line comes to. -/
inductive Invocation where
  | run (arguments : Arguments)
  | help
  | misuse
deriving DecidableEq, Repr

/-- The arguments found so far; the operand may still be missing. -/
structure Found where
  search : Option Text := none
  arguments : Arguments := { search := [] }
  /-- Whether some word was of no use. -/
  leftover : Bool := false

namespace Found

/-- Takes the value of an option; a later one replaces an earlier one. The divider, attached as a
value, is taken out like any first divider, and leaves the option without a value. -/
def set (f : Found) (s : Setting) (value : Text) : Found :=
  let given : Option Text := if value = "--" then none else some value
  match s with
  | .table => { f with arguments.table := given.getD [] }
  | .allow => { f with arguments.allow := given }
  | .database => { f with arguments.database := given.getD [] }

/-- A word that is of no use. -/
def leave (f : Found) : Found :=
  { f with leftover := true }

/-- What the words come to at their end. -/
def finish (f : Found) : Invocation :=
  match f.search, f.leftover with
  | some t, false => .run { f.arguments with search := t }
  | _, _ => .misuse

end Found

/-- Takes the words from left to right. The divider belongs to the operand before or after it. -/
def scan (f : Found) : List Word → Invocation
  | [] => f.finish
  | .operand t :: .divider :: rest =>
    if f.search.isNone then scan { f with search := some t } rest
    else scan f.leave rest
  | .operand t :: rest =>
    if f.search.isNone then scan { f with search := some t } rest else scan f.leave rest
  | .divider :: .operand t :: rest =>
    if f.search.isNone then scan { f with search := some t } rest else scan f.leave rest
  | .divider :: rest => scan f.leave rest
  | .unknown :: rest => scan f.leave rest
  | .flag .help none :: _ => .help
  | .flag .help (some _) :: _ => .misuse
  | .flag (.set s) (some value) :: rest => scan (f.set s value) rest
  | .flag (.set s) none :: .operand value :: rest => scan (f.set s value) rest
  | .flag (.set _) none :: _ => .misuse
  | .wrong :: _ => .misuse

/-- Reads a command line. A word that no reading can save spoils it wherever it stands. -/
def parse (words : List Text) : Invocation :=
  let classified := classifyAll words
  if classified.contains .wrong then .misuse else scan {} classified

example : parse ["--tab=t", "-5", "--allow", "a,b"] =
    .run { search := "-5", table := "t", allow := some "a,b" } := by decide
example : parse ["a", "-x"] = .misuse ∧ parse ["-x", "-hh"] = .help := by decide

end Listing.Command
