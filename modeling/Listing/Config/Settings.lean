import Listing.Config.Environment
import Listing.Log
import Listing.Numeral

/-!
# Settings

The settings of the program, from the environment: the database, the least level of log entries
that are shown, and the greatest page size that a request can ask for. Each has a default; a value
that cannot be used is a fault, and all faults are reported together.
-/

namespace Listing

/-- Why the value of a variable cannot be used. -/
inductive SettingFault where
  /-- The value is no setting of this variable. -/
  | refused
  /-- The value is not a whole number. -/
  | notInteger
  /-- The value is a whole number of more digits than are ever converted. -/
  | tooManyDigits
deriving DecidableEq, Repr

/-- The settings of the program. -/
structure Settings where
  database : Option Text := none
  logLevel : Level := .info
  maxLimit : Nat := 100
deriving DecidableEq, Repr

namespace Settings

/-- Drops the zeros that a numeral starts with, and the underscores among them, up to the first
other digit or a minus sign. Where the number ends before that, or goes on with a point, the last
character of what would be dropped stays. -/
def dropZeros? : Text → Option Text
  | '0' :: rest =>
    let isFiller (c : Char) : Bool := c = '0' || c = '_'
    let last := ((rest.takeWhile isFiller).getLast?).getD '0'
    match rest.dropWhile isFiller with
    | [] => some [last]
    | '.' :: fraction => some (last :: '.' :: fraction)
    | c :: after => if c.isDigit || c = '-' then some (c :: after) else none
  | c :: rest => if c.isDigit then some (c :: rest) else none
  | [] => none

/-- Drops a point with zeros after it, at least one. -/
def dropFraction (t : Text) : Text :=
  match t.dropWhile (· ≠ '.') with
  | _ :: fraction =>
    if !fraction.isEmpty && fraction.all (· = '0') then t.takeWhile (· ≠ '.') else t
  | [] => t

/-- Whether every underscore of a text has other characters on both sides. -/
def underscoresApart (t : Text) : Bool :=
  (t.splitOn '_').all fun part => !part.isEmpty

/-- Drops underscores, if they stand apart. -/
def dropUnderscores (t : Text) : Text :=
  if underscoresApart t then t.filter (· ≠ '_') else t

/-- Reads a minus sign, if there is one, and digits, the first of which is no zero if others
follow. -/
def readPlain (t : Text) : Except SettingFault Int :=
  let (negative, digits) :=
    match t with
    | '-' :: rest => (true, rest)
    | _ => (false, t)
  let run := digits.takeWhile Char.isDigit
  if run.isEmpty || (run.head? = some '0' && 1 < run.length) then .error .notInteger
  else if Numeral.maxDigits < run.length then .error .tooManyDigits
  else if run.length < digits.length then .error .notInteger
  else .ok (Numeral.signed negative (Numeral.value run))

/-- Reads a whole number: white space around it, a sign, zeros in front, digits with single
underscores among them, and a fraction of zeros. -/
def readInteger (t : Text) : Except SettingFault Int :=
  let (negative, rest) := Numeral.splitSign (Text.trimWith Text.isSpace t)
  match dropZeros? rest with
  | none => .error .notInteger
  | some digits =>
    let plain := dropUnderscores (dropFraction digits)
    readPlain (if negative then '-' :: plain else plain)

/-- The levels that may be set. -/
def settable : List Level :=
  [.debug, .info, .warning, .error, .critical]

/-- Reads the least level that is shown: its full name in any case. -/
def readLevel (t : Text) : Except SettingFault Level :=
  match settable.find? fun l => l.name == Text.uppercase t with
  | some l => .ok l
  | none => .error .refused

/-- Reads the greatest page size, which is positive. -/
def readMaxLimit (t : Text) : Except SettingFault Nat :=
  match readInteger t with
  | .error fault => .error fault
  | .ok n => if n ≤ 0 then .error .refused else .ok n.toNat

/-- A setting from its variable, or the default if the variable is not set. -/
def setting {α : Type} (env : Environment) (v : Variable) (default : α)
    (read : Text → Except SettingFault α) : Except SettingFault α :=
  match env.getAnyCase? v with
  | none => .ok default
  | some t => read t

/-- The settings of an environment, or the variables that cannot be used. -/
def load (env : Environment) : Except (List (Variable × SettingFault)) Settings :=
  let level := setting env .logLevel Level.info readLevel
  let maxLimit := setting env .maxLimit 100 readMaxLimit
  match level, maxLimit with
  | .ok level, .ok maxLimit => .ok ⟨env.getAnyCase? .databaseUrl, level, maxLimit⟩
  | .error e, .ok _ => .error [(.logLevel, e)]
  | .ok _, .error e => .error [(.maxLimit, e)]
  | .error e, .error e' => .error [(.logLevel, e), (.maxLimit, e')]

example : (readInteger " +1_000.00 ").toOption = some 1000 := by decide
example : (readInteger "1_").toOption = none ∧ (readInteger "7.").toOption = none := by decide

end Settings

end Listing
