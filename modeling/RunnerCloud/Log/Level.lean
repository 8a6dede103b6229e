import RunnerCloud.Text.Quoted
import RunnerCloud.Text.UpperCase

/-!
Contract: the severities of log records.

Owns:
- the numbers of the named severities and the name of every number;
- `LogLevel.ofText`, which reads a name in any letter case;
- `LogLevel.passes`, whether a logger of some level keeps a record.

Does not own: what is logged.
-/

namespace RunnerCloud

/-- A name that is no severity, after upper-casing. -/
structure UnknownLevel where
  written : Text
deriving DecidableEq, Repr

def UnknownLevel.message (unknown : UnknownLevel) : Text :=
  "Unknown level: " ++ Text.quoted unknown.written

namespace LogLevel

/-- The level of a logger that was given none. -/
def notSet : Int := 0

def debug : Int := 10

def info : Int := 20

def warning : Int := 30

def error : Int := 40

def critical : Int := 50

/-- The severities with the names that records show. -/
def names : List (Int × Text) := [
  (notSet, "NOTSET"), (debug, "DEBUG"), (info, "INFO"), (warning, "WARNING"), (error, "ERROR"),
  (critical, "CRITICAL")]

/-- Further names that are read but never shown. -/
def synonyms : List (Int × Text) := [(warning, "WARN"), (critical, "FATAL")]

def name (level : Int) : Text :=
  (names.lookup level).getD ("Level " ++ level.repr)

/-- The severity with a name, in any letter case. -/
def ofText (written : Text) : Except UnknownLevel Int :=
  let upper := Text.upperCase written
  match (names ++ synonyms).find? fun entry => entry.2 == upper with
  | some (level, _) => .ok level
  | none => .error ⟨upper⟩

/-- A logger of level `notSet` keeps what a logger of level `warning` keeps. -/
def threshold (level : Int) : Int :=
  if level == notSet then warning else level

/-- Whether a logger of level `level` keeps a record of severity `severity`. -/
def passes (level severity : Int) : Bool :=
  decide (threshold level ≤ severity)

end LogLevel

end RunnerCloud
