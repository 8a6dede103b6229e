import RunnerCloud.Data.Equality
import RunnerCloud.Json.Printer
import RunnerCloud.Log.Level
import RunnerCloud.Number.DigitLimit

/-!
Contract: structured log records and the JSON lines they are written as.

Owns:
- `Correlation`, the identifier that the records of one operation share;
- `LogRecord`, a record with its context, of which null parts are left out;
- `LogRecord.toValue` and `LogRecord.line`, the record as a document and as one line of JSON;
- `LogContext.record?`, the record that a logger makes for its caller.

Does not own: the clock; the caller supplies the time stamp.
-/

namespace RunnerCloud

/-- What ties the records of one operation together. -/
inductive Correlation where
  | absent
  | given (identifier : Value)
  | generated (serial : Nat)
deriving DecidableEq, Repr

namespace Correlation

/-- Lower-case hexadecimal, at least twelve digits, so that different serials differ in text. -/
def serialText (serial : Nat) : String :=
  let digits := Nat.toDigits 16 serial
  String.ofList (List.replicate (12 - digits.length) '0' ++ digits)

def toValue : Correlation → Value
  | .absent => .null
  | .given identifier => identifier
  | .generated serial => .text (serialText serial)

/-- An identifier that counts as not given is replaced by a generated one. -/
def orGenerated (identifier : Value) (serial : Nat) : Correlation :=
  if identifier.isEmptyLike then .generated serial else .given identifier

end Correlation

structure LogRecord where
  level : Int
  logger : Text
  message : Text
  correlation : Correlation
  instanceName : Value
  step : Value
  operation : Value
  /-- The text of the error that was being handled. -/
  exception : Option Text
deriving DecidableEq, Repr

namespace LogRecord

/-- The logger of the provider. -/
def providerLogger : Text := "garm_azure"

/-- An entry, unless its value is null. -/
def contextEntry (key : Text) : Value → Fields
  | .null => []
  | value => [(key, value)]

def context (record : LogRecord) : Fields :=
  contextEntry "request_id" record.correlation.toValue ++
    contextEntry "instance" record.instanceName ++
    contextEntry "step" record.step ++
    contextEntry "operation" record.operation

/-- The record as a document with the given time stamp. -/
def toValue (record : LogRecord) (timestamp : Text) : Value :=
  .dict (([
    ("timestamp", .text timestamp),
    ("level", .text (LogLevel.name record.level)),
    ("logger", .text record.logger),
    ("message", .text record.message)] : Fields) ++
    record.context ++
    contextEntry "exception" (.ofText? record.exception))

/-- The record as one line of JSON. -/
def line (record : LogRecord) (timestamp : Text) : String :=
  Json.compact (record.toValue timestamp)

end LogRecord

/-- What the caller of a logger says about a record besides its severity and message. -/
structure LogContext where
  requestId : Value
  instanceName : Value
  step : Value
  operation : Value
  /-- Whether the error being handled is shown. -/
  showsError : Bool
deriving DecidableEq, Repr

/-- The record that a logger makes; `handled` is the text of the error being handled. A level whose
number is too long to be written has no name, and there is no record of it. -/
def LogContext.record? (context : LogContext) (logger : Text) (level : Int) (message : Text)
    (serial : Nat) (handled : Option Text) : Option LogRecord :=
  if Number.fits level then
    some
      { level := level
        logger := logger
        message := message
        correlation := .orGenerated context.requestId serial
        instanceName := context.instanceName
        step := context.step
        operation := context.operation
        exception := if context.showsError then handled else none }
  else none

end RunnerCloud
