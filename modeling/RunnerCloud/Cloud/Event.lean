import RunnerCloud.Cloud.Behaviour
import RunnerCloud.Log.Record

/-!
Contract: what happens while an operation runs.

Owns:
- `Event`, one thing that happens, in the order in which things happen;
- `CallRecord`, a call with what became of it, and `CallRecord.ofEvents`, the calls of a run;
- `Event.logRecords`, the log of a run.

Does not own: which events an operation causes.
-/

namespace RunnerCloud

inductive Event where
  /-- A call to the cloud starts. -/
  | called (request : Request)
  /-- A call returns. -/
  | returned (request : Request)
  /-- The cancel token becomes set. -/
  | tokenSet
  /-- The task that awaits the operation is cancelled. -/
  | taskCancelled
  /-- The operation that a call started is waited for once. -/
  | waited (request : Request) (endless : Bool)
  /-- The result of the operation that a call started is fetched. -/
  | fetched (request : Request) (succeeded : Bool)
  /-- A call, a wait, the fetching of a result or the end of a listing fails. -/
  | raised (request : Request) (fault : Fault)
  /-- A record is written to the log. -/
  | logged (record : LogRecord)
deriving DecidableEq, Repr

namespace Event

def logRecord? : Event → Option LogRecord
  | .logged record => some record
  | _ => none

def request? : Event → Option Request
  | .called request => some request
  | _ => none

/-- The log of a run. -/
def logRecords (events : List Event) : List LogRecord :=
  events.filterMap logRecord?

/-- The calls of a run. -/
def requests (events : List Event) : List Request :=
  events.filterMap request?

end Event

/-- What became of a long-running operation. -/
structure OperationProgress where
  waits : Nat
  /-- It was waited for and never ends. -/
  waitedEndlessly : Bool
  fetched : Bool
deriving DecidableEq, Repr

structure CallRecord where
  request : Request
  /-- None unless the call returned and started a long-running operation. -/
  progress : Option OperationProgress
deriving DecidableEq, Repr

namespace CallRecord

/-- The record of a call that has just started. -/
def start (request : Request) : CallRecord :=
  ⟨request, none⟩

/-- What an event adds to the record of the latest call. -/
def extend (record : CallRecord) : Event → CallRecord
  | .returned _ =>
    if record.request.method.isLongRunning then
      { record with progress := some ⟨0, false, false⟩ }
    else record
  | .waited _ endless =>
    { record with
      progress := record.progress.map fun progress =>
        { progress with
          waits := progress.waits + 1
          waitedEndlessly := progress.waitedEndlessly || endless } }
  | .fetched _ _ =>
    { record with
      progress := record.progress.map fun progress => { progress with fetched := true } }
  | _ => record

/-- The records of the calls made after a call that is in flight, its own record first. -/
def following (record : CallRecord) : List Event → List CallRecord
  | [] => [record]
  | .called request :: rest => record :: following (start request) rest
  | event :: rest => following (record.extend event) rest

/-- The calls of a run, in order. -/
def ofEvents : List Event → List CallRecord
  | [] => []
  | .called request :: rest => following (start request) rest
  | _ :: rest => ofEvents rest

/-- The waits are not counted for an operation that never ends. -/
def progressEntries : Option OperationProgress → Fields
  | none => []
  | some progress => [
    ("waits", if progress.waitedEndlessly then .null else .int progress.waits),
    ("result", .bool progress.fetched)]

def toValue (record : CallRecord) : Value :=
  .dict (([
    ("method", .text record.request.method.text),
    ("args", .list record.request.arguments),
    ("kwargs", .dict record.request.options)] : Fields) ++
    progressEntries record.progress)

end CallRecord

end RunnerCloud
