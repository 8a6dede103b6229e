import RunnerCloud.Cloud.Fault
import RunnerCloud.Cloud.Request

/-!
Contract: how the cloud answers.

Owns:
- `Behaviour`, the course of one call: faults at the call, at a wait or at the result, cancellations
  that arrive meanwhile, how often an operation is waited for, and the answer;
- `CloudScript`, the behaviours that the calls of each method meet, one after another.

Does not own: what the provider does with an answer.
-/

namespace RunnerCloud

structure Behaviour where
  /-- A cancellation arrives with the call. -/
  cancels : Bool := false
  /-- The call fails. -/
  fault : Option Fault := none
  /-- What the call or the finished operation gives; none stands for the usual answer. -/
  answer : Option Value := none
  /-- The operation is done after so many waits. -/
  polls : Nat := 0
  /-- The operation is never done. -/
  endless : Bool := false
  /-- A cancellation arrives during this wait, counted from one. -/
  cancelsAtWait : Option Nat := none
  /-- So many waits succeed before the first one that can fail. -/
  soundWaits : Nat := 0
  /-- Every wait after the sound ones fails. -/
  waitFault : Option Fault := none
  /-- A cancellation arrives while the result is fetched. -/
  cancelsAtResult : Bool := false
  /-- Fetching the result fails. -/
  resultFault : Option Fault := none
  /-- The items of a listing. -/
  items : List Value := []
  /-- The listing fails behind its last item. -/
  itemsFault : Option Fault := none
deriving DecidableEq, Repr

namespace Behaviour

/-- Whether the operation is done once it was waited for `waits` times. -/
def isDone (behaviour : Behaviour) (waits : Nat) : Bool :=
  !behaviour.endless && decide (behaviour.polls ≤ waits)

/-- The fault of a wait, counted from one. -/
def faultOfWait (behaviour : Behaviour) (wait : Nat) : Option Fault :=
  if behaviour.soundWaits < wait then behaviour.waitFault else none

/-- The waits after which nothing new happens to an endless operation: the scripted cancellation
has arrived, and the first wait that can fail is over. -/
def eventfulWaits (behaviour : Behaviour) : Nat :=
  max (behaviour.soundWaits + 1) (behaviour.cancelsAtWait.getD 0)

/-- How often a watched operation is looked at before its end is known: an endless one is
looked at once more than it has eventful waits. -/
def looks (behaviour : Behaviour) : Nat :=
  if behaviour.endless then behaviour.eventfulWaits + 1
  else behaviour.polls + 1

/-- The usual answer of a method is a resource with an identifier. -/
def usualAnswer (method : CloudMethod) : Value :=
  .dict [("id", .text ("id:" ++ method.service))]

def answerOf (behaviour : Behaviour) (method : CloudMethod) : Value :=
  behaviour.answer.getD (usualAnswer method)

end Behaviour

/-- The behaviours that the coming calls of each method meet; later calls meet the usual one. -/
abbrev CloudScript := CloudMethod → List Behaviour

namespace CloudScript

/-- The behaviour of the next call of a method. -/
def next (script : CloudScript) (method : CloudMethod) : Behaviour :=
  (script method).headD {}

/-- The script once a method was called. -/
def advance (script : CloudScript) (method : CloudMethod) : CloudScript :=
  fun other => if other = method then (script method).tail else script other

/-- A cloud that accepts every call. -/
def accepting : CloudScript :=
  fun _ => []

end CloudScript

end RunnerCloud
