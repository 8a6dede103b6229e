import RunnerCloud.Cloud.Operation

/-!
Contract: single calls to the cloud, and waiting for the operations they start.

Owns:
- `Operation.submit`, `begin` and `list`, the three forms of a call;
- `Operation.await`, which waits for a started operation. A watched wait looks at the cancel token
  before each further wait and gives up once it is set; an unwatched one fetches the result at once.

Does not own: what the calls are for; `Cloud.Client` makes sense of them.
-/

namespace RunnerCloud

/-- A long-running operation that the cloud has started. -/
structure Pending where
  request : Request
  behaviour : Behaviour
deriving DecidableEq, Repr

/-- The items of a listing and what happens behind the last one. -/
structure Listing where
  items : List Value
  fault : Option Fault
deriving DecidableEq, Repr

namespace Operation

/-- How a call that has started ends: a cancellation may arrive, then it may fail. -/
def settle (request : Request) (behaviour : Behaviour) : Operation Behaviour := do
  cancellationArrives behaviour.cancels
  raise request behaviour.fault
  emit (.returned request)
  return behaviour

/-- Calls the cloud, which meets the next behaviour of the method. -/
def call (request : Request) : Operation Behaviour := do
  emit (.called request)
  let before ← session
  setSession { before with script := before.script.advance request.method }
  settle request (before.script.next request.method)

/-- A call that gives its answer at once. -/
def submit (request : Request) : Operation Value := do
  let behaviour ← call request
  return behaviour.answerOf request.method

/-- A call that starts a long-running operation. -/
def begin (request : Request) : Operation Pending := do
  let behaviour ← call request
  return ⟨request, behaviour⟩

/-- A call that gives a listing. -/
def list (request : Request) : Operation Listing := do
  let behaviour ← call request
  return ⟨behaviour.items, behaviour.itemsFault⟩

/-- Fetches the result of a started operation. -/
def fetch (pending : Pending) : Operation Value := do
  emit (.fetched pending.request pending.behaviour.resultFault.isNone)
  cancellationArrives pending.behaviour.cancelsAtResult
  raise pending.request pending.behaviour.resultFault
  return pending.behaviour.answerOf pending.request.method

/-- The task that awaits this operation is cancelled, which sets the token. -/
def taskCancellationArrives : Operation Unit := do
  emit .taskCancelled
  setToken

/-- The first wait for something endless may be the moment at which the task is cancelled. -/
def taskCancellationMayArrive (pending : Pending) (waits : Nat) : Operation Unit := do
  if pending.behaviour.endless && waits == 1 && (← session).token.endsEndlessWait then
    taskCancellationArrives

/-- Waits once; `waits` counts this wait too. -/
def waitOnce (pending : Pending) (waits : Nat) : Operation Unit := do
  emit (.waited pending.request pending.behaviour.endless)
  taskCancellationMayArrive pending waits
  cancellationArrives (pending.behaviour.cancelsAtWait == some waits)
  raise pending.request (pending.behaviour.faultOfWait waits)

/-- Looks at most `looks` times whether a started operation is done. -/
def watch (pending : Pending) : Nat → Nat → Operation Value
  | 0, _ => stop .hung
  | looks + 1, waits => do
    if pending.behaviour.isDone waits then fetch pending
    else if ← isCancelled then fail .cancelledWaiting
    else
      waitOnce pending (waits + 1)
      watch pending looks (waits + 1)

/-- The result of a started operation. -/
def await (watched : Bool) (pending : Pending) : Operation Value :=
  if watched then watch pending pending.behaviour.looks 0 else fetch pending

end Operation

end RunnerCloud
