import RunnerCloud.Cloud.Event
import RunnerCloud.Failure

/-!
Contract: operations on the cloud, which may fail, be cancelled, or wait forever.

Owns:
- `CancelToken`, by which the caller of an operation asks it to stop;
- `Session`, what outlives an operation: how the cloud will answer, and the supplies of identifiers
  and random letters;
- `Operation`, whose runs, `Execution`s, have an outcome, the events in their order, and the session
  after them; `bind` appends the events of what follows;
- `Operation.recover`, which keeps the events of the part that failed.

Does not own: calls to the cloud; `Cloud.Call` makes them.
-/

namespace RunnerCloud

structure CancelToken where
  isSet : Bool
  /-- The caller holds the token, so that a cancellation can arrive through it. -/
  shared : Bool
  /-- The awaiting task is cancelled when the operation first waits for something endless. -/
  endsEndlessWait : Bool
deriving DecidableEq, Repr

namespace CancelToken

/-- A token that nobody but the operation holds. -/
def unshared : CancelToken :=
  ⟨false, false, false⟩

/-- A token that the caller holds. -/
def held (isSet : Bool) : CancelToken :=
  ⟨isSet, true, false⟩

end CancelToken

/-- Why an operation gives no result. -/
inductive Stop where
  | failed (failure : Failure)
  /-- It waits forever. -/
  | hung
deriving DecidableEq, Repr

structure Session where
  script : CloudScript
  token : CancelToken
  /-- The serial of the next generated identifier. -/
  nextSerial : Nat
  /-- The random numbers that are still to be drawn. -/
  draws : Nat → Nat

namespace Session

/-- A session with its supplies, in which nothing was done yet. -/
def start (script : CloudScript) (firstSerial : Nat) (draws : Nat → Nat) : Session :=
  ⟨script, .unshared, firstSerial, draws⟩

/-- The session in which the next operation runs under its own token. -/
def withToken (session : Session) (token : CancelToken) : Session :=
  { session with token := token }

end Session

structure Execution (α : Type) where
  outcome : Except Stop α
  events : List Event
  session : Session

/-- What an operation does in a session. -/
def Operation (α : Type) := Session → Execution α

namespace Operation

variable {α β ε : Type}

def run (operation : Operation α) (session : Session) : Execution α :=
  operation session

/-- Continues after a result; the events of both parts are kept. -/
def bind (operation : Operation α) (next : α → Operation β) : Operation β := fun session =>
  let first := operation session
  match first.outcome with
  | .ok value =>
    let second := next value first.session
    ⟨second.outcome, first.events ++ second.events, second.session⟩
  | .error stop => ⟨.error stop, first.events, first.session⟩

instance : Monad Operation where
  pure value := fun session => ⟨.ok value, [], session⟩
  bind := bind

@[simp]
theorem pure_apply (value : α) (session : Session) :
    (pure value : Operation α) session = ⟨.ok value, [], session⟩ :=
  rfl

/-- After a result the continuation runs in the session that the first part leaves. -/
theorem bind_apply_of_ok {operation : Operation α} {next : α → Operation β} {session : Session}
    {value : α} (succeeds : (operation session).outcome = .ok value) :
    (operation >>= next) session =
      ⟨(next value (operation session).session).outcome,
        (operation session).events ++ (next value (operation session).session).events,
        (next value (operation session).session).session⟩ := by
  show bind operation next session = _
  simp only [bind, succeeds]

/-- Without a result there is no continuation. -/
theorem bind_apply_of_error {operation : Operation α} {next : α → Operation β}
    {session : Session} {reason : Stop} (stops : (operation session).outcome = .error reason) :
    (operation >>= next) session =
      ⟨.error reason, (operation session).events, (operation session).session⟩ := by
  show bind operation next session = _
  simp only [bind, stops]

/-- It makes no difference which of three parts are put together first. -/
theorem bind_assoc {γ : Type} (operation : Operation α) (next : α → Operation β)
    (last : β → Operation γ) :
    operation >>= next >>= last = operation >>= fun value => next value >>= last := by
  funext session
  show bind (bind operation next) last session =
    bind operation (fun value => bind (next value) last) session
  simp only [bind]
  cases (operation session).outcome with
  | error reason => rfl
  | ok value =>
      dsimp only
      cases (next value (operation session).session).outcome with
      | error reason => rfl
      | ok middle => simp only [List.append_assoc]

/-- Ends without a result. -/
def stop (reason : Stop) : Operation α := fun session =>
  ⟨.error reason, [], session⟩

def fail (failure : Failure) : Operation α :=
  stop (.failed failure)

@[simp]
theorem fail_apply (failure : Failure) (session : Session) :
    (fail failure : Operation α) session = ⟨.error (.failed failure), [], session⟩ :=
  rfl

/-- Continues after a failure; an operation that waits forever has no continuation. -/
def recover (operation : Operation α) (handle : Failure → Operation α) : Operation α :=
  fun session =>
    let first := operation session
    match first.outcome with
    | .error (.failed failure) =>
      let second := handle failure first.session
      ⟨second.outcome, first.events ++ second.events, second.session⟩
    | _ => first

theorem recover_apply_of_failed {operation : Operation α} {handle : Failure → Operation α}
    {session : Session} {failure : Failure}
    (fails : (operation session).outcome = .error (.failed failure)) :
    operation.recover handle session =
      ⟨(handle failure (operation session).session).outcome,
        (operation session).events ++ (handle failure (operation session).session).events,
        (handle failure (operation session).session).session⟩ := by
  simp only [recover, fails]

theorem recover_apply_of_ok {operation : Operation α} {handle : Failure → Operation α}
    {session : Session} {value : α} (succeeds : (operation session).outcome = .ok value) :
    operation.recover handle session = operation session := by
  simp only [recover, succeeds]

theorem recover_apply_of_hung {operation : Operation α} {handle : Failure → Operation α}
    {session : Session} (hangs : (operation session).outcome = .error .hung) :
    operation.recover handle session = operation session := by
  simp only [recover, hangs]

def ofExcept (wrap : ε → Failure) : Except ε α → Operation α
  | .ok value => pure value
  | .error problem => fail (wrap problem)

def emit (event : Event) : Operation Unit := fun session =>
  ⟨.ok (), [event], session⟩

/-- The state of the session. -/
def session : Operation Session := fun session =>
  ⟨.ok session, [], session⟩

def setSession (next : Session) : Operation Unit := fun _ =>
  ⟨.ok (), [], next⟩

/-- Fails when what was called for has a fault. -/
def raise (request : Request) : Option Fault → Operation Unit
  | some fault => do
    emit (.raised request fault)
    fail (.fault fault)
  | none => pure ()

/-- Sets the token, which is an event only when it was not set before. -/
def setToken : Operation Unit := fun session =>
  if session.token.isSet then ⟨.ok (), [], session⟩
  else
    ⟨.ok (), [.tokenSet], { session with token := { session.token with isSet := true } }⟩

/-- A cancellation arrives; it reaches a shared token only. -/
def cancellationArrives (arrives : Bool) : Operation Unit := do
  if arrives && (← session).token.shared then setToken

/-- Whether the token is set. -/
def isCancelled : Operation Bool := do
  return (← session).token.isSet

/-- A serial that no other call of this operation gives. -/
def drawSerial : Operation Nat := fun session =>
  ⟨.ok session.nextSerial, [], { session with nextSerial := session.nextSerial + 1 }⟩

/-- Random numbers. -/
def drawNumbers (count : Nat) : Operation (List Nat) := fun session =>
  ⟨.ok ((List.range count).map session.draws), [],
    { session with draws := fun position => session.draws (position + count) }⟩

end Operation

end RunnerCloud
