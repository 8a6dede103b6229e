import RunnerCloud.Proofs.Run.Calls
import RunnerCloud.Proofs.Run.Waiting

/-!
Contract: operations that ask the cloud, and leave the log and the supply of serials alone.

Owns:
- `Execution.Asks`, a run that makes given calls and does nothing else that a log could show;
- `Operation.Asks`, by which every run of an operation does so, however the cloud answers, with its
  lemmas for the forms in which operations are built, and for calls and waits.

Does not own: operations that write to the log.
-/

namespace RunnerCloud

variable {α β ε : Type}

/-- A run that makes these calls, writes nothing to the log and draws no serial. -/
structure Execution.Asks (calls : List Request) (session : Session) (execution : Execution α) :
    Prop where
  requests : Event.requests execution.events = calls
  silent : Event.logRecords execution.events = []
  serial : execution.session.nextSerial = session.nextSerial

namespace Operation

/-- However the cloud answers, the operation makes these calls, and nothing of it can be logged. -/
def Asks (calls : List Request) (operation : Operation α) : Prop :=
  ∀ session, (operation session).Asks calls session

/-! ## The forms of operations -/

theorem asks_pure (value : α) : Asks [] (pure value) :=
  fun _ => ⟨rfl, rfl, rfl⟩

theorem asks_stop (reason : Stop) : Asks [] (stop reason : Operation α) :=
  fun _ => ⟨rfl, rfl, rfl⟩

theorem asks_fail (failure : Failure) : Asks [] (fail failure : Operation α) :=
  asks_stop (.failed failure)

theorem asks_ofExcept {wrap : ε → Failure} {given : Except ε α} :
    Asks [] (ofExcept wrap given) := by
  cases given with
  | ok value => exact asks_pure value
  | error problem => exact asks_fail _

/-- What makes no call may follow. -/
theorem Asks.bind {operation : Operation α} {next : α → Operation β} {calls : List Request}
    (first : Asks calls operation) (rest : ∀ value, Asks [] (next value)) :
    Asks calls (operation >>= next) := by
  intro session
  have early := first session
  cases ending : (operation session).outcome with
  | error reason =>
      rw [bind_apply_of_error ending]
      exact ⟨early.requests, early.silent, early.serial⟩
  | ok value =>
      have late := rest value (operation session).session
      rw [bind_apply_of_ok ending]
      exact ⟨by rw [Event.requests_append, early.requests, late.requests, List.append_nil],
        by rw [Event.logRecords_append, early.silent, late.silent, List.append_nil],
        late.serial.trans early.serial⟩

theorem Asks.renamed {operation : Operation α} {calls : List Request}
    (asks : Asks calls operation) (rename : Failure → Failure) :
    Asks calls (operation.recover fun failure => fail (rename failure)) := by
  intro session
  rw [recover_fail]
  exact ⟨(asks session).requests, (asks session).silent, (asks session).serial⟩

theorem asks_emit {event : Event} (noCall : event.request? = none)
    (noRecord : event.logRecord? = none) : Asks [] (emit event) := by
  intro session
  refine ⟨?_, ?_, rfl⟩
  · show Event.requests [event] = []
    rw [Event.requests_cons, noCall]
    rfl
  · show Event.logRecords [event] = []
    rw [Event.logRecords_cons, noRecord]
    rfl

theorem asks_isCancelled : Asks [] isCancelled :=
  fun _ => ⟨rfl, rfl, rfl⟩

theorem asks_setToken : Asks [] setToken := by
  intro session
  unfold setToken
  split <;> exact ⟨rfl, rfl, rfl⟩

theorem asks_cancellationArrives (arrives : Bool) : Asks [] (cancellationArrives arrives) := by
  intro session
  rw [cancellationArrives_apply]
  split
  · exact asks_setToken session
  · exact ⟨rfl, rfl, rfl⟩

theorem asks_raise (request : Request) (fault : Option Fault) : Asks [] (raise request fault) := by
  cases fault with
  | none => exact asks_pure _
  | some fault => exact (asks_emit rfl rfl).bind fun _ => asks_fail _

/-! ## Calls -/

section Calls

variable (request : Request)

theorem asks_settle (behaviour : Behaviour) : Asks [] (settle request behaviour) := by
  refine (asks_cancellationArrives _).bind fun _ => (asks_raise request _).bind fun _ => ?_
  exact (asks_emit rfl rfl).bind fun _ => asks_pure _

/-- A call is one call, whether or not the token is set and whatever it meets. -/
theorem asks_call : Asks [request] (call request) := by
  intro session
  have settled := asks_settle request (session.script.next request.method)
    { session with script := session.script.advance request.method }
  rw [call_apply]
  refine ⟨?_, ?_, settled.serial⟩
  · rw [Event.requests_cons, settled.requests]
    rfl
  · rw [Event.logRecords_cons, settled.silent]
    rfl

theorem asks_submit : Asks [request] (submit request) :=
  (asks_call request).bind fun _ => asks_pure _

theorem asks_list : Asks [request] (list request) :=
  (asks_call request).bind fun _ => asks_pure _

end Calls

/-! ## Waits -/

theorem asks_taskCancellationMayArrive (pending : Pending) (waits : Nat) :
    Asks [] (taskCancellationMayArrive pending waits) := by
  intro session
  rw [taskCancellationMayArrive_apply]
  split
  · exact (asks_emit rfl rfl).bind (fun _ => asks_setToken) session
  · exact ⟨rfl, rfl, rfl⟩

theorem waiting_asks (pending : Pending) :
    Waiting pending fun _ operation => Asks [] operation where
  result := asks_pure
  sequence := fun first rest => first.bind rest
  hung := asks_stop _
  cancelled := asks_fail _
  looked := asks_isCancelled
  waited := asks_emit rfl rfl
  fetched := fun _ => asks_emit rfl rfl
  arrives := asks_cancellationArrives
  taskArrives := asks_taskCancellationMayArrive pending
  refused := fun _ => asks_raise _ _
  lost := asks_raise _ _

theorem asks_complete (watched : Bool) (request : Request) :
    Asks [request] (Cloud.complete watched request) := by
  rw [complete_eq]
  exact (asks_call request).bind fun behaviour =>
    (waiting_asks ⟨request, behaviour⟩).await watched

end Operation

end RunnerCloud
