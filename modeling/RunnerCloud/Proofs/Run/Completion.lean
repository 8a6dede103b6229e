import RunnerCloud.Proofs.Run.Calls

/-!
Contract: what the events of a call tell about its outcome.

Owns:
- a call has returned exactly when it gave something;
- `Delivers`, operations that give a result only when the cloud has delivered what a request asks
  for;
- `Execution.Completes`, what holds of every run that starts an operation and fetches its result
  without looking at the cancel token: it always ends, it fetches the result of every operation that
  was started, and it succeeds exactly when the result could be fetched.

Does not own: watched waits.
-/

namespace RunnerCloud

open Operation

variable {α : Type}

namespace Operation

/-- A cancellation that arrives at most sets the token. -/
theorem cancellationArrives_events (arrives : Bool) (session : Session) :
    (cancellationArrives arrives session).events = [] ∨
      (cancellationArrives arrives session).events = [.tokenSet] := by
  rw [cancellationArrives_apply]
  unfold setToken
  split
  · split
    · exact Or.inl rfl
    · exact Or.inr rfl
  · exact Or.inl rfl

theorem cancellationArrives_ok (arrives : Bool) (session : Session) :
    (cancellationArrives arrives session).outcome = .ok () := by
  rw [cancellationArrives_apply]
  unfold setToken
  split
  · split <;> rfl
  · rfl

theorem settle_of_fault {behaviour : Behaviour} {fault : Fault} (request : Request)
    (faulty : behaviour.fault = some fault) (session : Session) :
    settle request behaviour session =
      ⟨.error (.failed (.fault fault)),
        (cancellationArrives behaviour.cancels session).events ++ [.raised request fault],
        (cancellationArrives behaviour.cancels session).session⟩ := by
  unfold settle
  rw [bind_apply_of_ok (cancellationArrives_ok ..), faulty]
  rfl

theorem settle_of_sound {behaviour : Behaviour} (request : Request)
    (sound : behaviour.fault = none) (session : Session) :
    settle request behaviour session =
      ⟨.ok behaviour,
        (cancellationArrives behaviour.cancels session).events ++ [.returned request],
        (cancellationArrives behaviour.cancels session).session⟩ := by
  unfold settle
  rw [bind_apply_of_ok (cancellationArrives_ok ..), sound]
  rfl

theorem fetch_of_fault {pending : Pending} {fault : Fault}
    (faulty : pending.behaviour.resultFault = some fault) (session : Session) :
    fetch pending session =
      ⟨.error (.failed (.fault fault)),
        .fetched pending.request false ::
          ((cancellationArrives pending.behaviour.cancelsAtResult session).events ++
            [.raised pending.request fault]),
        (cancellationArrives pending.behaviour.cancelsAtResult session).session⟩ := by
  have emitted : emit (.fetched pending.request pending.behaviour.resultFault.isNone) session =
      ⟨.ok (), [.fetched pending.request false], session⟩ := by
    rw [faulty]
    rfl
  unfold fetch
  rw [bind_apply_of_ok (by rw [emitted]), emitted, bind_apply_of_ok (cancellationArrives_ok ..),
    faulty]
  rfl

theorem fetch_of_sound {pending : Pending} (sound : pending.behaviour.resultFault = none)
    (session : Session) :
    fetch pending session =
      ⟨.ok (pending.behaviour.answerOf pending.request.method),
        .fetched pending.request true ::
          (cancellationArrives pending.behaviour.cancelsAtResult session).events,
        (cancellationArrives pending.behaviour.cancelsAtResult session).session⟩ := by
  have emitted : emit (.fetched pending.request pending.behaviour.resultFault.isNone) session =
      ⟨.ok (), [.fetched pending.request true], session⟩ := by
    rw [sound]
    rfl
  unfold fetch
  rw [bind_apply_of_ok (by rw [emitted]), emitted, bind_apply_of_ok (cancellationArrives_ok ..),
    sound]
  show (⟨_, .fetched pending.request true :: (_ ++ []), _⟩ : Execution Value) = _
  rw [List.append_nil]
  rfl

end Operation

/-! ## Calls -/

/-- The cancellation that may arrive while a call is settled. -/
def arrival (request : Request) (session : Session) : Execution Unit :=
  cancellationArrives (session.script.next request.method).cancels
    { session with script := session.script.advance request.method }

/-- Whatever arrives during a call, it is no event of a request. -/
theorem arrival_not_mem {arrives : Bool} {session : Session} {event : Event}
    (other : event ≠ .tokenSet) : event ∉ (cancellationArrives arrives session).events := by
  rcases cancellationArrives_events arrives session with none | set
  · simp [none]
  · simp [set, other]

theorem arrival_quiet (arrives : Bool) (session : Session) :
    Event.Quiet (cancellationArrives arrives session).events := by
  rcases cancellationArrives_events arrives session with none | set
  · simp [none]
  · simp [set, Event.startsWork]

theorem call_of_fault {request : Request} {session : Session} {fault : Fault}
    (faulty : (session.script.next request.method).fault = some fault) :
    call request session =
      ⟨.error (.failed (.fault fault)),
        .called request :: ((arrival request session).events ++ [.raised request fault]),
        (arrival request session).session⟩ := by
  rw [call_apply, settle_of_fault request faulty]
  rfl

theorem call_of_sound {request : Request} {session : Session}
    (sound : (session.script.next request.method).fault = none) :
    call request session =
      ⟨.ok (session.script.next request.method),
        .called request :: ((arrival request session).events ++ [.returned request]),
        (arrival request session).session⟩ := by
  rw [call_apply, settle_of_sound request sound]
  rfl

theorem returned_mem_call_iff (request : Request) (session : Session) :
    .returned request ∈ (call request session).events ↔
      ∃ behaviour, (call request session).outcome = .ok behaviour := by
  cases fault : (session.script.next request.method).fault with
  | some fault =>
      rw [call_of_fault fault]
      simp [arrival, arrival_not_mem]
  | none =>
      rw [call_of_sound fault]
      simp

theorem returned_mem_submit_iff (request : Request) (session : Session) :
    .returned request ∈ (submit request session).events ↔
      ∃ value, (submit request session).outcome = .ok value := by
  unfold submit
  cases ending : (call request session).outcome with
  | ok behaviour =>
      have returned := (returned_mem_call_iff request session).2 ⟨behaviour, ending⟩
      rw [bind_apply_of_ok ending]
      simp [returned]
  | error reason =>
      have unreturned : .returned request ∉ (call request session).events := by
        rw [returned_mem_call_iff, ending]
        simp
      rw [bind_apply_of_error ending]
      simp [unreturned]

/-! ## Deliveries -/

/-- The event by which the cloud delivers what a request asks for. -/
def Request.delivery (request : Request) : Event :=
  if request.method.isLongRunning then .fetched request true else .returned request

/-- A result means that the cloud has delivered what the request asks for. -/
def Delivers (request : Request) (operation : Operation α) : Prop :=
  ∀ session value, (operation session).outcome = .ok value →
    request.delivery ∈ (operation session).events

namespace Delivers

variable {β : Type} {request : Request}

theorem bind {operation : Operation α} (delivers : Delivers request operation)
    (next : α → Operation β) : Delivers request (operation >>= next) := by
  intro session final gives
  cases ending : (operation session).outcome with
  | ok value =>
      rw [bind_apply_of_ok ending]
      exact List.mem_append_left _ (delivers session value ending)
  | error reason =>
      rw [bind_apply_of_error ending] at gives
      cases gives

theorem after {next : α → Operation β} {operation : Operation α}
    (delivers : ∀ session value, (operation session).outcome = .ok value →
      Delivers request (next value)) : Delivers request (operation >>= next) := by
  intro session final gives
  cases ending : (operation session).outcome with
  | ok value =>
      rw [bind_apply_of_ok ending] at gives ⊢
      exact List.mem_append_right _ (delivers session value ending _ final gives)
  | error reason =>
      rw [bind_apply_of_error ending] at gives
      cases gives

theorem recover {operation : Operation α} (delivers : Delivers request operation)
    (rename : Failure → Failure) :
    Delivers request (operation.recover fun failure => fail (rename failure)) := by
  intro session value gives
  rw [recover_fail] at gives ⊢
  exact delivers session value (Execution.renamed_ok_iff.1 gives)

end Delivers

theorem delivers_call {request : Request} (short : request.method.isLongRunning = false) :
    Delivers request (call request) := by
  intro session behaviour gives
  rw [Request.delivery, if_neg (by simp [short])]
  exact (returned_mem_call_iff request session).2 ⟨behaviour, gives⟩

theorem delivers_fetch {pending : Pending} (long : pending.request.method.isLongRunning = true) :
    Delivers pending.request (fetch pending) := by
  intro session value gives
  rw [Request.delivery, if_pos long]
  cases lost : pending.behaviour.resultFault with
  | some fault =>
      rw [fetch_of_fault lost] at gives
      cases gives
  | none =>
      rw [fetch_of_sound lost]
      exact List.mem_cons_self ..

theorem delivers_watch {pending : Pending} (long : pending.request.method.isLongRunning = true)
    (looks waits : Nat) : Delivers pending.request (watch pending looks waits) := by
  induction looks generalizing waits with
  | zero =>
      intro session value gives
      cases gives
  | succ looks inductionHypothesis =>
      unfold watch
      split
      · exact delivers_fetch long
      · refine Delivers.after fun _ cancelled _ => ?_
        split
        · intro session value gives
          cases gives
        · exact Delivers.after fun _ _ _ => inductionHypothesis _

theorem delivers_complete {request : Request} (long : request.method.isLongRunning = true) :
    Delivers request (Cloud.complete true request) := by
  rw [complete_eq]
  exact Delivers.after fun _ behaviour _ => delivers_watch long _ _

/-! ## Completed operations -/

/-- The run starts an operation, for the faults of which `name` makes its failure, and fetches the
result whenever the operation was started. -/
structure Execution.Completes (request : Request) (name : Fault → Failure)
    (execution : Execution α) : Prop where
  begins : ∃ rest, execution.events = .called request :: rest ∧ Event.Quiet rest
  fetches : .returned request ∈ execution.events →
    ∃ succeeded, .fetched request succeeded ∈ execution.events
  succeeds : .fetched request true ∈ execution.events ↔ ∃ value, execution.outcome = .ok value
  stops : ∀ reason, execution.outcome = .error reason → ∃ fault,
    reason = .failed (name fault) ∧ .raised request fault ∈ execution.events

namespace Execution.Completes

variable {request : Request} {name : Fault → Failure}

theorem renamed {execution : Execution α} (completes : execution.Completes request name)
    (rename : Failure → Failure) :
    (execution.renamed rename).Completes request fun fault => rename (name fault) where
  begins := completes.begins
  fetches := completes.fetches
  succeeds := by
    simp only [Execution.renamed_ok_iff]
    exact completes.succeeds
  stops := by
    rintro (failure | _) ending
    · obtain ⟨given, failed, rfl⟩ := Execution.renamed_failed_iff.1 ending
      obtain ⟨fault, same, raised⟩ := completes.stops _ failed
      cases same
      exact ⟨fault, rfl, raised⟩
    · obtain ⟨fault, impossible, _⟩ := completes.stops _ (Execution.renamed_hung_iff.1 ending)
      cases impossible

theorem map {β : Type} {operation : Operation α} {session : Session}
    (completes : (operation session).Completes request name) (convert : α → β) :
    ((operation >>= fun value => pure (convert value)) session).Completes request name := by
  cases ending : (operation session).outcome with
  | ok value =>
      rw [bind_apply_of_ok ending]
      exact
        { begins := by simpa using completes.begins
          fetches := by simpa using completes.fetches
          succeeds := by simpa [ending] using completes.succeeds
          stops := by simp }
  | error reason =>
      rw [bind_apply_of_error ending]
      exact
        { begins := completes.begins
          fetches := completes.fetches
          succeeds := by simpa [ending] using completes.succeeds
          stops := by
            intro other same
            cases same
            exact completes.stops reason ending }

end Execution.Completes

/-- Nothing but a fault keeps an unwatched operation from completing. -/
theorem complete_completes (request : Request) (session : Session) :
    (Cloud.complete false request session).Completes request .fault := by
  rw [complete_eq]
  cases faulty : (session.script.next request.method).fault with
  | some fault =>
      have refused := call_of_fault faulty
      rw [bind_apply_of_error (by rw [refused]), refused]
      exact
        { begins := ⟨_, rfl, by simp [arrival, arrival_quiet, Event.startsWork]⟩
          fetches := by simp [arrival, arrival_not_mem]
          succeeds := by simp [arrival, arrival_not_mem]
          stops := by
            intro reason same
            cases same
            exact ⟨fault, rfl, by simp⟩ }
  | none =>
      have started := call_of_sound faulty
      rw [bind_apply_of_ok (by rw [started]), started]
      show Execution.Completes request .fault ⟨(fetch ⟨request, _⟩ _).outcome,
        _ ++ (fetch ⟨request, _⟩ _).events, (fetch ⟨request, _⟩ _).session⟩
      cases lost : (session.script.next request.method).resultFault with
      | some fault =>
          rw [fetch_of_fault lost]
          exact
            { begins := ⟨_, rfl, by simp [arrival, arrival_quiet, Event.startsWork]⟩
              fetches := fun _ => ⟨false, by simp⟩
              succeeds := by simp [arrival, arrival_not_mem]
              stops := by
                intro reason same
                cases same
                exact ⟨fault, rfl, by simp⟩ }
      | none =>
          rw [fetch_of_sound lost]
          exact
            { begins := ⟨_, rfl, by simp [arrival, arrival_quiet, Event.startsWork]⟩
              fetches := fun _ => ⟨true, by simp⟩
              succeeds := by simp
              stops := by simp }

end RunnerCloud
