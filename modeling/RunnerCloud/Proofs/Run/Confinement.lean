import RunnerCloud.Proofs.Run.Calls
import RunnerCloud.Proofs.Run.Waiting

/-!
Contract: how operations can fail when the cloud has permitted faults only.

Owns:
- `CloudScript.OnlyFaults`, by which every fault that a script has in store is permitted;
- `Operation.Confined`, by which an operation, where all faults are permitted, fails only in allowed
  ways, gives only results of a kind, and leaves a script in which all faults are permitted;
- its lemmas for the forms in which operations are built, and for calls and waits.

Does not own: which faults are permitted and which failures allowed.
-/

namespace RunnerCloud

variable {α β ε : Type}

/-! ## Permitted faults -/

/-- Whatever fault a call can meet is permitted. -/
structure Behaviour.OnlyFaults (Permitted : Fault → Prop) (behaviour : Behaviour) : Prop where
  atCall : ∀ fault, behaviour.fault = some fault → Permitted fault
  atWait : ∀ fault, behaviour.waitFault = some fault → Permitted fault
  atResult : ∀ fault, behaviour.resultFault = some fault → Permitted fault
  atEnd : ∀ fault, behaviour.itemsFault = some fault → Permitted fault

namespace CloudScript

def OnlyFaults (Permitted : Fault → Prop) (script : CloudScript) : Prop :=
  ∀ method, ∀ behaviour ∈ script method, behaviour.OnlyFaults Permitted

variable {Permitted : Fault → Prop} {script : CloudScript}

theorem OnlyFaults.next (only : script.OnlyFaults Permitted) (method : CloudMethod) :
    (script.next method).OnlyFaults Permitted := by
  unfold CloudScript.next
  cases listed : script method with
  | nil => exact ⟨nofun, nofun, nofun, nofun⟩
  | cons behaviour rest => exact only method behaviour (by simp [listed])

theorem OnlyFaults.advance (only : script.OnlyFaults Permitted) (method : CloudMethod) :
    (script.advance method).OnlyFaults Permitted := by
  intro other behaviour member
  unfold CloudScript.advance at member
  split at member
  · exact only method behaviour (List.mem_of_mem_tail member)
  · exact only other behaviour member

end CloudScript

namespace Operation

/-- Where all faults are permitted, the operation fails only as allowed, gives only results of a
kind, and leaves a script in which all faults are permitted. -/
def Confined (Permitted : Fault → Prop) (Allowed : Failure → Prop) (Gives : α → Prop)
    (operation : Operation α) : Prop :=
  ∀ session, session.script.OnlyFaults Permitted →
    (∀ failure, (operation session).outcome = .error (.failed failure) → Allowed failure) ∧
    (∀ value, (operation session).outcome = .ok value → Gives value) ∧
    (operation session).session.script.OnlyFaults Permitted

/-- Any result will do. -/
def anything : α → Prop :=
  fun _ => True

variable {Permitted : Fault → Prop} {Allowed Later : Failure → Prop} {Gives : α → Prop}
  {Finally : β → Prop}

/-! ## The forms of operations -/

/-- An operation that gives a result and leaves the script as it is. -/
theorem confined_of_result {operation : Operation α}
    (results : ∀ session, ∃ value, (operation session).outcome = .ok value ∧ Gives value ∧
      (operation session).session.script = session.script) :
    Confined Permitted Allowed Gives operation := by
  intro session only
  obtain ⟨value, ending, given, kept⟩ := results session
  rw [ending, kept]
  refine ⟨?_, ?_, only⟩
  · intro failure fails
    cases fails
  · intro other same
    cases same
    exact given

theorem confined_pure {value : α} (given : Gives value) :
    Confined Permitted Allowed Gives (pure value) :=
  confined_of_result fun _ => ⟨value, rfl, given, rfl⟩

theorem confined_fail {failure : Failure} (allowed : Allowed failure) :
    Confined Permitted Allowed Gives (fail failure : Operation α) := by
  intro session only
  refine ⟨?_, nofun, only⟩
  intro other same
  cases same
  exact allowed

theorem confined_hung : Confined Permitted Allowed Gives (stop .hung : Operation α) := by
  intro session only
  refine ⟨?_, nofun, only⟩
  intro failure fails
  cases fails

theorem confined_ofExcept {wrap : ε → Failure} {given : Except ε α}
    (gives : ∀ value, given = .ok value → Gives value)
    (allowed : ∀ problem, given = .error problem → Allowed (wrap problem)) :
    Confined Permitted Allowed Gives (ofExcept wrap given) := by
  cases given with
  | ok value => exact confined_pure (gives value rfl)
  | error problem => exact confined_fail (allowed problem rfl)

theorem Confined.bind {operation : Operation α} {next : α → Operation β}
    (first : Confined Permitted Allowed Gives operation)
    (rest : ∀ value, Gives value → Confined Permitted Allowed Finally (next value)) :
    Confined Permitted Allowed Finally (operation >>= next) := by
  intro session only
  obtain ⟨fails, gives, kept⟩ := first session only
  cases ending : (operation session).outcome with
  | ok value =>
      rw [bind_apply_of_ok ending]
      exact rest value (gives value ending) _ kept
  | error reason =>
      rw [bind_apply_of_error ending]
      refine ⟨?_, nofun, kept⟩
      intro failure same
      cases same
      exact fails failure ending

theorem Confined.mono {Fewer : α → Prop} {operation : Operation α}
    (confined : Confined Permitted Allowed Fewer operation)
    (allows : ∀ failure, Allowed failure → Later failure)
    (implies : ∀ value, Fewer value → Gives value) :
    Confined Permitted Later Gives operation := by
  intro session only
  obtain ⟨fails, gives, kept⟩ := confined session only
  exact ⟨fun failure ending => allows failure (fails failure ending),
    fun value ending => implies value (gives value ending), kept⟩

theorem Confined.recover {operation : Operation α} {handle : Failure → Operation α}
    (first : Confined Permitted Allowed Gives operation)
    (rest : ∀ failure, Allowed failure → Confined Permitted Later Gives (handle failure)) :
    Confined Permitted Later Gives (operation.recover handle) := by
  intro session only
  obtain ⟨fails, gives, kept⟩ := first session only
  rcases ending : (operation session).outcome with (failure | _) | value
  · rw [recover_apply_of_failed ending]
    exact rest failure (fails failure ending) _ kept
  · rw [recover_apply_of_hung ending]
    refine ⟨?_, gives, kept⟩
    simp [ending]
  · rw [recover_apply_of_ok ending]
    refine ⟨?_, gives, kept⟩
    simp [ending]

theorem confined_emit (event : Event) : Confined Permitted Allowed anything (emit event) :=
  confined_of_result fun _ => ⟨_, rfl, trivial, rfl⟩

theorem confined_drawSerial : Confined Permitted Allowed anything drawSerial :=
  confined_of_result fun _ => ⟨_, rfl, trivial, rfl⟩

theorem confined_drawNumbers (count : Nat) :
    Confined Permitted Allowed anything (drawNumbers count) :=
  confined_of_result fun _ => ⟨_, rfl, trivial, rfl⟩

theorem confined_isCancelled : Confined Permitted Allowed anything isCancelled :=
  confined_of_result fun _ => ⟨_, rfl, trivial, rfl⟩

theorem confined_setToken : Confined Permitted Allowed anything setToken := by
  refine confined_of_result fun session => ?_
  unfold setToken
  split
  · exact ⟨(), rfl, trivial, rfl⟩
  · exact ⟨(), rfl, trivial, rfl⟩

theorem confined_cancellationArrives (arrives : Bool) :
    Confined Permitted Allowed anything (cancellationArrives arrives) := by
  intro session only
  rw [cancellationArrives_apply]
  split
  · exact confined_setToken session only
  · exact confined_pure trivial session only

theorem confined_taskCancellationMayArrive (pending : Pending) (waits : Nat) :
    Confined Permitted Allowed anything (taskCancellationMayArrive pending waits) := by
  intro session only
  rw [taskCancellationMayArrive_apply]
  split
  · exact ((confined_emit _).bind fun _ _ => confined_setToken) session only
  · exact confined_pure trivial session only

/-! ## Calls and waits -/

section Calls

variable (raised : ∀ fault, Permitted fault → Allowed (.fault fault)) (request : Request)

include raised

theorem confined_raise {fault : Option Fault} (only : ∀ met, fault = some met → Permitted met) :
    Confined Permitted Allowed anything (raise request fault) := by
  cases fault with
  | none => exact confined_pure trivial
  | some met =>
      exact (confined_emit _).bind fun _ _ => confined_fail (raised met (only met rfl))

/-- A call fails only by a fault, and meets a behaviour that has no others. -/
theorem confined_call :
    Confined Permitted Allowed (·.OnlyFaults Permitted) (call request) := by
  intro session only
  have met := only.next request.method
  have settles : Confined Permitted Allowed (·.OnlyFaults Permitted)
      (settle request (session.script.next request.method)) := by
    refine (confined_cancellationArrives _).bind fun _ _ => ?_
    refine (confined_raise raised request met.atCall).bind fun _ _ => ?_
    exact (confined_emit _).bind fun _ _ => confined_pure met
  rw [call_apply]
  exact settles _ (only.advance request.method)

theorem confined_submit : Confined Permitted Allowed anything (submit request) :=
  (confined_call raised request).bind fun _ _ => confined_pure trivial

/-- The fault behind a listing is permitted. -/
theorem confined_list :
    Confined Permitted Allowed
      (fun listing => ∀ fault, listing.fault = some fault → Permitted fault) (list request) :=
  (confined_call raised request).bind fun _ met => confined_pure met.atEnd

/-- A watched wait fails by a fault, or because the token is set. -/
theorem waiting_confined {behaviour : Behaviour} (only : behaviour.OnlyFaults Permitted)
    (cancelled : Allowed .cancelledWaiting) :
    Waiting ⟨request, behaviour⟩
      fun _ operation => Confined Permitted Allowed anything operation where
  result := fun _ => confined_pure trivial
  sequence := fun first rest => first.bind fun value _ => rest value
  hung := confined_hung
  cancelled := confined_fail cancelled
  looked := confined_isCancelled
  waited := confined_emit _
  fetched := fun _ => confined_emit _
  arrives := confined_cancellationArrives
  taskArrives := confined_taskCancellationMayArrive _
  refused := fun waits => by
    refine confined_raise raised _ fun fault met => ?_
    unfold Behaviour.faultOfWait at met
    split at met
    · exact only.atWait fault met
    · cases met
  lost := confined_raise raised _ only.atResult

theorem confined_complete (cancelled : Allowed .cancelledWaiting) (watched : Bool) :
    Confined Permitted Allowed anything (Cloud.complete watched request) := by
  rw [complete_eq]
  exact (confined_call raised request).bind fun behaviour met =>
    (waiting_confined raised request met cancelled).await watched

end Calls

end Operation

end RunnerCloud
