import RunnerCloud.Proofs.Run.Calls
import RunnerCloud.Proofs.Run.Waiting

/-!
Contract: operations to which it makes no difference how one method would be answered.

Owns:
- `Session.answering`, the session in which the coming calls of a method meet other behaviours, and
  `Execution.answering`, the run after which they do;
- `Operation.Ignores`, by which an operation that is run in such a session does the same as before,
  and leaves what the method will meet as it is;
- its lemmas for the forms in which operations are built, and for calls and waits.

Does not own: operations that call the method.
-/

namespace RunnerCloud

variable {α β ε : Type}

namespace Session

/-- The session in which the coming calls of a method meet these behaviours. -/
def answering (session : Session) (method : CloudMethod) (behaviours : List Behaviour) : Session :=
  { session with
    script := fun other => if other = method then behaviours else session.script other }

variable {method other : CloudMethod} {behaviours : List Behaviour} (session : Session)

theorem next_answering_of_ne (different : other ≠ method) :
    (session.answering method behaviours).script.next other = session.script.next other := by
  simp [answering, CloudScript.next, different]

/-- A call of another method takes nothing from the behaviours of the method. -/
theorem answering_called (different : other ≠ method) :
    { session.answering method behaviours with
        script := (session.answering method behaviours).script.advance other } =
      ({ session with script := session.script.advance other } : Session).answering method
        behaviours := by
  have script : (session.answering method behaviours).script.advance other =
      fun called => if called = method then behaviours
        else session.script.advance other called := by
    funext called
    by_cases same : called = method
    · rw [if_pos same, CloudScript.advance, if_neg (by rw [same]; exact different.symm)]
      exact if_pos same
    · rw [if_neg same]
      simp [answering, CloudScript.advance, same, different]
  rw [script]
  rfl

/-- A session answers a method as it does. -/
theorem answering_self (method : CloudMethod) :
    session.answering method (session.script method) = session := by
  have same :
      (fun other => if other = method then session.script method else session.script other) =
        session.script := by
    funext other
    split
    · rename_i equal
      rw [equal]
    · rfl
  unfold answering
  rw [same]

end Session

/-- The run, after which the coming calls of a method meet these behaviours. -/
def Execution.answering (execution : Execution α) (method : CloudMethod)
    (behaviours : List Behaviour) : Execution α :=
  { execution with session := execution.session.answering method behaviours }

@[simp]
theorem Execution.answering_outcome (execution : Execution α) (method : CloudMethod)
    (behaviours : List Behaviour) :
    (execution.answering method behaviours).outcome = execution.outcome :=
  rfl

@[simp]
theorem Execution.answering_events (execution : Execution α) (method : CloudMethod)
    (behaviours : List Behaviour) :
    (execution.answering method behaviours).events = execution.events :=
  rfl

@[simp]
theorem Execution.answering_session (execution : Execution α) (method : CloudMethod)
    (behaviours : List Behaviour) :
    (execution.answering method behaviours).session =
      execution.session.answering method behaviours :=
  rfl

namespace Operation

variable {method : CloudMethod}

/-- However a method is answered, the operation does the same and does not use an answer up. -/
def Ignores (method : CloudMethod) (operation : Operation α) : Prop :=
  ∀ session behaviours, operation (session.answering method behaviours) =
    (operation session).answering method behaviours

/-- What an operation ignores, it leaves as it is. -/
theorem Ignores.keeps {operation : Operation α} (ignores : Ignores method operation)
    (session : Session) : (operation session).session.script method = session.script method := by
  have same := ignores session (session.script method)
  rw [Session.answering_self] at same
  rw [same]
  exact if_pos rfl

/-! ## The forms of operations -/

theorem ignores_pure (value : α) : Ignores method (pure value) :=
  fun _ _ => rfl

theorem ignores_stop (reason : Stop) : Ignores method (stop reason : Operation α) :=
  fun _ _ => rfl

theorem ignores_fail (failure : Failure) : Ignores method (fail failure : Operation α) :=
  ignores_stop (.failed failure)

theorem ignores_ofExcept {wrap : ε → Failure} {given : Except ε α} :
    Ignores method (ofExcept wrap given) := by
  cases given with
  | ok value => exact ignores_pure value
  | error problem => exact ignores_fail _

/-- In one run of a sequence it is enough that the parts do so which that run reaches. -/
theorem bind_answering {operation : Operation α} {next : α → Operation β} {session : Session}
    {behaviours : List Behaviour}
    (first : operation (session.answering method behaviours) =
      (operation session).answering method behaviours)
    (rest : ∀ value, (operation session).outcome = .ok value →
      next value ((operation session).session.answering method behaviours) =
        (next value (operation session).session).answering method behaviours) :
    (operation >>= next) (session.answering method behaviours) =
      ((operation >>= next) session).answering method behaviours := by
  cases ending : (operation session).outcome with
  | error reason =>
      rw [bind_apply_of_error (by rw [first]; exact ending), bind_apply_of_error ending, first]
      rfl
  | ok value =>
      rw [bind_apply_of_ok (by rw [first]; exact ending), bind_apply_of_ok ending, first,
        Execution.answering_session, rest value ending]
      rfl

theorem Ignores.bind {operation : Operation α} {next : α → Operation β}
    (first : Ignores method operation) (rest : ∀ value, Ignores method (next value)) :
    Ignores method (operation >>= next) :=
  fun session behaviours =>
    bind_answering (first session behaviours) fun value _ => rest value _ behaviours

/-- Where nothing fails there is nothing to recover from. -/
theorem recover_answering {operation : Operation α} {handle : Failure → Operation α}
    {session : Session} {behaviours : List Behaviour}
    (first : operation (session.answering method behaviours) =
      (operation session).answering method behaviours)
    (unfailed : ∀ failure, (operation session).outcome ≠ .error (.failed failure)) :
    operation.recover handle (session.answering method behaviours) =
      (operation.recover handle session).answering method behaviours := by
  rcases ending : (operation session).outcome with (failure | _) | value
  · exact absurd ending (unfailed failure)
  · rw [recover_apply_of_hung (by rw [first]; exact ending), recover_apply_of_hung ending, first]
  · rw [recover_apply_of_ok (by rw [first]; exact ending), recover_apply_of_ok ending, first]

theorem Ignores.recover {operation : Operation α} {handle : Failure → Operation α}
    (first : Ignores method operation) (rest : ∀ failure, Ignores method (handle failure)) :
    Ignores method (operation.recover handle) := by
  intro session behaviours
  have same := first session behaviours
  by_cases fails : ∃ failure, (operation session).outcome = .error (.failed failure)
  · obtain ⟨failure, ending⟩ := fails
    rw [recover_apply_of_failed (by rw [same]; exact ending), recover_apply_of_failed ending, same,
      Execution.answering_session, rest failure]
    rfl
  · exact recover_answering same (not_exists.1 fails)

theorem ignores_emit (event : Event) : Ignores method (emit event) :=
  fun _ _ => rfl

theorem ignores_drawNumbers (count : Nat) : Ignores method (drawNumbers count) :=
  fun _ _ => rfl

/-- What is decided by the token is decided alike. -/
theorem ignores_ofToken (next : CancelToken → Operation α)
    (rest : ∀ token, Ignores method (next token)) :
    Ignores method (session >>= fun state => next state.token) :=
  fun before behaviours => rest before.token before behaviours

theorem ignores_isCancelled : Ignores method isCancelled :=
  fun _ _ => rfl

theorem ignores_setToken : Ignores method setToken := by
  intro session behaviours
  unfold setToken
  rw [show (session.answering method behaviours).token = session.token from rfl]
  split <;> rfl

theorem ignores_cancellationArrives (arrives : Bool) :
    Ignores method (cancellationArrives arrives) := by
  refine ignores_ofToken (fun token => if arrives && token.shared then setToken else pure ())
    fun token => ?_
  split
  · exact ignores_setToken
  · exact ignores_pure _

theorem ignores_raise (request : Request) (fault : Option Fault) :
    Ignores method (raise request fault) := by
  cases fault with
  | none => exact ignores_pure _
  | some fault => exact (ignores_emit _).bind fun _ => ignores_fail _

/-! ## Calls and waits -/

section Calls

variable {request : Request} (other : request.method ≠ method)

include other

/-- A call of another method meets what it would meet anyway. -/
theorem ignores_call : Ignores method (call request) := by
  intro session behaviours
  have settles : Ignores method (settle request (session.script.next request.method)) :=
    (ignores_cancellationArrives _).bind fun _ => (ignores_raise _ _).bind fun _ =>
      (ignores_emit _).bind fun _ => ignores_pure _
  rw [call_apply, call_apply, Session.next_answering_of_ne session other,
    Session.answering_called session other]
  dsimp only
  rw [settles]
  rfl

theorem ignores_submit : Ignores method (submit request) :=
  (ignores_call other).bind fun _ => ignores_pure _

theorem ignores_list : Ignores method (list request) :=
  (ignores_call other).bind fun _ => ignores_pure _

end Calls

theorem ignores_taskCancellationMayArrive (pending : Pending) (waits : Nat) :
    Ignores method (taskCancellationMayArrive pending waits) := by
  refine ignores_ofToken
    (fun token =>
      if pending.behaviour.endless && waits == 1 && token.endsEndlessWait then
        taskCancellationArrives
      else pure ())
    fun token => ?_
  split
  · exact (ignores_emit _).bind fun _ => ignores_setToken
  · exact ignores_pure _

/-- A wait calls for nothing, so it ignores every method. -/
theorem waiting_ignores (pending : Pending) :
    Waiting pending fun _ operation => Ignores method operation where
  result := ignores_pure
  sequence := fun first rest => first.bind rest
  hung := ignores_stop _
  cancelled := ignores_fail _
  looked := ignores_isCancelled
  waited := ignores_emit _
  fetched := fun _ => ignores_emit _
  arrives := ignores_cancellationArrives
  taskArrives := ignores_taskCancellationMayArrive pending
  refused := fun _ => ignores_raise _ _
  lost := ignores_raise _ _

theorem ignores_complete {request : Request} (other : request.method ≠ method) (watched : Bool) :
    Ignores method (Cloud.complete watched request) := by
  rw [complete_eq]
  exact (ignores_call other).bind fun behaviour =>
    (waiting_ignores ⟨request, behaviour⟩).await watched

end Operation

end RunnerCloud
