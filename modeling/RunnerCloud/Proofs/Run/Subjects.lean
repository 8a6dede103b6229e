import RunnerCloud.Proofs.Run.Calls
import RunnerCloud.Proofs.Run.Waiting

/-!
Contract: which requests an operation has to do with.

Owns:
- `Operation.Concerns`, by which every event of every run of an operation that belongs to a request
  belongs to an allowed one;
- its lemmas for the forms in which operations are built, and for calls and waits.

Does not own: how often and in which order an operation makes its requests.
-/

namespace RunnerCloud

/-- Events that belong to requests belong to allowed ones. -/
def Event.Within (allowed : Request → Prop) (events : List Event) : Prop :=
  ∀ event ∈ events, ∀ request, event.subject? = some request → allowed request

namespace Event

variable {allowed : Request → Prop}

@[simp]
theorem within_nil : Within allowed [] := by
  simp [Within]

@[simp]
theorem within_cons (event : Event) (events : List Event) :
    Within allowed (event :: events) ↔
      (∀ request, event.subject? = some request → allowed request) ∧ Within allowed events := by
  simp [Within]

@[simp]
theorem within_append (earlier later : List Event) :
    Within allowed (earlier ++ later) ↔ Within allowed earlier ∧ Within allowed later := by
  simp [Within, or_imp, forall_and]

theorem Within.mono {wider : Request → Prop} {events : List Event}
    (within : Within allowed events) (implies : ∀ request, allowed request → wider request) :
    Within wider events :=
  fun event member request subject => implies request (within event member request subject)

/-- What never happens to an allowed request does not happen. -/
theorem Within.not_mem {events : List Event} (within : Within allowed events) {event : Event}
    {request : Request} (subject : event.subject? = some request) (excluded : ¬ allowed request) :
    event ∉ events :=
  fun member => excluded (within event member request subject)

theorem Within.requests {events : List Event} (within : Within allowed events) {request : Request}
    (requested : request ∈ requests events) : allowed request := by
  obtain ⟨event, member, called⟩ := List.mem_filterMap.1 requested
  refine within event member request ?_
  cases event <;> simp_all [subject?]

end Event

namespace Operation

variable {α β : Type} {allowed : Request → Prop}

/-- Whatever happens to a request happens to an allowed one. -/
def Concerns (allowed : Request → Prop) (operation : Operation α) : Prop :=
  ∀ session, Event.Within allowed (operation session).events

theorem Concerns.mono {wider : Request → Prop} {operation : Operation α}
    (concerns : Concerns allowed operation) (implies : ∀ request, allowed request → wider request) :
    Concerns wider operation :=
  fun session => (concerns session).mono implies

theorem concerns_pure (value : α) : Concerns allowed (pure value) :=
  fun _ => Event.within_nil

theorem concerns_stop (reason : Stop) : Concerns allowed (stop reason : Operation α) :=
  fun _ => Event.within_nil

theorem concerns_fail (failure : Failure) : Concerns allowed (fail failure : Operation α) :=
  concerns_stop (.failed failure)

theorem concerns_ofExcept {ε : Type} {wrap : ε → Failure} {given : Except ε α} :
    Concerns allowed (ofExcept wrap given) := by
  cases given with
  | ok value => exact concerns_pure value
  | error problem => exact concerns_fail _

theorem Concerns.bind {operation : Operation α} {next : α → Operation β}
    (first : Concerns allowed operation) (rest : ∀ value, Concerns allowed (next value)) :
    Concerns allowed (operation >>= next) := by
  intro session
  cases ending : (operation session).outcome with
  | ok value =>
      rw [bind_apply_of_ok ending]
      exact (Event.within_append ..).2 ⟨first session, rest value _⟩
  | error reason =>
      rw [bind_apply_of_error ending]
      exact first session

theorem Concerns.recover {operation : Operation α} {handle : Failure → Operation α}
    (first : Concerns allowed operation) (rest : ∀ failure, Concerns allowed (handle failure)) :
    Concerns allowed (operation.recover handle) := by
  intro session
  rcases ending : (operation session).outcome with (failure | _) | value
  · rw [recover_apply_of_failed ending]
    exact (Event.within_append ..).2 ⟨first session, rest failure _⟩
  · rw [recover_apply_of_hung ending]
    exact first session
  · rw [recover_apply_of_ok ending]
    exact first session

/-- An event may be about an allowed request or about none. -/
theorem concerns_emit {event : Event}
    (permitted : ∀ request, event.subject? = some request → allowed request) :
    Concerns allowed (emit event) := by
  intro session
  show Event.Within allowed [event]
  simpa using permitted

theorem concerns_session : Concerns allowed session :=
  fun _ => Event.within_nil

theorem concerns_setSession (next : Session) : Concerns allowed (setSession next) :=
  fun _ => Event.within_nil

theorem concerns_isCancelled : Concerns allowed isCancelled :=
  fun _ => Event.within_nil

theorem concerns_drawSerial : Concerns allowed drawSerial :=
  fun _ => Event.within_nil

theorem concerns_drawNumbers (count : Nat) : Concerns allowed (drawNumbers count) :=
  fun _ => Event.within_nil

theorem concerns_setToken : Concerns allowed setToken := by
  intro session
  unfold setToken
  split <;> simp [Event.subject?]

theorem concerns_cancellationArrives (arrives : Bool) :
    Concerns allowed (cancellationArrives arrives) := by
  refine concerns_session.bind fun session => ?_
  split
  · exact concerns_setToken
  · exact concerns_pure _

theorem concerns_taskCancellationMayArrive (pending : Pending) (waits : Nat) :
    Concerns allowed (taskCancellationMayArrive pending waits) := by
  refine concerns_session.bind fun session => ?_
  split
  · exact (concerns_emit (by simp [Event.subject?])).bind fun _ => concerns_setToken
  · exact concerns_pure _

/-! ## Calls and waits -/

section Calls

variable {request : Request} (permitted : allowed request)

include permitted

theorem concerns_raise (fault : Option Fault) : Concerns allowed (raise request fault) := by
  cases fault with
  | none => exact concerns_pure _
  | some fault => exact (concerns_emit (by simpa [Event.subject?])).bind fun _ => concerns_fail _

theorem concerns_call : Concerns allowed (call request) := by
  refine (concerns_emit (by simpa [Event.subject?])).bind fun _ => ?_
  refine concerns_session.bind fun before => ?_
  refine (concerns_setSession _).bind fun _ => ?_
  refine (concerns_cancellationArrives _).bind fun _ => ?_
  refine (concerns_raise permitted _).bind fun _ => ?_
  refine (concerns_emit (by simpa [Event.subject?])).bind fun _ => ?_
  exact concerns_pure _

theorem concerns_submit : Concerns allowed (submit request) :=
  (concerns_call permitted).bind fun _ => concerns_pure _

theorem concerns_list : Concerns allowed (list request) :=
  (concerns_call permitted).bind fun _ => concerns_pure _

theorem waiting_concerns (behaviour : Behaviour) :
    Waiting ⟨request, behaviour⟩ fun _ operation => Concerns allowed operation where
  result := concerns_pure
  sequence := fun first rest => first.bind rest
  hung := concerns_stop _
  cancelled := concerns_fail _
  looked := concerns_isCancelled
  waited := concerns_emit (by simpa [Event.subject?])
  fetched := fun _ => concerns_emit (by simpa [Event.subject?])
  arrives := concerns_cancellationArrives
  taskArrives := concerns_taskCancellationMayArrive _
  refused := fun _ => concerns_raise permitted _
  lost := concerns_raise permitted _

theorem concerns_complete (watched : Bool) :
    Concerns allowed (Cloud.complete watched request) := by
  rw [complete_eq]
  exact (concerns_call permitted).bind fun behaviour =>
    (waiting_concerns permitted behaviour).await watched

end Calls

end Operation

end RunnerCloud
