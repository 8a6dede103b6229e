import Mathlib.Data.List.Forall2
import RunnerCloud.Proofs.Run.Calls

/-!
Contract: operations that differ only in what a change of their requests hides.

Owns:
- `Event.retold`, an event with its request changed, and `Execution.Alike`, by which two runs end
  alike, leave the same session, and cannot be told apart once their requests are changed;
- `Operation.Alike`, by which two operations do so in every session, with its lemmas for the forms
  in which operations are built, and for calls and waits;
- what two such runs have in common: their log, and the course of their calls.

Does not own: which change hides what.
-/

namespace RunnerCloud

variable {α β γ ε : Type}

/-- The event, with its request changed. -/
def Event.retold (change : Request → Request) : Event → Event
  | .called request => .called (change request)
  | .returned request => .returned (change request)
  | .waited request endless => .waited (change request) endless
  | .fetched request succeeded => .fetched (change request) succeeded
  | .raised request fault => .raised (change request) fault
  | .tokenSet => .tokenSet
  | .taskCancelled => .taskCancelled
  | .logged record => .logged record

/-- Two runs that are the same, once their requests are changed. -/
structure Execution.Alike (change : Request → Request) (one other : Execution α) : Prop where
  outcome : one.outcome = other.outcome
  events : one.events.map (Event.retold change) = other.events.map (Event.retold change)
  session : one.session = other.session

namespace Execution.Alike

variable {change : Request → Request} {one other third : Execution α}

theorem symm (alike : one.Alike change other) : other.Alike change one :=
  ⟨alike.outcome.symm, alike.events.symm, alike.session.symm⟩

theorem trans (first : one.Alike change other) (second : other.Alike change third) :
    one.Alike change third :=
  ⟨first.outcome.trans second.outcome, first.events.trans second.events,
    first.session.trans second.session⟩

/-- Records of the log name no request, so that they show no change. -/
theorem logRecords (alike : one.Alike change other) :
    Event.logRecords one.events = Event.logRecords other.events := by
  have unchanged : ∀ events : List Event,
      Event.logRecords (events.map (Event.retold change)) = Event.logRecords events := by
    intro events
    unfold Event.logRecords
    rw [List.filterMap_map]
    refine congrArg (events.filterMap ·) (funext fun event => ?_)
    cases event <;> rfl
  rw [← unchanged one.events, alike.events, unchanged]

end Execution.Alike

/-! ## The course of calls -/

namespace CallRecord

variable {change : Request → Request}

/-- The call, with its request changed. -/
def retold (change : Request → Request) (record : CallRecord) : CallRecord :=
  { record with request := change record.request }

section

variable (keepsMethod : ∀ request, (change request).method = request.method)

include keepsMethod

theorem retold_extend (record : CallRecord) (event : Event) :
    (record.retold change).extend (event.retold change) = (record.extend event).retold change := by
  cases event with
  | returned request =>
      simp only [extend, Event.retold, retold, keepsMethod]
      split <;> rfl
  | _ => rfl

theorem following_retold (record : CallRecord) (events : List Event) :
    following (record.retold change) (events.map (Event.retold change)) =
      (following record events).map (retold change) := by
  induction events generalizing record with
  | nil => rfl
  | cons event events inductionHypothesis =>
      have step := retold_extend keepsMethod record event
      cases event with
      | called request =>
          exact congrArg (record.retold change :: ·) (inductionHypothesis (start request))
      | _ =>
          simp only [following, List.map_cons, Event.retold] at step ⊢
          rw [step, inductionHypothesis]

/-- A change of requests changes the requests of the calls, and nothing else about them. -/
theorem ofEvents_retold (events : List Event) :
    ofEvents (events.map (Event.retold change)) = (ofEvents events).map (retold change) := by
  induction events with
  | nil => rfl
  | cons event events inductionHypothesis =>
      cases event with
      | called request => exact following_retold keepsMethod (start request) events
      | _ => exact inductionHypothesis

end

end CallRecord

/-- Two such runs make the same calls in the same order, up to the change. -/
theorem Execution.Alike.calls {change : Request → Request} {one other : Execution α}
    (alike : one.Alike change other)
    (keepsMethod : ∀ request, (change request).method = request.method) :
    List.Forall₂ (fun first second => first.retold change = second.retold change)
      (CallRecord.ofEvents one.events) (CallRecord.ofEvents other.events) := by
  have same : (CallRecord.ofEvents one.events).map (CallRecord.retold change) =
      (CallRecord.ofEvents other.events).map (CallRecord.retold change) := by
    rw [← CallRecord.ofEvents_retold keepsMethod, alike.events,
      CallRecord.ofEvents_retold keepsMethod]
  rw [← List.forall₂_eq_eq_eq, List.forall₂_map_left_iff, List.forall₂_map_right_iff] at same
  exact same

namespace Operation

variable {change : Request → Request}

/-- In every session two operations run alike. -/
def Alike (change : Request → Request) (one other : Operation α) : Prop :=
  ∀ session, (one session).Alike change (other session)

/-! ## The forms of operations -/

theorem Alike.refl (operation : Operation α) : Alike change operation operation :=
  fun _ => ⟨rfl, rfl, rfl⟩

theorem Alike.symm {one other : Operation α} (alike : Alike change one other) :
    Alike change other one :=
  fun session => (alike session).symm

theorem Alike.trans {one other third : Operation α} (first : Alike change one other)
    (second : Alike change other third) : Alike change one third :=
  fun session => (first session).trans (second session)

theorem Alike.bind {one other : Operation α} {next after : α → Operation β}
    (first : Alike change one other) (rest : ∀ value, Alike change (next value) (after value)) :
    Alike change (one >>= next) (other >>= after) := by
  intro session
  have same := first session
  cases ending : (one session).outcome with
  | error reason =>
      rw [bind_apply_of_error ending, bind_apply_of_error (same.outcome ▸ ending)]
      exact ⟨rfl, same.events, same.session⟩
  | ok value =>
      have later := rest value (one session).session
      rw [bind_apply_of_ok ending, bind_apply_of_ok (same.outcome ▸ ending), ← same.session]
      exact ⟨later.outcome, by rw [List.map_append, List.map_append, same.events, later.events],
        later.session⟩

theorem Alike.recover {one other : Operation α} {handle rescue : Failure → Operation α}
    (first : Alike change one other)
    (rest : ∀ failure, Alike change (handle failure) (rescue failure)) :
    Alike change (one.recover handle) (other.recover rescue) := by
  intro session
  have same := first session
  rcases ending : (one session).outcome with (failure | _) | value
  · have later := rest failure (one session).session
    rw [recover_apply_of_failed ending, recover_apply_of_failed (same.outcome ▸ ending),
      ← same.session]
    exact ⟨later.outcome, by rw [List.map_append, List.map_append, same.events, later.events],
      later.session⟩
  · rw [recover_apply_of_hung ending, recover_apply_of_hung (same.outcome ▸ ending)]
    exact same
  · rw [recover_apply_of_ok ending, recover_apply_of_ok (same.outcome ▸ ending)]
    exact same

/-- Parts that were decided before go on alike, if what they have in common decides how. -/
theorem alike_ofExcept_bind {wrap : ε → Failure} {given held : Except ε α} {view : α → γ}
    {next after : α → Operation β} (same : given.map view = held.map view)
    (rest : ∀ value other, view value = view other → Alike change (next value) (after other)) :
    Alike change (ofExcept wrap given >>= next) (ofExcept wrap held >>= after) := by
  cases given with
  | error problem =>
      cases held with
      | error reason =>
          simp only [Except.map, Except.error.injEq] at same
          rw [same]
          exact .refl _
      | ok other => cases same
  | ok value =>
      cases held with
      | error reason => cases same
      | ok other => exact rest value other (Except.ok.inj same)

theorem alike_emit {one other : Event} (same : one.retold change = other.retold change) :
    Alike change (emit one) (emit other) :=
  fun _ => ⟨rfl, congrArg (fun event => [event]) same, rfl⟩

/-! ## Calls and waits -/

section Calls

variable {one other : Request} (same : change one = change other)

include same

theorem alike_raise (fault : Option Fault) : Alike change (raise one fault) (raise other fault) := by
  cases fault with
  | none => exact .refl _
  | some fault =>
      refine (alike_emit ?_).bind fun _ => .refl _
      simp only [Event.retold, same]

theorem alike_settle (behaviour : Behaviour) :
    Alike change (settle one behaviour) (settle other behaviour) := by
  refine (Alike.refl _).bind fun _ => (alike_raise same _).bind fun _ => ?_
  refine (alike_emit ?_).bind fun _ => .refl _
  simp only [Event.retold, same]

/-- Calls of one method meet the same behaviour. -/
theorem alike_call (method : one.method = other.method) :
    Alike change (call one) (call other) := by
  intro session
  have settles := alike_settle same (session.script.next other.method)
    { session with script := session.script.advance other.method }
  rw [call_apply, call_apply, method]
  refine ⟨settles.outcome, ?_, settles.session⟩
  simp only [List.map_cons, Event.retold, same, settles.events]

section Waits

variable (method : one.method = other.method) (behaviour : Behaviour)

include method

theorem alike_fetch : Alike change (fetch ⟨one, behaviour⟩) (fetch ⟨other, behaviour⟩) := by
  unfold fetch
  refine (alike_emit ?_).bind fun _ => (Alike.refl _).bind fun _ => ?_
  · simp only [Event.retold, same]
  · refine (alike_raise same _).bind fun _ => ?_
    rw [method]
    exact .refl _

omit method in
theorem alike_waitOnce (waits : Nat) :
    Alike change (waitOnce ⟨one, behaviour⟩ waits) (waitOnce ⟨other, behaviour⟩ waits) := by
  unfold waitOnce
  refine (alike_emit ?_).bind fun _ => ?_
  · simp only [Event.retold, same]
  · exact (Alike.refl (taskCancellationMayArrive ⟨one, behaviour⟩ waits)).bind fun _ =>
      (Alike.refl _).bind fun _ => alike_raise same _

theorem alike_watch (looks waits : Nat) :
    Alike change (watch ⟨one, behaviour⟩ looks waits) (watch ⟨other, behaviour⟩ looks waits) := by
  induction looks generalizing waits with
  | zero => exact .refl _
  | succ looks inductionHypothesis =>
      unfold watch
      dsimp only
      split
      · exact alike_fetch same method behaviour
      · refine (Alike.refl isCancelled).bind fun cancelled => ?_
        split
        · exact .refl _
        · exact (alike_waitOnce same behaviour _).bind fun _ => inductionHypothesis _

end Waits

theorem alike_complete (method : one.method = other.method) (watched : Bool) :
    Alike change (Cloud.complete watched one) (Cloud.complete watched other) := by
  rw [complete_eq, complete_eq]
  refine (alike_call same method).bind fun behaviour => ?_
  cases watched with
  | true => exact alike_watch same method behaviour _ _
  | false => exact alike_fetch same method behaviour

end Calls

end Operation

end RunnerCloud
