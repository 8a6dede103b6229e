import RunnerCloud.Cloud.Client
import RunnerCloud.Proofs.Run.Progress

/-!
Contract: how far single calls to the cloud and the waits for their operations get.

Owns:
- `Blame.within`, which puts a failure down to the fault that one request met;
- the progress of a call, of fetching a result, and of a watched wait, which never outlasts a
  cancellation;
- `Execution.Opens`, runs that begin with the call of a request.

Does not own: unwatched waits, which the removal of a group uses.
-/

namespace RunnerCloud

open Operation

variable {α β : Type}

/-- The last event is a fault of the request, of which `name` makes the failure, or there is some
other reason. -/
def Blame.within (request : Request) (name : Fault → Failure) (Other : Failure → Prop) : Blame where
  Explains events failure :=
    (∃ fault, events.getLast? = some (.raised request fault) ∧ failure = name fault) ∨
      Other failure
  explains_append := by
    rintro earlier later failure (⟨fault, last, named⟩ | other)
    · refine Or.inl ⟨fault, ?_, named⟩
      rw [List.getLast?_append, last, Option.some_or]
    · exact Or.inr other

def noOther : Failure → Prop :=
  fun _ => False

/-- Where faults alone are to blame, other reasons may be thought of. -/
theorem Progress.widen {request : Request} {name : Fault → Failure} {plan : List Request}
    {Result : α → Prop} {session : Session} {execution : Execution α}
    (progress : Progress (.within request name noOther) plan Result session execution)
    (Other : Failure → Prop) :
    Progress (.within request name Other) plan Result session execution :=
  progress.mono (fun _ holds => holds) fun _ explained => explained.imp_right False.elim

namespace Operation

theorem isCancelled_bind (next : Bool → Operation β) (session : Session) :
    (isCancelled >>= next) session = next session.token.isSet session :=
  rfl

theorem session_bind (next : Session → Operation β) (before : Session) :
    (session >>= next) before = next before before :=
  rfl

/-! ## Single events -/

section Events

variable {blame : Blame} {request : Request} {name : Fault → Failure} {Other : Failure → Prop}
  {session : Session}

theorem emit_progress {event : Event} (noCall : Event.requests [event] = [])
    (noSetting : event ≠ .tokenSet)
    (calm : event.startsWork = false ∨ session.token.isSet = false) :
    Progress blame [] (fun _ => True) session (emit event session) where
  made := by
    show Event.requests [event] <+: []
    simp [noCall]
  completed := fun _ _ => ⟨trivial, noCall, rfl⟩
  draws := fun _ => rfl
  heeds := by
    rcases calm with idle | unset
    · exact Event.Quiet.heeds (by simp [emit, idle]) _
    · rw [unset]
      exact Event.Heeds.cons noSetting (Event.quiet_nil.heeds false)
  token := by simp [emit, noSetting.symm]
  failing := by simp [emit]
  hanging := by simp [emit]

theorem setToken_progress : Progress blame [] (fun _ => True) session (setToken session) := by
  unfold setToken
  split
  · exact Progress.pure trivial
  · rename_i unset
    exact
      { made := List.prefix_rfl
        completed := by simp
        draws := fun _ => rfl
        heeds := Event.Quiet.heeds (by simp [Event.startsWork]) _
        token := by simp
        failing := by simp
        hanging := by simp }

theorem cancellationArrives_apply (arrives : Bool) (session : Session) :
    cancellationArrives arrives session =
      if arrives && session.token.shared then setToken session else ⟨.ok (), [], session⟩ := by
  unfold cancellationArrives
  rw [session_bind]
  split <;> rfl

theorem cancellationArrives_progress (arrives : Bool) :
    Progress blame [] (fun _ => True) session (cancellationArrives arrives session) := by
  rw [cancellationArrives_apply]
  split
  · exact setToken_progress
  · exact Progress.pure trivial

theorem raise_progress (fault : Option Fault) :
    Progress (.within request .fault Other) [] (fun _ => fault = none) session
      (raise request fault session) := by
  cases fault with
  | none => exact Progress.pure rfl
  | some fault =>
      exact
        { made := List.nil_prefix
          completed := by
            intro value same
            cases same
          draws := fun _ => rfl
          heeds := Event.Quiet.heeds (by
            show Event.Quiet [.raised request fault]
            simp [Event.startsWork]) _
          token := by
            show session.token.isSet = true ↔ _ ∨ Event.tokenSet ∈ [.raised request fault]
            simp
          failing := by
            intro failure same
            cases same
            exact Or.inr (Or.inl ⟨fault, rfl, rfl⟩)
          hanging := by
            intro same
            cases same }

end Events

/-! ## Calls -/

theorem call_apply (request : Request) (session : Session) :
    call request session =
      let settled := settle request (session.script.next request.method)
        { session with script := session.script.advance request.method }
      ⟨settled.outcome, .called request :: settled.events, settled.session⟩ :=
  rfl

/-- Completing is calling, and then waiting for what the call started. -/
theorem complete_eq (watched : Bool) (request : Request) :
    Cloud.complete watched request =
      (call request >>= fun behaviour => await watched ⟨request, behaviour⟩) := by
  unfold Cloud.complete begin
  rw [bind_assoc]
  rfl

section Calls

variable {request : Request} {Other : Failure → Prop} {session : Session}

theorem settle_progress (behaviour : Behaviour) :
    Progress (.within request .fault Other) [] (fun met => met = behaviour) session
      (settle request behaviour session) := by
  refine (cancellationArrives_progress behaviour.cancels).bind_silent fun _ _ => ?_
  refine (raise_progress behaviour.fault).bind_silent fun _ _ => ?_
  refine (emit_progress rfl (by simp) (Or.inl rfl)).bind_silent fun _ _ => ?_
  exact Progress.pure rfl

/-- A call that starts while the token is not set. -/
theorem call_progress (unset : session.token.isSet = false) :
    Progress (.within request .fault Other) [request]
      (fun met => met = session.script.next request.method) session (call request session) := by
  rw [call_apply]
  exact (settle_progress _).called unset rfl rfl rfl

theorem submit_progress (unset : session.token.isSet = false) :
    Progress (.within request .fault Other) [request]
      (fun value => value = session.script.answer request.method) session
      (submit request session) := by
  refine (call_progress unset).bind_silent fun behaviour met => ?_
  rw [met]
  exact Progress.pure rfl

theorem begin_progress (unset : session.token.isSet = false) :
    Progress (.within request .fault Other) [request]
      (fun pending => pending = ⟨request, session.script.next request.method⟩) session
      (begin request session) := by
  refine (call_progress unset).bind_silent fun behaviour met => ?_
  rw [met]
  exact Progress.pure rfl

theorem list_progress (unset : session.token.isSet = false) :
    Progress (.within request .fault Other) [request]
      (fun listing => listing = ⟨(session.script.next request.method).items,
        (session.script.next request.method).itemsFault⟩) session
      (list request session) := by
  refine (call_progress unset).bind_silent fun behaviour met => ?_
  rw [met]
  exact Progress.pure rfl

end Calls

/-! ## Waits -/

section Waits

variable {pending : Pending} {Other : Failure → Prop} {session : Session}

theorem fetch_progress :
    Progress (.within pending.request .fault Other) []
      (fun value => value = pending.behaviour.answerOf pending.request.method) session
      (fetch pending session) := by
  refine (emit_progress rfl (by simp) (Or.inl rfl)).bind_silent fun _ _ => ?_
  refine (cancellationArrives_progress _).bind_silent fun _ _ => ?_
  refine (raise_progress _).bind_silent fun _ _ => ?_
  exact Progress.pure rfl

theorem taskCancellationMayArrive_apply (waits : Nat) :
    taskCancellationMayArrive pending waits session =
      if pending.behaviour.endless && waits == 1 && session.token.endsEndlessWait then
        taskCancellationArrives session
      else ⟨.ok (), [], session⟩ := by
  unfold taskCancellationMayArrive
  rw [session_bind]
  split <;> rfl

theorem taskCancellationMayArrive_progress {blame : Blame} (waits : Nat) :
    Progress blame [] (fun _ => True) session
      (taskCancellationMayArrive pending waits session) := by
  rw [taskCancellationMayArrive_apply]
  split
  · refine (emit_progress rfl (by simp) (Or.inl rfl)).bind_silent fun _ _ => ?_
    exact setToken_progress
  · exact Progress.pure trivial

/-- A wait that starts while the token is not set. -/
theorem waitOnce_progress (unset : session.token.isSet = false) (waits : Nat) :
    Progress (.within pending.request .fault Other) [] (fun _ => True) session
      (waitOnce pending waits session) := by
  refine (emit_progress rfl (by simp) (Or.inr unset)).bind_silent fun _ _ => ?_
  refine (taskCancellationMayArrive_progress waits).bind_silent fun _ _ => ?_
  refine (cancellationArrives_progress _).bind_silent fun _ _ => ?_
  exact (raise_progress _).mono (fun _ _ => trivial) fun _ explained => explained

/-- A wait during which no cancellation is due leaves the session alone. -/
theorem waitOnce_session {waits : Nat} (late : waits ≠ 1)
    (undue : pending.behaviour.cancelsAtWait ≠ some waits) :
    (waitOnce pending waits session).session = session := by
  have noTask : taskCancellationMayArrive pending waits session = ⟨.ok (), [], session⟩ := by
    rw [taskCancellationMayArrive_apply, if_neg (by simp [late])]
  have noToken : cancellationArrives (pending.behaviour.cancelsAtWait == some waits) session =
      ⟨.ok (), [], session⟩ := by
    rw [cancellationArrives_apply, if_neg (by simp [undue])]
  have afterEmit : ∀ event, emit event session = ⟨.ok (), [event], session⟩ := fun _ => rfl
  unfold waitOnce
  rw [bind_apply_of_ok (by rw [afterEmit]), afterEmit, bind_apply_of_ok (by rw [noTask]), noTask,
    bind_apply_of_ok (by rw [noToken]), noToken]
  cases pending.behaviour.faultOfWait waits <;> rfl

end Waits

/-- The looks that are left after some waits suffice: there is one more look behind every wait at
which a cancellation is due. -/
def EnoughLooks (behaviour : Behaviour) (looks waits : Nat) : Prop :=
  waits + looks = behaviour.looks

/-- The last wait is none at which a cancellation is due. -/
theorem EnoughLooks.last {behaviour : Behaviour} {waits : Nat}
    (enough : EnoughLooks behaviour 1 waits) (unfinished : behaviour.isDone waits = false) :
    waits + 1 ≠ 1 ∧ behaviour.cancelsAtWait ≠ some (waits + 1) := by
  unfold EnoughLooks Behaviour.looks at enough
  cases endless : behaviour.endless with
  | false =>
      rw [if_neg (by simp [endless])] at enough
      simp [Behaviour.isDone, endless] at unfinished
      omega
  | true =>
      rw [if_pos endless] at enough
      have reached : waits = behaviour.eventfulWaits := by omega
      have eventful : 1 ≤ behaviour.eventfulWaits := by
        unfold Behaviour.eventfulWaits
        omega
      refine ⟨by omega, ?_⟩
      intro due
      have counted : waits + 1 ≤ behaviour.eventfulWaits := by
        unfold Behaviour.eventfulWaits
        rw [due, Option.getD_some]
        exact Nat.le_max_right ..
      omega

/-- A watched wait gives the answer, or meets a fault of its request, or gives up because the token
is set; it waits forever only while the token is not set. -/
theorem watch_progress (pending : Pending) {Other : Failure → Prop} {looks waits : Nat}
    {session : Session} (enough : EnoughLooks pending.behaviour looks waits)
    (exhausted : looks = 0 → session.token.isSet = false) :
    Progress (.within pending.request .fault Other) []
      (fun value => value = pending.behaviour.answerOf pending.request.method) session
      (watch pending looks waits session) := by
  -- Each look either ends the watch or waits once more; `EnoughLooks` says that no cancellation is
  -- due at the last wait, so that running out of looks leaves the token as it was.
  induction looks generalizing waits session with
  | zero =>
      exact
        { made := List.prefix_rfl
          completed := by
            intro value same
            cases same
          draws := fun _ => rfl
          heeds := Event.quiet_nil.heeds _
          token := by
            show session.token.isSet = true ↔ _ ∨ Event.tokenSet ∈ []
            simp
          failing := by
            intro failure same
            cases same
          hanging := fun _ => exhausted rfl }
  | succ looks inductionHypothesis =>
      unfold watch
      cases finished : pending.behaviour.isDone waits with
      | true => exact fetch_progress
      | false =>
          rw [if_neg (by simp), isCancelled_bind]
          cases cancelled : session.token.isSet with
          | true => exact Progress.fail (Or.inl ⟨rfl, cancelled⟩)
          | false =>
              rw [if_neg (by simp)]
              refine (waitOnce_progress cancelled (waits + 1)).bind_silent fun _ _ => ?_
              refine inductionHypothesis ?_ ?_
              · unfold EnoughLooks at enough ⊢
                omega
              · rintro rfl
                have uneventful := EnoughLooks.last enough finished
                rw [waitOnce_session uneventful.1 uneventful.2]
                exact cancelled

/-- Starting an operation while the token is not set, and watching it until it ends. -/
theorem complete_progress {request : Request} {Other : Failure → Prop} {session : Session}
    (unset : session.token.isSet = false) :
    Progress (.within request .fault Other) [request]
      (fun value => value = session.script.answer request.method) session
      (Cloud.complete true request session) := by
  refine (begin_progress unset).bind_silent fun pending started => ?_
  rw [started]
  refine watch_progress ⟨request, _⟩ (Nat.zero_add _) ?_
  unfold Behaviour.looks
  split <;> simp

end Operation

/-! ## Runs that begin with a call -/

namespace Execution

def Opens (request : Request) (execution : Execution α) : Prop :=
  ∃ rest, execution.events = .called request :: rest

variable {request : Request} {session : Session}

theorem opens_call : (call request session).Opens request :=
  ⟨_, congrArg Execution.events (call_apply request session)⟩

theorem Opens.bind {operation : Operation α} {next : α → Operation β}
    (opens : (operation session).Opens request) :
    ((operation >>= next) session).Opens request := by
  obtain ⟨rest, begins⟩ := opens
  cases ending : (operation session).outcome with
  | ok value =>
      rw [bind_apply_of_ok ending]
      exact ⟨_, by rw [begins, List.cons_append]⟩
  | error reason =>
      rw [bind_apply_of_error ending]
      exact ⟨rest, begins⟩

theorem Opens.renamed {execution : Execution α} (opens : execution.Opens request)
    (rename : Failure → Failure) : (execution.renamed rename).Opens request :=
  opens

theorem opens_submit : (submit request session).Opens request :=
  opens_call.bind

theorem opens_list : (list request session).Opens request :=
  opens_call.bind

theorem opens_complete {watched : Bool} : (Cloud.complete watched request session).Opens request :=
  (opens_call.bind : (begin request session).Opens request).bind

/-- A run that begins with the one call of its plan has made that call, however it ended. -/
theorem Opens.requests {blame : Blame} {Result : α → Prop} {execution : Execution α}
    (opens : execution.Opens request)
    (progress : Progress blame [request] Result session execution) :
    Event.requests execution.events = [request] := by
  obtain ⟨rest, begins⟩ := opens
  have made := progress.made
  rw [begins, Event.requests_cons] at made ⊢
  have nothing : Event.requests rest <+: [] := (List.prefix_append_right_inj [request]).1 made
  rw [List.prefix_nil.1 nothing]
  rfl

end Execution

end RunnerCloud
