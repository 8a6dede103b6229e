import RunnerCloud.Proofs.Provision.ErrorMapping
import RunnerCloud.Proofs.Provision.Parts
import RunnerCloud.Proofs.Run.Indifference

/-!
Contract: a failing removal of the group does not mask why a creation failed.

Owns:
- `Behaviour.completionFault?`, the fault that an unwatched operation meets, and how such an
  operation ends by it;
- `rollback_of_spared`, what a removal gives and logs, if it is not interrupted;
- that everything a creation does but the removal ignores how deletions are answered;
- `removal_never_masks`: whatever the deletion of the group meets, but for an interrupt, the outcome
  and the calls of a creation are the same, and so is its log but for one warning at its end.

Does not own: removals that are interrupted.
-/

namespace RunnerCloud

open Operation

/-! ## Unwatched operations -/

/-- The fault that an operation meets whose result is fetched at once: at the call, or else when the
result is fetched. -/
def Behaviour.completionFault? (behaviour : Behaviour) : Option Fault :=
  behaviour.fault.or behaviour.resultFault

theorem logRecords_arrives (arrives : Bool) (session : Session) :
    Event.logRecords (cancellationArrives arrives session).events = [] := by
  rcases cancellationArrives_events arrives session with none | set
  · rw [none]
    rfl
  · rw [set]
    rfl

/-- An unwatched operation fails by the fault that it meets, and logs nothing. -/
theorem complete_unwatched (request : Request) (session : Session) :
    (Cloud.complete false request session).outcome =
        (match (session.script.next request.method).completionFault? with
        | some fault => .error (.failed (.fault fault))
        | none => .ok (session.script.answer request.method)) ∧
      Event.logRecords (Cloud.complete false request session).events = [] := by
  rw [complete_eq]
  unfold Behaviour.completionFault?
  cases faulty : (session.script.next request.method).fault with
  | some fault =>
      rw [bind_apply_of_error (by rw [call_of_fault faulty]), call_of_fault faulty]
      simp [Event.logRecord?, arrival, logRecords_arrives]
  | none =>
      rw [bind_apply_of_ok (by rw [call_of_sound faulty]), call_of_sound faulty]
      dsimp only [await]
      rw [if_neg (by simp)]
      cases lost : (session.script.next request.method).resultFault with
      | some fault =>
          rw [fetch_of_fault lost]
          simp [Event.logRecord?, arrival, logRecords_arrives]
      | none =>
          rw [fetch_of_sound lost]
          simp [Event.logRecord?, arrival, logRecords_arrives, CloudScript.answer]

namespace Provision

/-! ## The removal of the group -/

section Removal

variable (run : CreateRun) (session : Session)

theorem deleteGroup_apply (name : Text) :
    (Cloud.deleteGroup name true session).outcome =
        (match (session.script.next .deleteGroup).completionFault? with
        | some fault => .error (.failed (Cloud.reported (.deleteGroup name) (.fault fault)))
        | none => .ok ()) ∧
      Event.logRecords (Cloud.deleteGroup name true session).events = [] := by
  obtain ⟨ends, silent⟩ := complete_unwatched (deletion name) session
  unfold Cloud.deleteGroup
  rw [guarded_apply, bind_pure_apply]
  refine ⟨?_, silent⟩
  show Except.mapError _ (Except.map _ (Cloud.complete false (deletion name) session).outcome) = _
  rw [ends]
  show Except.mapError _ (Except.map _
    (match (session.script.next .deleteGroup).completionFault? with
    | some fault => _
    | none => _)) = _
  cases (session.script.next .deleteGroup).completionFault? <;> rfl

/-- What the log says when a removal begins. -/
def removalNotice : LogRecord :=
  run.record LogLevel.info "provisioning failed, removing resource group"
    (some CreateRun.rollbackStep)

/-- What the log says about the fault that a removal meets, if it meets one. -/
def removalWarnings (behaviour : Behaviour) : List LogRecord :=
  behaviour.completionFault?.toList.map (removalWarning run)

/-- The next deletion of a group is not interrupted. -/
def Spared : Prop :=
  ∀ text, (session.script.next .deleteGroup).completionFault? ≠ some (.interrupt text)

/-- A removal that is not interrupted succeeds, and its fault is only logged. -/
theorem rollback_of_spared (spared : Spared session) :
    (run.rollback session).outcome = .ok () ∧
      Event.logRecords (run.rollback session).events =
        removalNotice run :: removalWarnings run (session.script.next .deleteGroup) := by
  let handle : Failure → Operation Unit := fun failure =>
    if failure.isInterrupt then fail failure
    else run.log LogLevel.warning (run.removalFailed failure) (some CreateRun.rollbackStep)
  let removal := (Cloud.deleteGroup run.name true).recover handle session
  have outcome : (run.rollback session).outcome = removal.outcome := rfl
  have events : (run.rollback session).events = .logged (removalNotice run) :: removal.events := rfl
  obtain ⟨ends, silent⟩ := deleteGroup_apply session run.name
  rw [outcome, events]
  unfold removalWarnings
  dsimp only [removal]
  cases faulty : (session.script.next .deleteGroup).completionFault? with
  | some fault =>
      have error : (Cloud.reported (.deleteGroup run.name) (.fault fault)).isInterrupt ≠ true := by
        intro interrupts
        obtain ⟨text, rfl⟩ := interrupt_of_reported interrupts
        exact spared text faulty
      rw [faulty] at ends
      rw [recover_apply_of_failed ends]
      dsimp only [handle]
      rw [if_neg error]
      refine ⟨rfl, ?_⟩
      rw [Event.logRecords_cons, Event.logRecords_append, silent]
      rfl
  | none =>
      rw [faulty] at ends
      rw [recover_apply_of_ok ends]
      refine ⟨ends, ?_⟩
      rw [Event.logRecords_cons, silent]
      rfl

end Removal

/-! ## What has nothing to do with deletions -/

section Ignoring

variable {α : Type} (run : CreateRun) (location : Text) (spec : RunnerSpec)

theorem ignores_guarded {method : CloudMethod} {operation : Operation α} (action : CloudAction)
    (ignores : Ignores method operation) : Ignores method (Cloud.guarded action operation) :=
  ignores.recover fun _ => ignores_fail _

/-- Nothing that is done inside the group, or before, deletes a group. -/
theorem pervasive_ignores : Pervasive fun _ operation => Ignores .deleteGroup operation where
  result := ignores_pure
  sequence := fun first rest => first.bind rest
  looked := ignores_isCancelled
  cancelled := fun _ _ => ignores_fail _
  logged := fun _ => ignores_emit _
  attributed := fun _ _ ignores => ignores.recover fun _ => ignores_fail _
  unidentified := fun _ => ignores_fail _
  drawn := ignores_drawNumbers
  created := fun action _ inside =>
    ignores_guarded action (ignores_complete (fun deletes => inside (Or.inr deletes)) true)

theorem ignores_maxEphemeralGb (vmSize : Text) :
    Ignores .deleteGroup (Cloud.maxEphemeralGb location vmSize) := by
  have listed : Ignores .deleteGroup (Cloud.listedSku location vmSize) := by
    refine (ignores_list (by simp [Request.method])).bind fun listing => ?_
    split
    · exact ignores_pure _
    · exact (ignores_raise _ _).bind fun _ => ignores_pure _
  refine Ignores.bind ?_ fun sku => ignores_ofExcept
  refine (ignores_guarded _ listed).bind fun entry => ?_
  split
  · exact ignores_pure _
  · exact ignores_fail _

theorem ignores_prepare : Ignores .deleteGroup (prepare run location spec) := by
  have grouped : Ignores .deleteGroup (Cloud.createGroup location run.name spec.tags) :=
    ignores_guarded _ (ignores_submit (by simp [Request.method]))
  exact pervasive_ignores.prepare run location spec (ignores_maxEphemeralGb location spec.vmSize)
    (fun _ => ignores_ofExcept) grouped

theorem ignores_resources (diskSizeGb : Int) :
    Ignores .deleteGroup (resources run location spec diskSizeGb) :=
  pervasive_ignores.resources run location spec diskSizeGb

end Ignoring

/-! ## Creations -/

/-- What a creation does once its group is there. -/
def filling (run : CreateRun) (location : Text) (spec : RunnerSpec) (diskSizeGb : Int) :
    Operation RunnerInstance := do
  let publicAddress ← run.rollingBack (resources run location spec diskSizeGb)
  conclude run spec diskSizeGb publicAddress

theorem createFrom_eq (location : Text) (spec : RunnerSpec) (session : Session) :
    createFrom location spec session =
      (prepare (runIn spec session) location spec >>= filling (runIn spec session) location spec)
        (begun session) := rfl

/-- A creation fails for a reason of its own, and removes what it has done before. -/
structure Reverts (run : CreateRun) (failure : Failure) (before : List Event) (session : Session)
    (execution : Execution RunnerInstance) : Prop where
  outcome : execution.outcome = .error (.failed failure)
  requests : Event.requests execution.events = Event.requests before ++ [deletion run.name]
  log : Event.logRecords execution.events = Event.logRecords before ++ removalNotice run ::
    removalWarnings run (session.script.next .deleteGroup)

section Creations

variable {location : Text} {spec : RunnerSpec} {session : Session} {behaviours : List Behaviour}

theorem prepared_answering (location : Text) (spec : RunnerSpec) (session : Session)
    (behaviours : List Behaviour) :
    prepared location spec (session.answering .deleteGroup behaviours) =
      (prepared location spec session).answering .deleteGroup behaviours :=
  ignores_prepare (runIn spec session) location spec (begun session) behaviours

theorem filled_answering (location : Text) (spec : RunnerSpec) (session : Session)
    (behaviours : List Behaviour) (diskSizeGb : Int) :
    filled location spec (session.answering .deleteGroup behaviours) diskSizeGb =
      (filled location spec session diskSizeGb).answering .deleteGroup behaviours := by
  unfold filled
  rw [prepared_answering]
  exact ignores_resources (runIn spec session) location spec diskSizeGb _ behaviours

/-- The removal of a group meets what the session has for deletions. -/
theorem next_deletion_of_filled (location : Text) (spec : RunnerSpec) (session : Session)
    (diskSizeGb : Int) :
    (filled location spec session diskSizeGb).session.script.next .deleteGroup =
      session.script.next .deleteGroup := by
  have inside := (ignores_resources (runIn spec session) location spec diskSizeGb).keeps
    (prepared location spec session).session
  have before := (ignores_prepare (runIn spec session) location spec).keeps (begun session)
  have same : (filled location spec session diskSizeGb).session.script .deleteGroup =
      session.script .deleteGroup := inside.trans before
  unfold CloudScript.next
  rw [same]

/-- A creation that fails inside the group. -/
theorem Course.of_failed {execution : Execution RunnerInstance}
    (course : Course location spec session execution) {diskSizeGb : Int} {failure : Failure}
    (ready : (prepared location spec session).outcome = .ok diskSizeGb)
    (fails : (filled location spec session diskSizeGb).outcome = .error (.failed failure))
    (removes : (removed location spec session diskSizeGb).outcome = .ok ()) :
    execution.outcome = .error (.failed failure) ∧
      execution.events = (prepared location spec session).events ++
        ((filled location spec session diskSizeGb).events ++
          (removed location spec session diskSizeGb).events) := by
  cases course with
  | unprepared stops =>
      rw [ready] at stops
      cases stops
  | failed readyToo failsToo removesToo =>
      rw [ready] at readyToo
      cases readyToo
      rw [fails] at failsToo
      cases failsToo
      exact ⟨rfl, rfl⟩
  | interrupted readyToo failsToo stops =>
      rw [ready] at readyToo
      cases readyToo
      rw [removes] at stops
      cases stops
  | hung readyToo ends | unreported readyToo ends | created readyToo ends =>
      rw [ready] at readyToo
      cases readyToo
      rw [fails] at ends
      cases ends

/-- A creation that does not fail inside the group deletes nothing. -/
theorem Course.no_deletion {execution : Execution RunnerInstance}
    (course : Course location spec session execution)
    (unfailed : ∀ diskSizeGb failure, (prepared location spec session).outcome = .ok diskSizeGb →
      (filled location spec session diskSizeGb).outcome ≠ .error (.failed failure)) :
    deletion spec.name ∉ Event.requests execution.events := by
  have before : deletion spec.name ∉ Event.requests (prepared location spec session).events :=
    fun made => within_prepared.requests made rfl
  have inside : ∀ diskSizeGb,
      deletion spec.name ∉ Event.requests (filled location spec session diskSizeGb).events :=
    fun diskSizeGb made => (within_filled diskSizeGb).requests made rfl
  cases course with
  | unprepared stops => exact before
  | failed ready fails | interrupted ready fails => exact absurd fails (unfailed _ _ ready)
  | hung ready hangs => simp [before, inside]
  | unreported ready fills => simp [before, inside]
  | created ready fills => simp [before, inside]

theorem reverts_of_failed {diskSizeGb : Int} {failure : Failure} (spared : Spared session)
    (ready : (prepared location spec session).outcome = .ok diskSizeGb)
    (fails : (filled location spec session diskSizeGb).outcome = .error (.failed failure)) :
    Reverts (runIn spec session) failure
      ((prepared location spec session).events ++ (filled location spec session diskSizeGb).events)
      session (createFrom location spec session) := by
  have deletes := next_deletion_of_filled location spec session diskSizeGb
  have sparedStill : Spared (filled location spec session diskSizeGb).session := by
    unfold Spared
    rw [deletes]
    exact spared
  obtain ⟨removes, log⟩ := rollback_of_spared (runIn spec session) _ sparedStill
  obtain ⟨ends, events⟩ := (createFrom_course location spec session).of_failed ready fails removes
  have calls := (removed_removes location spec session diskSizeGb).requests
  refine ⟨ends, ?_, ?_⟩
  · rw [events, ← List.append_assoc, Event.requests_append, calls]
    rfl
  · rw [events, ← List.append_assoc, Event.logRecords_append]
    show _ ++ Event.logRecords ((runIn spec session).rollback _).events = _
    rw [log, deletes]

/-- How deletions are answered makes no difference to a creation that does not fail in the group. -/
theorem createFrom_answering
    (unfailed : ∀ diskSizeGb failure, (prepared location spec session).outcome = .ok diskSizeGb →
      (filled location spec session diskSizeGb).outcome ≠ .error (.failed failure)) :
    createFrom location spec (session.answering .deleteGroup behaviours) =
      (createFrom location spec session).answering .deleteGroup behaviours := by
  rw [createFrom_eq, createFrom_eq]
  refine bind_answering (prepared_answering location spec session behaviours) ?_
  intro diskSizeGb ready
  refine bind_answering (recover_answering
    (ignores_resources (runIn spec session) location spec diskSizeGb _ behaviours)
    fun failure => unfailed diskSizeGb failure ready) fun address _ => ?_
  have finishes : Ignores .deleteGroup (conclude (runIn spec session) spec diskSizeGb address) :=
    ignores_ofExcept.bind fun _ => (ignores_emit _).bind fun _ => ignores_pure _
  exact finishes _ behaviours

end Creations

/-- What is logged at the end of a creation about the deletion of its group: a warning, if the
deletion was called for and meets a fault. -/
def closingWarnings (run : CreateRun) (session : Session) (calls : List Request) : List LogRecord :=
  if deletion run.name ∈ calls then removalWarnings run (session.script.next .deleteGroup) else []

/-- Two runs of a creation that differ in nothing but what the log says about the deletion. -/
structure DifferInWarnings (run : CreateRun) (session other : Session)
    (first second : Execution RunnerInstance) : Prop where
  outcome : first.outcome = second.outcome
  calls : Event.requests first.events = Event.requests second.events
  log : ∃ shared,
    Event.logRecords first.events =
      shared ++ closingWarnings run session (Event.requests first.events) ∧
    Event.logRecords second.events =
      shared ++ closingWarnings run other (Event.requests second.events)

theorem differInWarnings_of_reverts {run : CreateRun} {failure : Failure} {before : List Event}
    {session other : Session} {first second : Execution RunnerInstance}
    (reverts : Reverts run failure before session first)
    (revertsToo : Reverts run failure before other second) :
    DifferInWarnings run session other first second where
  outcome := reverts.outcome.trans revertsToo.outcome.symm
  calls := reverts.requests.trans revertsToo.requests.symm
  log := by
    refine ⟨Event.logRecords before ++ [removalNotice run], ?_, ?_⟩
    · rw [reverts.log, reverts.requests, closingWarnings, if_pos (by simp), List.append_assoc]
      rfl
    · rw [revertsToo.log, revertsToo.requests, closingWarnings, if_pos (by simp),
        List.append_assoc]
      rfl

theorem createFrom_differs {location : Text} {spec : RunnerSpec} {session : Session}
    {behaviours : List Behaviour} (spared : Spared session)
    (sparedToo : Spared (session.answering .deleteGroup behaviours)) :
    DifferInWarnings (runIn spec session) session (session.answering .deleteGroup behaviours)
      (createFrom location spec session)
      (createFrom location spec (session.answering .deleteGroup behaviours)) := by
  by_cases failing : ∃ diskSizeGb failure,
      (prepared location spec session).outcome = .ok diskSizeGb ∧
        (filled location spec session diskSizeGb).outcome = .error (.failed failure)
  · obtain ⟨diskSizeGb, failure, ready, fails⟩ := failing
    have prepares := prepared_answering location spec session behaviours
    have fills := filled_answering location spec session behaviours diskSizeGb
    have readyToo : (prepared location spec
        (session.answering .deleteGroup behaviours)).outcome = .ok diskSizeGb := by
      rw [prepares]
      exact ready
    have failsToo : (filled location spec (session.answering .deleteGroup behaviours)
        diskSizeGb).outcome = .error (.failed failure) := by
      rw [fills]
      exact fails
    have other := reverts_of_failed sparedToo readyToo failsToo
    rw [prepares, fills] at other
    exact differInWarnings_of_reverts (reverts_of_failed spared ready fails) other
  · have unfailed : ∀ diskSizeGb failure,
        (prepared location spec session).outcome = .ok diskSizeGb →
        (filled location spec session diskSizeGb).outcome ≠ .error (.failed failure) :=
      fun diskSizeGb failure ready fails => failing ⟨diskSizeGb, failure, ready, fails⟩
    have kept := (createFrom_course location spec session).no_deletion unfailed
    rw [createFrom_answering unfailed]
    refine ⟨rfl, rfl, Event.logRecords (createFrom location spec session).events, ?_, ?_⟩
    · rw [closingWarnings, if_neg (show deletion (runIn spec session).name ∉ _ from kept),
        List.append_nil]
    · rw [closingWarnings, Execution.answering_events,
        if_neg (show deletion (runIn spec session).name ∉ _ from kept), List.append_nil]

/-- How the deletion of the group is answered, if it is not interrupted, makes no difference to a
creation: it gives the same runner or fails with the same failure, its calls are the same, and its
log is the same but for a warning that ends it when the deletion was called for and met a fault. -/
theorem removal_never_masks (controllerId : Text) (config : ProviderConfig)
    (bootstrap : Bootstrap) {session : Session} {behaviours : List Behaviour}
    (spared : Spared session) (sparedToo : Spared (session.answering .deleteGroup behaviours)) :
    DifferInWarnings ⟨bootstrap.name, session.nextSerial⟩ session
      (session.answering .deleteGroup behaviours) (create controllerId config bootstrap session)
      (create controllerId config bootstrap (session.answering .deleteGroup behaviours)) := by
  cases accepts : admitted controllerId config bootstrap with
  | error failure =>
      rw [create_of_refused accepts, create_of_refused accepts]
      exact ⟨rfl, rfl, [], rfl, rfl⟩
  | ok spec =>
      rw [create_of_admitted accepts, ← name_of_admitted accepts]
      exact createFrom_differs spared sparedToo

/-- The session in which the network is refused and then the group is locked. -/
def lockedSession : Session :=
  (sampleSession brokenNetwork).answering .deleteGroup
    [{ resultFault := some (.service .general "locked") }]

theorem removal_never_masks_of_lockedGroup :
    let unlocked := sampleRun brokenNetwork
    let locked := create "controller-1" sampleConfig sampleBootstrap lockedSession
    unlocked.outcome = locked.outcome ∧
      Event.logRecords locked.events =
        Event.logRecords unlocked.events ++
          [removalWarning ⟨"runner-1", 0⟩ (.service .general "locked")] := by
  dsimp only
  have spared : Spared (sampleSession brokenNetwork) := nofun
  have sparedToo : Spared lockedSession := nofun
  have differ : DifferInWarnings ⟨"runner-1", 0⟩ (sampleSession brokenNetwork) lockedSession
      (sampleRun brokenNetwork)
      (create "controller-1" sampleConfig sampleBootstrap lockedSession) :=
    removal_never_masks "controller-1" sampleConfig sampleBootstrap spared sparedToo
  obtain ⟨shared, log, logToo⟩ := differ.log
  have unwarned : ∀ calls,
      closingWarnings ⟨"runner-1", 0⟩ (sampleSession brokenNetwork) calls = [] := by
    intro calls
    unfold closingWarnings
    split <;> rfl
  have deleted : deletion "runner-1" ∈ Event.requests (sampleRun brokenNetwork).events := by
    decide +kernel
  have warned : closingWarnings ⟨"runner-1", 0⟩ lockedSession
      (Event.requests (sampleRun brokenNetwork).events) =
        [removalWarning ⟨"runner-1", 0⟩ (.service .general "locked")] :=
    if_pos deleted
  rw [unwarned, List.append_nil] at log
  rw [← differ.calls, warned] at logToo
  exact ⟨differ.outcome, by rw [log, logToo]⟩

end Provision

end RunnerCloud
