import Mathlib.Data.List.Forall2
import RunnerCloud.Proofs.Provision.Masking
import RunnerCloud.Proofs.Provision.Wiring
import RunnerCloud.Proofs.Run.Asking

/-!
Contract: the log of a creation mirrors its calls.

Owns:
- `Operation.Narrates`, by which a part of a creation announces each of its calls with one record, and
  writes no other; every step does so, and so do the preparations and everything inside the group;
- `RemovalLog` and `CompletionLog`, what the log says about a removal and about a success;
- `CreationLog`, the shape of the log of a creation, and `create_log`: every creation has it.

Does not own: the logs of other operations.
-/

namespace RunnerCloud

open Operation Provision

variable {α β : Type}

namespace CreateRun

/-- What the log says before a step is performed. -/
def announcement (run : CreateRun) (step : Step) : LogRecord :=
  run.record LogLevel.debug step.action (some step.name)

/-- The record is that of the step which makes the call. -/
def Announces (run : CreateRun) (request : Request) (record : LogRecord) : Prop :=
  ∃ step : Step, request.method = step.method ∧ record = run.announcement step

/-- A record that the run has written, with a level that no log drops which keeps the finest. -/
def Writes (run : CreateRun) (record : LogRecord) : Prop :=
  ∃ level message step, record = run.record level message step ∧ LogLevel.debug ≤ level

end CreateRun

/-! ## Parts that announce their calls -/

/-- A run that announces its calls, one record for each, writes no other record, and draws no
serial. -/
structure Execution.Narrates (run : CreateRun) (session : Session) (execution : Execution α) :
    Prop where
  announced : List.Forall₂ run.Announces (Event.requests execution.events)
    (Event.logRecords execution.events)
  serial : execution.session.nextSerial = session.nextSerial

namespace Operation

/-- However the cloud answers, the operation announces its calls. -/
def Narrates (run : CreateRun) (operation : Operation α) : Prop :=
  ∀ session, (operation session).Narrates run session

variable {run : CreateRun}

/-- What makes no call has nothing to announce. -/
theorem Asks.narrates {operation : Operation α} (asks : Asks [] operation) :
    Narrates run operation := by
  intro session
  refine ⟨?_, (asks session).serial⟩
  rw [(asks session).requests, (asks session).silent]
  exact .nil

theorem Narrates.bind {operation : Operation α} {next : α → Operation β}
    (first : Narrates run operation) (rest : ∀ value, Narrates run (next value)) :
    Narrates run (operation >>= next) := by
  intro session
  have early := first session
  cases ending : (operation session).outcome with
  | error reason =>
      rw [bind_apply_of_error ending]
      exact ⟨early.announced, early.serial⟩
  | ok value =>
      have late := rest value (operation session).session
      rw [bind_apply_of_ok ending]
      refine ⟨?_, late.serial.trans early.serial⟩
      rw [Event.requests_append, Event.logRecords_append]
      exact List.rel_append early.announced late.announced

end Operation

namespace Provision

theorem asks_guarded {operation : Operation α} {calls : List Request} (action : CloudAction)
    (asks : Asks calls operation) : Asks calls (Cloud.guarded action operation) :=
  asks.renamed _

section Steps

variable (run : CreateRun)

theorem asks_checkCancelled (boundary : Boundary) : Asks [] (run.checkCancelled boundary) := by
  refine asks_isCancelled.bind fun cancelled => ?_
  split
  · exact asks_fail _
  · exact asks_pure _

/-- A step announces the one call that its action makes; a step that is not performed, because the
creation was cancelled, makes no call. -/
theorem narrates_step {step : Step} {operation : Operation α}
    (asks : ∀ session, ∃ request, request.method = step.method ∧
      (operation session).Asks [request] session) :
    Narrates run (run.step step operation) := by
  intro session
  cases cancelled : session.token.isSet with
  | true =>
      rw [step_of_set cancelled]
      exact ⟨.nil, rfl⟩
  | false =>
      obtain ⟨request, method, acts⟩ := asks session
      have performed : run.step step operation session =
          ⟨(CreateRun.inStep step operation session).outcome,
            .logged (run.announcement step) :: (CreateRun.inStep step operation session).events,
            (CreateRun.inStep step operation session).session⟩ := by
        rw [step_of_unset cancelled]
        rfl
      rw [performed, inStep_apply]
      refine ⟨?_, acts.serial⟩
      rw [Event.requests_cons, Event.logRecords_cons]
      show List.Forall₂ run.Announces (Event.requests (operation session).events)
        (run.announcement step :: Event.logRecords (operation session).events)
      rw [acts.requests, acts.silent]
      exact .cons ⟨step, method, rfl⟩ .nil

theorem narrates_askingStep {step : Step} {operation : Operation α} {request : Request}
    (method : request.method = step.method) (asks : Asks [request] operation) :
    Narrates run (run.step step operation) :=
  narrates_step run fun session => ⟨request, method, asks session⟩

/-- The step that makes a call is the one of its method. -/
theorem method_of_purpose {request : Request} {step : Step} {action : CloudAction}
    (purpose : request.purpose? = some (step, action)) : request.method = step.method := by
  cases request <;> cases purpose <;> rfl

/-- The order of a VM is one call, whatever password was drawn for it. -/
theorem asks_createMachine (location : Text) (spec : RunnerSpec) (interfaceId : Value)
    (tags : Tags) (diskSizeGb : Int) (session : Session) :
    ∃ request, request.method = .createMachine ∧
      (Cloud.createMachine location true spec interfaceId tags diskSizeGb session).Asks [request]
        session := by
  obtain ⟨draws, settled⟩ := accessOf_apply spec session
  let request : Request := .createMachine
    (spec.machineOrder location interfaceId tags diskSizeGb (accessFrom spec session.draws))
  have ordered : Cloud.createMachine location true spec interfaceId tags diskSizeGb session =
      Cloud.guarded (.createMachine spec.name) (Cloud.complete true request)
        { session with draws := draws } := by
    unfold Cloud.createMachine
    rw [bind_apply_of_ok (by rw [settled]), settled]
    rfl
  rw [ordered]
  have asks := asks_guarded (.createMachine spec.name) (asks_complete true request)
    { session with draws := draws }
  exact ⟨request, rfl, asks.requests, asks.silent, asks.serial⟩

theorem asks_maxEphemeralGb (location vmSize : Text) :
    Asks [.listSkus location] (Cloud.maxEphemeralGb location vmSize) := by
  have listed : Asks [.listSkus location] (Cloud.listedSku location vmSize) := by
    refine (asks_list _).bind fun listing => ?_
    split
    · exact asks_pure _
    · exact (asks_raise _ _).bind fun _ => asks_pure _
  refine Asks.bind ?_ fun sku => asks_ofExcept
  refine (asks_guarded _ listed).bind fun entry => ?_
  split
  · exact asks_pure _
  · exact asks_fail _

theorem stepwise_narrates : Stepwise run fun _ operation => Narrates run operation where
  result := fun value => (asks_pure value).narrates
  sequence := fun first rest => first.bind rest
  checked := fun boundary => (asks_checkCancelled run boundary).narrates
  unidentified := fun _ => (asks_fail _).narrates
  created := fun purpose _ => narrates_askingStep run (method_of_purpose purpose)
    (asks_guarded _ (asks_complete true _))
  ordered := fun location spec interfaceId tags diskSizeGb =>
    narrates_step run (asks_createMachine location spec interfaceId tags diskSizeGb)

theorem narrates_prepare (location : Text) (spec : RunnerSpec) :
    Narrates run (prepare run location spec) :=
  (stepwise_narrates run).prepare location spec
    (narrates_askingStep run rfl (asks_maxEphemeralGb location spec.vmSize))
    (fun _ => asks_ofExcept.narrates)
    (narrates_askingStep run rfl (asks_guarded _ (asks_submit _)))

theorem narrates_resources (location : Text) (spec : RunnerSpec) (diskSizeGb : Int) :
    Narrates run (resources run location spec diskSizeGb) :=
  (stepwise_narrates run).resources location spec diskSizeGb

end Steps

/-! ## The removal of the group -/

/-- What the log says about the removal of a group: nothing when no deletion was called for; else a
notice, and after it a warning exactly when the deletion met a fault that is no interrupt. -/
inductive RemovalLog (run : CreateRun) (events : List Event) : List LogRecord → Prop
  | kept (undeleted : deletions events = []) : RemovalLog run events []
  | unwarned (deleted : deletions events ≠ [])
      (calm : ∀ fault, .raised (deletion run.name) fault ∈ events →
        ∃ text, fault = .interrupt text) :
      RemovalLog run events [removalNotice run]
  | warned {fault : Fault} (deleted : deletions events ≠ [])
      (raised : .raised (deletion run.name) fault ∈ events)
      (error : ∀ text, fault ≠ .interrupt text) :
      RemovalLog run events [removalNotice run, removalWarning run fault]

section Removal

variable (run : CreateRun) (session : Session)

theorem asks_deleteGroup (name : Text) :
    Asks [deletion name] (Cloud.deleteGroup name true) :=
  asks_guarded _ ((asks_complete false (deletion name)).bind fun _ => asks_pure ())

/-- A fault that is reported as an interrupt is one. -/
theorem reported_isInterrupt_iff (action : CloudAction) (fault : Fault) :
    (Cloud.reported action (.fault fault)).isInterrupt = true ↔ ∃ text, fault = .interrupt text := by
  constructor
  · exact interrupt_of_reported
  · rintro ⟨text, rfl⟩
    rfl

/-- A removal is logged as it ends, and draws no serial. -/
theorem rollback_log :
    RemovalLog run (run.rollback session).events (Event.logRecords (run.rollback session).events) ∧
      (run.rollback session).session.nextSerial = session.nextSerial := by
  let handle : Failure → Operation Unit := fun failure =>
    if failure.isInterrupt then fail failure
    else run.log LogLevel.warning (run.removalFailed failure) (some CreateRun.rollbackStep)
  let deleting := Cloud.deleteGroup run.name true session
  let removal := (Cloud.deleteGroup run.name true).recover handle session
  have unfolded : run.rollback session =
      ⟨removal.outcome, .logged (removalNotice run) :: removal.events, removal.session⟩ := rfl
  have asks : deleting.Asks [deletion run.name] session := asks_deleteGroup run.name session
  have called : ∀ later : List Event,
      deletions (.logged (removalNotice run) :: (deleting.events ++ later)) ≠ [] := by
    intro later
    unfold deletions
    rw [Event.requests_cons, Event.requests_append, asks.requests]
    simp [deletion, Request.method]
  have shown : ∀ fault, .raised (deletion run.name) fault ∈ deleting.events →
      deleting.outcome = .error (.failed (Cloud.reported (.deleteGroup run.name) (.fault fault))) := by
    intro fault raised
    obtain ⟨failure, fails, _, rfl⟩ := surfaces_deleteGroup run.name session _ _ raised
    exact fails
  rw [unfolded]
  dsimp only [removal]
  rcases ending : deleting.outcome with (failure | _) | _
  · obtain ⟨fault, same, raised⟩ := (deleteGroup_completes run.name session).stops _ ending
    cases same
    rw [recover_apply_of_failed ending]
    dsimp only [handle]
    by_cases interrupts : (Cloud.reported (.deleteGroup run.name) (.fault fault)).isInterrupt = true
    · rw [if_pos interrupts]
      refine ⟨?_, asks.serial⟩
      rw [Event.logRecords_cons, Event.logRecords_append, asks.silent]
      refine .unwarned (called _) fun other met => ?_
      have same := Stop.failed.inj (Except.error.inj
        (ending.symm.trans (shown other (by simpa using met))))
      rw [same] at interrupts
      exact interrupt_of_reported interrupts
    · rw [if_neg interrupts]
      refine ⟨?_, asks.serial⟩
      rw [Event.logRecords_cons, Event.logRecords_append, asks.silent]
      refine .warned (called _) (by simp [raised]) fun text same => ?_
      exact interrupts ((reported_isInterrupt_iff _ _).2 ⟨text, same⟩)
  · obtain ⟨fault, impossible, _⟩ := (deleteGroup_completes run.name session).stops _ ending
    cases impossible
  · rw [recover_apply_of_ok ending]
    refine ⟨?_, asks.serial⟩
    rw [Event.logRecords_cons, asks.silent]
    refine .unwarned (by simpa using called []) fun fault met => ?_
    have fails := shown fault (by simpa using met)
    rw [ending] at fails
    cases fails

end Removal

/-! ## Creations -/

/-- What the log says about the completion of a creation: one record, if it gives an instance. -/
inductive CompletionLog (run : CreateRun) : Except Stop RunnerInstance → List LogRecord → Prop
  | created (made : RunnerInstance) (message : Text) :
      CompletionLog run (.ok made) [run.record LogLevel.info message none]
  | stopped (reason : Stop) : CompletionLog run (.error reason) []

/-- The log of a creation: the announcements of its calls but for deletions, one for each and in
their order, then its completion, then a removal. All its records carry the same name, operation and
identifier. -/
structure CreationLog (run : CreateRun) (execution : Execution RunnerInstance)
    (log : List LogRecord) : Prop where
  parts : ∃ announcements completion removal,
    log = announcements ++ completion ++ removal ∧
    List.Forall₂ run.Announces (constructive execution.events) announcements ∧
    CompletionLog run execution.outcome completion ∧
    RemovalLog run execution.events removal
  shared : ∀ record ∈ log,
    record.operation = .text CreateRun.operationName ∧ record.instanceName = .text run.name ∧
      record.correlation = .generated run.serial

section Records

variable {run : CreateRun}

theorem writes_of_announced {calls : List Request} {announcements : List LogRecord}
    (announces : List.Forall₂ run.Announces calls announcements) :
    ∀ record ∈ announcements, run.Writes record := by
  induction announces with
  | nil => simp
  | cons head tail inductionHypothesis =>
      obtain ⟨step, _, rfl⟩ := head
      rintro record (_ | ⟨_, member⟩)
      · exact ⟨_, _, _, rfl, Int.le_refl _⟩
      · exact inductionHypothesis record member

theorem CompletionLog.writes {outcome : Except Stop RunnerInstance} {completion : List LogRecord}
    (completes : CompletionLog run outcome completion) :
    ∀ record ∈ completion, run.Writes record := by
  cases completes with
  | created made message =>
      rintro record member
      rw [List.mem_singleton.1 member]
      exact ⟨_, _, _, rfl, by decide⟩
  | stopped reason => simp

theorem RemovalLog.writes {events : List Event} {removal : List LogRecord}
    (removes : RemovalLog run events removal) : ∀ record ∈ removal, run.Writes record := by
  have notice : run.Writes (removalNotice run) := ⟨_, _, _, rfl, by decide⟩
  cases removes with
  | kept undeleted => simp
  | unwarned deleted calm => simpa using notice
  | warned deleted raised error =>
      have warning : ∀ fault, run.Writes (removalWarning run fault) :=
        fun fault => ⟨_, _, _, rfl, by decide⟩
      simpa using ⟨notice, warning _⟩

/-- A removal is logged the same way when something else went before it. -/
theorem RemovalLog.after {removal : List Event} {log : List LogRecord}
    (removes : RemovalLog run removal log) {before : List Event}
    (within : Event.Within (fun request => request.method ≠ .deleteGroup) before) :
    RemovalLog run (before ++ removal) log := by
  have same : deletions (before ++ removal) = deletions removal := by
    rw [deletions_append, deletions_eq_nil within, List.nil_append]
  have unraised : ∀ fault, .raised (deletion run.name) fault ∉ before :=
    fun fault => within.not_mem rfl (by simp [deletion, Request.method])
  cases removes with
  | kept undeleted => exact .kept (same.trans undeleted)
  | unwarned deleted calm =>
      refine .unwarned (same ▸ deleted) fun fault raised => calm fault ?_
      exact (List.mem_append.1 raised).resolve_left (unraised fault)
  | warned deleted raised error =>
      exact .warned (same ▸ deleted) (List.mem_append_right _ raised) error

/-- The run has written all parts of a log. -/
theorem writes_of_parts {calls : List Request} {outcome : Except Stop RunnerInstance}
    {events : List Event} {announcements completion removal : List LogRecord}
    (announces : List.Forall₂ run.Announces calls announcements)
    (completes : CompletionLog run outcome completion) (removes : RemovalLog run events removal) :
    ∀ record ∈ announcements ++ completion ++ removal, run.Writes record := by
  intro record member
  simp only [List.mem_append] at member
  rcases member with (announced | completed) | removed
  · exact writes_of_announced announces record announced
  · exact completes.writes record completed
  · exact removes.writes record removed

theorem CreationLog.writes {execution : Execution RunnerInstance} {log : List LogRecord}
    (mirrors : CreationLog run execution log) : ∀ record ∈ log, run.Writes record := by
  obtain ⟨announcements, completion, removal, rfl, announces, completes, removes⟩ := mirrors.parts
  exact writes_of_parts announces completes removes

/-- The parts of a log share what a run puts into every record. -/
theorem CreationLog.of_parts {execution : Execution RunnerInstance}
    {announcements completion removal : List LogRecord}
    (announces : List.Forall₂ run.Announces (constructive execution.events) announcements)
    (completes : CompletionLog run execution.outcome completion)
    (removes : RemovalLog run execution.events removal) :
    CreationLog run execution (announcements ++ completion ++ removal) := by
  refine ⟨⟨announcements, completion, removal, rfl, announces, completes, removes⟩, ?_⟩
  intro record member
  obtain ⟨level, message, step, rfl, _⟩ := writes_of_parts announces completes removes record member
  exact ⟨rfl, rfl, rfl⟩

/-- What ends a creation makes no call but a deletion, and logs the completion or the removal. -/
theorem CreationLog.of_ending {execution : Execution RunnerInstance} {before ending : List Event}
    {completion removal : List LogRecord} (events : execution.events = before ++ ending)
    (announced : List.Forall₂ run.Announces (Event.requests before) (Event.logRecords before))
    (within : Event.Within (fun request => request.method ≠ .deleteGroup) before)
    (deletes : constructive ending = []) (logged : Event.logRecords ending = completion ++ removal)
    (completes : CompletionLog run execution.outcome completion)
    (removes : RemovalLog run ending removal) :
    CreationLog run execution (Event.logRecords execution.events) := by
  have calls : constructive execution.events = Event.requests before := by
    rw [events, constructive_append, deletes, List.append_nil,
      constructive_eq fun _ member => within.requests member]
  have log : Event.logRecords execution.events =
      Event.logRecords before ++ completion ++ removal := by
    rw [events, Event.logRecords_append, logged, List.append_assoc]
  rw [log]
  exact .of_parts (calls ▸ announced) completes (events ▸ removes.after within)

end Records

section Creations

variable {location : Text} {spec : RunnerSpec} {session : Session}

theorem narrates_prepared (location : Text) (spec : RunnerSpec) (session : Session) :
    (prepared location spec session).Narrates (runIn spec session) (begun session) :=
  narrates_prepare (runIn spec session) location spec (begun session)

theorem narrates_filled (location : Text) (spec : RunnerSpec) (session : Session)
    (diskSizeGb : Int) :
    (filled location spec session diskSizeGb).Narrates (runIn spec session)
      (prepared location spec session).session :=
  narrates_resources (runIn spec session) location spec diskSizeGb _

/-- Inside the group the announcements go on. -/
theorem announced_filled (location : Text) (spec : RunnerSpec) (session : Session)
    (diskSizeGb : Int) :
    let before := (prepared location spec session).events ++
      (filled location spec session diskSizeGb).events
    List.Forall₂ (runIn spec session).Announces (Event.requests before)
      (Event.logRecords before) := by
  intro before
  rw [Event.requests_append, Event.logRecords_append]
  exact List.rel_append (narrates_prepared location spec session).announced
    (narrates_filled location spec session diskSizeGb).announced

theorem createFrom_log (location : Text) (spec : RunnerSpec) (session : Session) :
    CreationLog (runIn spec session) (createFrom location spec session)
      (Event.logRecords (createFrom location spec session).events) := by
  have prepares := narrates_prepared location spec session
  have fills := announced_filled location spec session
  have within : ∀ diskSizeGb, Event.Within (fun request => request.method ≠ .deleteGroup)
      ((prepared location spec session).events ++
        (filled location spec session diskSizeGb).events) :=
    fun diskSizeGb => (Event.within_append _ _).2 ⟨within_prepared, within_filled diskSizeGb⟩
  have removes := fun diskSizeGb =>
    (rollback_log (runIn spec session) (filled location spec session diskSizeGb).session).1
  have course := createFrom_course location spec session
  generalize createFrom location spec session = execution at course ⊢
  cases course with
  | unprepared stops =>
      exact .of_ending (List.append_nil _).symm prepares.announced within_prepared rfl rfl
        (.stopped _) (.kept rfl)
  | failed ready fails removed | interrupted ready fails stops =>
      exact .of_ending (List.append_assoc ..).symm (fills _) (within _) (constructive_removed _) rfl
        (.stopped _) (removes _)
  | hung ready hangs | unreported ready filled refuses =>
      exact .of_ending (List.append_nil _).symm (fills _) (within _) rfl rfl
        (.stopped _) (.kept rfl)
  | @created diskSizeGb address addresses message ready filled concludes =>
      exact .of_ending (List.append_assoc ..).symm (fills _) (within _) rfl rfl
        (.created _ message) (.kept rfl)

/-- A creation draws one serial. -/
theorem createFrom_serial (location : Text) (spec : RunnerSpec) (session : Session) :
    (createFrom location spec session).session.nextSerial = session.nextSerial + 1 := by
  have prepares := (narrates_prepared location spec session).serial
  have fills := fun diskSizeGb =>
    (narrates_filled location spec session diskSizeGb).serial.trans prepares
  have removes := fun diskSizeGb => (rollback_log (runIn spec session)
    (filled location spec session diskSizeGb).session).2.trans (fills diskSizeGb)
  have course := createFrom_course location spec session
  generalize createFrom location spec session = execution at course ⊢
  cases course with
  | unprepared stops => exact prepares
  | failed ready fails removed | interrupted ready fails stops => exact removes _
  | hung ready hangs | unreported ready filled refuses | created ready filled concludes =>
      exact fills _

end Creations

/-- The log of a creation mirrors what it did: also one that is refused has called for nothing and
written nothing. -/
theorem create_log (controllerId : Text) (config : ProviderConfig) (bootstrap : Bootstrap)
    (session : Session) :
    let execution := create controllerId config bootstrap session
    CreationLog ⟨bootstrap.name, session.nextSerial⟩ execution
      (Event.logRecords execution.events) := by
  dsimp only
  cases accepts : admitted controllerId config bootstrap with
  | error failure =>
      rw [create_of_refused accepts]
      exact ⟨⟨[], [], [], rfl, .nil, .stopped _, .kept rfl⟩, by simp⟩
  | ok spec =>
      rw [create_of_admitted accepts, ← name_of_admitted accepts]
      exact createFrom_log config.location spec session

/-- A network that is refused: two calls are announced before the removal. -/
example :
    (Event.logRecords (sampleRun brokenNetwork).events).map
        (fun record => (record.level, record.step)) =
      [(LogLevel.debug, .text "resource_group"), (LogLevel.debug, .text "virtual_network"),
        (LogLevel.info, .text "rollback")] := by
  decide +kernel

end Provision

end RunnerCloud
