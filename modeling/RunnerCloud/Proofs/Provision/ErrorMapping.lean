import RunnerCloud.Proofs.Provision.Admission
import RunnerCloud.Proofs.Provision.Parts
import RunnerCloud.Proofs.Provision.Rollback
import RunnerCloud.Proofs.Run.Surfacing
import RunnerCloud.Provision.Lifecycle

/-!
Contract: how the operations of the provider show the faults that they meet.

Owns:
- `Maps` and `MapsInStep`, what a fault is shown as outside of creations and in them;
- which faults each action of the client, each step of a creation and each operation shows;
- `ProvisioningOrigin`, the three origins of a provisioning error, and `ShowsMissing`, how a creation
  ends for which an identifier is missing;
- `error_mapping`, for every operation in every session.

Does not own: failures of requests that are refused before any call.
-/

namespace RunnerCloud.Provision

open Operation

variable {α : Type}

/-! ## What a fault is shown as -/

/-- The family of failures as which an error of a service is shown. -/
def shownCategory (kind : ServiceErrorKind) : ErrorCategory :=
  if kind = .notFound then .notFound else .cloud

/-- An error of a service is shown as an error of the cloud, behind which it stands; everything else
stays as it is. -/
def Maps : Fault → Failure → Prop
  | .service kind _, failure =>
    failure.category = shownCategory kind ∧ failure.causes = [.service kind]
  | fault, failure => failure = .fault fault

/-- In a step of a creation, what an error of a service is mapped to stands behind a provisioning
error that names the step. -/
def MapsInStep (step : Step) : Fault → Failure → Prop
  | .service kind detail, failure =>
    ∃ mapped, Maps (.service kind detail) mapped ∧
      failure.category = .provisioning ∧ failure.step? = some step ∧
      failure.message = "failed to " ++ step.action ++ ": " ++ mapped.message ∧
      failure.causes = mapped.category :: mapped.causes
  | fault, failure => failure = .fault fault

theorem cloudCategory_failed (action : CloudAction) (kind : ServiceErrorKind) (detail : Text) :
    Failure.cloudCategory (.failed action kind detail) = shownCategory kind := by
  simp [Failure.cloudCategory, CloudProblem.isNotFound, shownCategory]

theorem maps_reported (action : CloudAction) (fault : Fault) :
    Maps fault (Cloud.reported action (.fault fault)) := by
  cases fault with
  | service kind detail => exact ⟨cloudCategory_failed action kind detail, rfl⟩
  | _ => rfl

theorem mapsInStep_attributed (step : Step) (action : CloudAction) (fault : Fault) :
    MapsInStep step fault (CreateRun.attributed step (Cloud.reported action (.fault fault))) := by
  cases fault with
  | service kind detail =>
      exact ⟨.cloud (.failed action kind detail), maps_reported action (.service kind detail),
        rfl, rfl, rfl, rfl⟩
  | _ => rfl

/-! ## Actions of the client -/

/-- The failure is the one that an action makes of the fault of its request. -/
def Reported (called : Request) (action : CloudAction) : Request → Fault → Failure → Prop :=
  fun request fault failure => request = called ∧ failure = Cloud.reported action (.fault fault)

theorem surfaces_guarded {request : Request} (action : CloudAction) {operation : Operation α}
    (surfaces : Surfaces (Unchanged request) operation) :
    Surfaces (Reported request action) (Cloud.guarded action operation) := by
  refine surfaces.renamed ?_
  rintro met fault failure ⟨rfl, rfl⟩
  exact ⟨rfl, rfl⟩

theorem surfaces_deleteGroup (name : Text) :
    Surfaces (Reported (deletion name) (.deleteGroup name)) (Cloud.deleteGroup name true) :=
  surfaces_guarded _ ((surfaces_complete false _).bind fun _ => (concerns_pure ()).surfaces)

theorem surfaces_listMachines (poolId : Text) :
    Surfaces (Reported .listMachines (.listMachines poolId)) (Cloud.listMachines poolId) := by
  refine surfaces_guarded _ ((surfaces_list _).bind fun listing => ?_)
  refine concerns_ofExcept.surfaces.bind fun machines => ?_
  exact (surfaces_raise _ _).bind fun _ => (concerns_pure _).surfaces

/-! ## Operations on one runner -/

/-- What is reported of any request is a mapped fault. -/
theorem Reported.maps {called request : Request} {action : CloudAction} {fault : Fault}
    {failure : Failure} (reported : Reported called action request fault failure) :
    Maps fault failure := by
  obtain ⟨_, rfl⟩ := reported
  exact maps_reported action fault

/-- Every fault ends the run with the failure that it is mapped to. -/
def Mapped (operation : Operation α) : Prop :=
  Surfaces (fun _ => Maps) operation

theorem mapped_get (name : Text) : Mapped (get name) := by
  refine Surfaces.bind ?_ fun machine => concerns_ofExcept.surfaces
  exact (surfaces_guarded _ (surfaces_submit _)).mono fun _ _ _ => Reported.maps

theorem mapped_listPool (poolId : Text) : Mapped (listPool poolId) := by
  refine Surfaces.bind ?_ fun machines => concerns_ofExcept.surfaces
  exact (surfaces_listMachines poolId).mono fun _ _ _ => Reported.maps

theorem mapped_stop (name : Text) : Mapped (stop name) := by
  have deallocates := (surfaces_complete false (.deallocateMachine name name)).bind
    fun _ => (concerns_pure ()).surfaces
  exact (surfaces_guarded _ deallocates).mono fun _ _ _ => Reported.maps

theorem mapped_start (name : Text) : Mapped (start name) := by
  have starts := (surfaces_complete false (.startMachine name name)).bind
    fun _ => (concerns_pure ()).surfaces
  exact (surfaces_guarded _ starts).mono fun _ _ _ => Reported.maps

theorem mapped_removeAll : Mapped removeAll :=
  (concerns_pure ()).surfaces

/-- A service says that something does not exist. -/
def SaysMissing (fault : Fault) : Prop :=
  ∃ detail, fault = .service .notFound detail

theorem isWithin_notFound_iff (action : CloudAction) (fault : Fault) :
    (Cloud.reported action (.fault fault)).category.isWithin .notFound = true ↔
      SaysMissing fault := by
  cases fault with
  | service kind detail =>
      show (Failure.cloudCategory (.failed action kind detail)).isWithin .notFound = true ↔ _
      rw [cloudCategory_failed, shownCategory]
      by_cases missing : kind = .notFound
      · rw [if_pos missing]
        exact iff_of_true rfl ⟨detail, by rw [missing]⟩
      · rw [if_neg missing]
        refine iff_of_false (by decide) ?_
        rintro ⟨_, same⟩
        cases same
        exact missing rfl
  | _ => exact iff_of_false nofun nofun

/-- What a deletion does about a failure: a group that does not exist is as good as deleted. -/
def forgiveMissing (name : Text) (failure : Failure) : Operation Unit :=
  if failure.category.isWithin .notFound then do
    let serial ← drawSerial
    emit (.logged (alreadyGone name serial))
  else fail failure

theorem delete_eq (name : Text) :
    delete name = (Cloud.deleteGroup name true).recover (forgiveMissing name) := rfl

theorem concerns_forgiveMissing (name : Text) (failure : Failure) :
    Concerns (fun _ => False) (forgiveMissing name failure) := by
  unfold forgiveMissing
  split
  · exact concerns_drawSerial.bind fun _ => concerns_emit (by simp [Event.subject?])
  · exact concerns_fail _

/-- A deletion succeeds after a fault exactly when the fault says that the group does not exist. -/
theorem delete_raised {name : Text} {session : Session} {request : Request} {fault : Fault}
    (raised : .raised request fault ∈ (delete name session).events) :
    (SaysMissing fault → (delete name session).outcome = .ok ()) ∧
      (¬ SaysMissing fault → ∃ failure,
        (delete name session).outcome = .error (.failed failure) ∧ Maps fault failure) := by
  rw [delete_eq] at raised ⊢
  obtain ⟨_, fails, _, rfl⟩ :=
    (surfaces_deleteGroup name).recover (concerns_forgiveMissing name) raised
  rw [recover_apply_of_failed fails]
  dsimp only [forgiveMissing]
  constructor
  · intro missing
    rw [if_pos ((isWithin_notFound_iff _ fault).2 missing)]
    rfl
  · intro present
    rw [if_neg fun within => present ((isWithin_notFound_iff _ fault).1 within)]
    exact ⟨_, rfl, maps_reported _ fault⟩

/-! ## Steps of a creation -/

/-- The failure names the step that makes the request, and the action of the client in it. -/
def Attributed (request : Request) (fault : Fault) (failure : Failure) : Prop :=
  ∃ step action, request.purpose? = some (step, action) ∧
    failure = CreateRun.attributed step (Cloud.reported action (.fault fault))

theorem surfaces_step {step : Step} {operation : Operation α} (run : CreateRun)
    (action : CloudAction)
    (surfaces : Surfaces (fun request fault failure => request.purpose? = some (step, action) ∧
      failure = Cloud.reported action (.fault fault)) operation) :
    Surfaces Attributed (run.step step operation) := by
  refine (concerns_checkCancelled run _).surfaces.bind fun _ => ?_
  refine (concerns_log run _ _ _).surfaces.bind fun _ => ?_
  refine surfaces.renamed ?_
  rintro request fault failure ⟨purpose, rfl⟩
  exact ⟨step, action, purpose, rfl⟩

theorem surfaces_guardedStep {step : Step} {action : CloudAction} {request : Request}
    {operation : Operation α} (run : CreateRun) (purpose : request.purpose? = some (step, action))
    (surfaces : Surfaces (Unchanged request) operation) :
    Surfaces Attributed (run.step step (Cloud.guarded action operation)) := by
  refine surfaces_step run action ((surfaces_guarded action surfaces).mono ?_)
  rintro met fault failure ⟨rfl, same⟩
  exact ⟨purpose, same⟩

theorem surfaces_completingStep {step : Step} {action : CloudAction} {request : Request}
    (run : CreateRun) (purpose : request.purpose? = some (step, action)) :
    Surfaces Attributed (run.step step (Cloud.guarded action (Cloud.complete true request))) :=
  surfaces_guardedStep run purpose (surfaces_complete true request)

theorem surfaces_sizingStep (run : CreateRun) (location vmSize : Text) :
    Surfaces Attributed
      (run.step .ephemeralDiskSize (Cloud.maxEphemeralGb location vmSize)) := by
  have listed : Surfaces (Unchanged (.listSkus location)) (Cloud.listedSku location vmSize) := by
    refine (surfaces_list _).bind fun listing => ?_
    split
    · exact (concerns_pure _).surfaces
    · exact (surfaces_raise _ _).bind fun _ => (concerns_pure _).surfaces
  have found : Surfaces (Reported (.listSkus location) (.listSkus location))
      (Cloud.maxEphemeralGb location vmSize) := by
    refine Surfaces.bind ?_ fun sku => concerns_ofExcept.surfaces
    refine (surfaces_guarded _ listed).bind fun entry => ?_
    split
    · exact (concerns_pure _).surfaces
    · exact (concerns_fail _).surfaces
  refine surfaces_step run (.listSkus location) (found.mono ?_)
  rintro request fault failure ⟨rfl, same⟩
  exact ⟨rfl, same⟩

theorem surfaces_machineStep (run : CreateRun) (location : Text) (spec : RunnerSpec)
    (interfaceId : Value) (tags : Tags) (diskSizeGb : Int) :
    Surfaces Attributed (run.step .virtualMachine
      (Cloud.createMachine location true spec interfaceId tags diskSizeGb)) := by
  have access : Concerns (fun _ => False) (Cloud.accessOf spec) := by
    unfold Cloud.accessOf
    split
    · exact (concerns_drawNumbers _).bind fun _ => concerns_pure _
    · exact concerns_pure _
  refine surfaces_step run (.createMachine spec.name) ?_
  refine access.surfaces.bind fun granted => ?_
  refine (surfaces_guarded _ (surfaces_complete true _)).mono ?_
  rintro request fault failure ⟨rfl, same⟩
  exact ⟨rfl, same⟩

theorem stepwise_surfaces (run : CreateRun) :
    Stepwise run fun _ operation => Surfaces Attributed operation where
  result := fun _ => (concerns_pure _).surfaces
  sequence := fun first rest => first.bind rest
  checked := fun boundary => (concerns_checkCancelled run boundary).surfaces
  unidentified := fun _ => (concerns_fail _).surfaces
  created := fun purpose _ => surfaces_completingStep run purpose
  ordered := fun location spec _ _ _ => surfaces_machineStep run location spec _ _ _

theorem surfaces_prepare (run : CreateRun) (location : Text) (spec : RunnerSpec) :
    Surfaces Attributed (prepare run location spec) :=
  (stepwise_surfaces run).prepare location spec (surfaces_sizingStep run location spec.vmSize)
    (fun _ => concerns_ofExcept.surfaces) (surfaces_guardedStep run rfl (surfaces_submit _))

theorem surfaces_resources (run : CreateRun) (location : Text) (spec : RunnerSpec)
    (diskSizeGb : Int) : Surfaces Attributed (resources run location spec diskSizeGb) :=
  (stepwise_surfaces run).resources location spec diskSizeGb

/-! ## The removal of the group -/

/-- What the log says about a removal that meets a fault. -/
def removalWarning (run : CreateRun) (fault : Fault) : LogRecord :=
  run.record LogLevel.warning
    (run.removalFailed (Cloud.reported (.deleteGroup run.name) (.fault fault)))
    (some CreateRun.rollbackStep)

/-- A fault of the removal is logged and forgotten, unless it is an interrupt. -/
theorem rollback_raised {run : CreateRun} {session : Session} {request : Request} {fault : Fault}
    (raised : .raised request fault ∈ (run.rollback session).events) :
    request = deletion run.name ∧
      ((∃ text, fault = .interrupt text) ∨
        (run.rollback session).events.getLast? = some (.logged (removalWarning run fault))) := by
  let handle : Failure → Operation Unit := fun failure =>
    if failure.isInterrupt then fail failure
    else run.log LogLevel.warning (run.removalFailed failure) (some CreateRun.rollbackStep)
  let removal := (Cloud.deleteGroup run.name true).recover handle
  have unrelated : ∀ failure, Concerns (fun _ => False) (handle failure) := by
    intro failure
    dsimp only [handle]
    split
    · exact concerns_fail _
    · exact concerns_log run _ _ _
  obtain ⟨record, events⟩ : ∃ record, (run.rollback session).events =
      .logged record :: (removal session).events := ⟨_, rfl⟩
  rw [events] at raised ⊢
  rcases List.mem_cons.1 raised with impossible | inRemoval
  · cases impossible
  obtain ⟨_, fails, rfl, rfl⟩ := (surfaces_deleteGroup run.name).recover unrelated inRemoval
  refine ⟨rfl, ?_⟩
  by_cases interrupts : (Cloud.reported (.deleteGroup run.name) (.fault fault)).isInterrupt = true
  · exact Or.inl (interrupt_of_reported interrupts)
  · refine Or.inr ?_
    have warned : (removal session).events =
        (Cloud.deleteGroup run.name true session).events ++ [.logged (removalWarning run fault)] := by
      dsimp only [removal]
      rw [recover_apply_of_failed fails]
      dsimp only [handle]
      rw [if_neg interrupts]
      rfl
    rw [warned, ← List.cons_append, List.getLast?_concat]

/-! ## Creations -/

section Creations

variable {location : Text} {spec : RunnerSpec} {session : Session} {request : Request}
  {fault : Fault}

theorem prepared_raised
    (raised : .raised request fault ∈ (prepared location spec session).events) :
    ∃ failure, (prepared location spec session).outcome = .error (.failed failure) ∧
      Attributed request fault failure :=
  surfaces_prepare _ _ _ _ request fault raised

/-- Preparations that succeed meet no fault. -/
theorem not_raised_of_ready {diskSizeGb : Int}
    (ready : (prepared location spec session).outcome = .ok diskSizeGb) :
    .raised request fault ∉ (prepared location spec session).events := by
  intro raised
  obtain ⟨failure, fails, _⟩ := prepared_raised raised
  rw [ready] at fails
  cases fails

theorem filled_raised {diskSizeGb : Int}
    (raised : .raised request fault ∈ (filled location spec session diskSizeGb).events) :
    ∃ failure, (filled location spec session diskSizeGb).outcome = .error (.failed failure) ∧
      Attributed request fault failure :=
  surfaces_resources _ _ _ _ _ request fault raised

/-- A fault in the removal is logged last, and the creation fails as the part in the group did. -/
def OnlyLogged (location : Text) (spec : RunnerSpec) (session : Session) (fault : Fault)
    (execution : Execution RunnerInstance) : Prop :=
  ∃ diskSizeGb failure,
    (filled location spec session diskSizeGb).outcome = .error (.failed failure) ∧
    execution.outcome = .error (.failed failure) ∧
    execution.events.getLast? = some (.logged (removalWarning (runIn spec session) fault))

/-- Where a creation meets a fault decides what becomes of it. -/
theorem Course.raised {execution : Execution RunnerInstance}
    (course : Course location spec session execution)
    (spared : ∀ text, .raised (deletion spec.name) (.interrupt text) ∉ execution.events)
    (raised : .raised request fault ∈ execution.events) :
    (∃ failure, execution.outcome = .error (.failed failure) ∧ Attributed request fault failure) ∨
      request = deletion spec.name ∧ OnlyLogged location spec session fault execution := by
  cases course with
  | unprepared stops =>
      obtain ⟨failure, fails, attributed⟩ := prepared_raised raised
      rw [stops] at fails
      cases fails
      exact Or.inl ⟨failure, rfl, attributed⟩
  | @failed diskSizeGb failure ready fails removes =>
      rw [List.mem_append, List.mem_append] at raised
      rcases raised with early | inside | late
      · exact absurd early (not_raised_of_ready ready)
      · obtain ⟨other, same, attributed⟩ := filled_raised inside
        rw [fails] at same
        cases same
        exact Or.inl ⟨failure, rfl, attributed⟩
      · obtain ⟨rfl, interrupt | logged⟩ := rollback_raised late
        · obtain ⟨text, rfl⟩ := interrupt
          exact absurd (List.mem_append_right _ (List.mem_append_right _ late)) (spared text)
        · refine Or.inr ⟨rfl, diskSizeGb, failure, fails, rfl, ?_⟩
          rw [List.getLast?_append, List.getLast?_append,
            show (removed location spec session diskSizeGb).events.getLast? = _ from logged]
          rfl
  | @interrupted diskSizeGb failure reason ready fails stops =>
      rcases (removed_removes location spec session diskSizeGb).ends with ended | interrupt
      · rw [ended] at stops
        cases stops
      · obtain ⟨text, _, met⟩ := interrupt
        exact absurd (List.mem_append_right _ (List.mem_append_right _ met)) (spared text)
  | hung ready hangs =>
      rcases List.mem_append.1 raised with early | inside
      · exact absurd early (not_raised_of_ready ready)
      · obtain ⟨_, same, _⟩ := filled_raised inside
        rw [hangs] at same
        cases same
  | unreported ready fills refuses =>
      rcases List.mem_append.1 raised with early | inside
      · exact absurd early (not_raised_of_ready ready)
      · obtain ⟨_, same, _⟩ := filled_raised inside
        rw [fills] at same
        cases same
  | created ready fills concludes =>
      rw [List.mem_append, List.mem_append, List.mem_singleton] at raised
      rcases raised with early | inside | impossible
      · exact absurd early (not_raised_of_ready ready)
      · obtain ⟨_, same, _⟩ := filled_raised inside
        rw [fills] at same
        cases same
      · cases impossible

/-! ## Provisioning errors -/

/-- Where a provisioning error comes from: an error of a service in the request of a step, a VM size
that is not in the catalogue, or a resource that was given without an identifier. -/
inductive ProvisioningOrigin (answers : CloudMethod → Value) (events : List Event) : Failure → Prop
  | service {request : Request} {step : Step} {action : CloudAction} {kind : ServiceErrorKind}
      {detail : Text} (purpose : request.purpose? = some (step, action))
      (raised : .raised request (.service kind detail) ∈ events) :
      ProvisioningOrigin answers events (.stepFailed step (.failed action kind detail))
  | unlisted (vmSize location : Text) :
      ProvisioningOrigin answers events
        (.stepFailed .ephemeralDiskSize (.vmSizeMissing vmSize location))
  | unidentified (step : Step) (missing : ((answers step.method).field "id").isEmptyLike = true) :
      ProvisioningOrigin answers events (.missingResourceId step)

theorem origin_of_cause {answers : CloudMethod → Value} {events all : List Event}
    {failure : Failure} (within : events ⊆ all) (cause : Cause answers [] events failure)
    (provisioning : failure.category = .provisioning) : ProvisioningOrigin answers all failure := by
  cases cause with
  | @raised request fault called last =>
      have met := within (List.mem_of_getLast? last)
      unfold Request.blame at provisioning ⊢
      cases purpose : request.purpose? with
      | none =>
          rw [purpose] at provisioning
          cases fault <;> cases provisioning
      | some purposes =>
          rw [purpose] at provisioning
          cases fault with
          | service kind detail => exact .service purpose met
          | _ => cases provisioning
  | unlisted called => exact .unlisted _ _
  | unreadable called unreadable =>
      rcases storageMb?_error unreadable with ⟨_, rfl⟩ | ⟨_, rfl⟩ | ⟨written, rfl⟩
      · cases provisioning
      · cases provisioning
      · cases written <;> cases provisioning
  | capacity problem asked => cases provisioning
  | unwritable tooLong asked => cases provisioning
  | unidentified step given missing => exact .unidentified step missing

theorem origin_of_progress {answers : CloudMethod → Value} {plan : List Request}
    {Result : α → Prop} {before : Session} {part : Execution α} {all : List Event}
    {failure : Failure} (progress : Progress (causeBlame answers []) plan Result before part)
    (fails : part.outcome = .error (.failed failure)) (within : part.events ⊆ all)
    (provisioning : failure.category = .provisioning) :
    ProvisioningOrigin answers all failure := by
  rcases progress.failing failure fails with ⟨cancelled, _⟩ | cause
  · rw [provisioning] at cancelled
    cases cancelled
  · exact origin_of_cause within cause provisioning

/-- A creation has no other provisioning errors. -/
theorem Course.origin {execution : Execution RunnerInstance}
    (course : Course location spec session execution) {failure : Failure}
    (fails : execution.outcome = .error (.failed failure))
    (provisioning : failure.category = .provisioning) :
    ProvisioningOrigin session.script.answer execution.events failure := by
  cases course with
  | unprepared stops =>
      cases fails
      exact origin_of_progress (prepared_progress location spec session) stops
        (List.Subset.refl _) provisioning
  | failed ready stops removes =>
      cases fails
      exact origin_of_progress (filled_progress ready) stops (by simp) provisioning
  | @interrupted diskSizeGb _ _ ready stops interrupts =>
      rcases (removed_removes location spec session diskSizeGb).ends with ended | ⟨text, ended, _⟩
      · rw [ended] at interrupts
        cases interrupts
      · rw [ended] at interrupts
        cases interrupts
        cases fails
        cases provisioning
  | hung ready hangs => cases fails
  | unreported ready fills refuses =>
      cases fails
      rcases conclusion_error refuses with ⟨_, rfl⟩ | ⟨rfl, _⟩ <;> cases provisioning
  | created ready fills concludes => cases fails

/-! ## Missing identifiers -/

/-- The run meets no fault, is not cancelled and does not wait forever. -/
structure Undisturbed (execution : Execution RunnerInstance) : Prop where
  faultless : ∀ request fault, .raised request fault ∉ execution.events
  uncancelled : ∀ failure, execution.outcome = .error (.failed failure) →
    failure.category ≠ .cancelled
  ends : execution.outcome ≠ .error .hung

/-- A creation for which an identifier is missing gives no runner. Undisturbed, once the group is
there, it fails for the missing identifier. -/
def ShowsMissing (answers : CloudMethod → Value) (execution : Execution RunnerInstance) : Prop :=
  (∀ runner, execution.outcome ≠ .ok runner) ∧
    (GroupCreated execution.events → Undisturbed execution →
      ∃ step, ((answers step.method).field "id").isEmptyLike = true ∧
        execution.outcome = .error (.failed (.missingResourceId step)))

/-- Inside the group nothing else fails without a fault and without a cancellation. -/
theorem unidentified_of_filled {diskSizeGb : Int} {failure : Failure}
    (ready : (prepared location spec session).outcome = .ok diskSizeGb)
    (fails : (filled location spec session diskSizeGb).outcome = .error (.failed failure))
    (uncancelled : failure.category ≠ .cancelled)
    (faultless : ∀ request fault,
      .raised request fault ∉ (filled location spec session diskSizeGb).events) :
    ∃ step, ((session.script.answer step.method).field "id").isEmptyLike = true ∧
      failure = .missingResourceId step := by
  have progress := filled_progress ready
  have noListing : ∀ request ∈ Event.requests (filled location spec session diskSizeGb).events,
      request.method ≠ .listSkus :=
    fun request member => resourcesPlan_methods (progress.made.subset member)
  rcases progress.failing failure fails with ⟨cancelled, _⟩ | cause
  · exact absurd cancelled uncancelled
  · cases cause with
    | raised called last => exact absurd (List.mem_of_getLast? last) (faultless _ _)
    | unlisted called => exact absurd rfl (noListing _ (List.mem_of_getLast? called))
    | unreadable called unreadable =>
        exact absurd rfl (noListing _ (List.mem_of_getLast? called))
    | capacity problem asked | unwritable tooLong asked =>
        rcases asked with impossible | ⟨request, member, listing⟩
        · cases impossible
        · exact absurd listing (noListing request member)
    | unidentified step given missing => exact ⟨step, missing, rfl⟩

theorem Course.showsMissing {execution : Execution RunnerInstance}
    (course : Course location spec session execution)
    (missing : ¬ Identified session.script.answer spec) :
    ShowsMissing session.script.answer execution := by
  have unfilled : ∀ {diskSizeGb : Int} {address : Value},
      (prepared location spec session).outcome = .ok diskSizeGb →
      (filled location spec session diskSizeGb).outcome ≠ .ok address := by
    intro diskSizeGb address ready fills
    obtain ⟨⟨_, _, identified⟩, _⟩ := (filled_progress ready).completed address fills
    exact missing identified
  cases course with
  | unprepared stops =>
      refine ⟨by simp, fun created _ => ?_⟩
      obtain ⟨diskSizeGb, ready⟩ := (groupCreated_prepared_iff location spec session).1 created
      rw [stops] at ready
      cases ready
  | failed ready fails removes =>
      refine ⟨by simp, fun _ undisturbed => ?_⟩
      obtain ⟨step, lacks, rfl⟩ := unidentified_of_filled ready fails
        (undisturbed.uncancelled _ rfl) fun request fault raised =>
          undisturbed.faultless request fault (by simp [raised])
      exact ⟨step, lacks, rfl⟩
  | @interrupted diskSizeGb _ _ ready fails stops =>
      refine ⟨by simp, fun _ undisturbed => ?_⟩
      rcases (removed_removes location spec session diskSizeGb).ends with ended | ⟨_, _, raised⟩
      · rw [ended] at stops
        cases stops
      · exact absurd (List.mem_append_right _ (List.mem_append_right _ raised))
          (undisturbed.faultless _ _)
  | hung ready hangs => exact ⟨by simp, fun _ undisturbed => absurd rfl undisturbed.ends⟩
  | unreported ready fills refuses => exact absurd fills (unfilled ready)
  | created ready fills concludes => exact absurd fills (unfilled ready)

end Creations

/-! ## Every operation -/

theorem Attributed.mapsInStep {request : Request} {fault : Fault} {failure : Failure}
    (attributed : Attributed request fault failure) :
    ∃ step, request.method = step.method ∧ MapsInStep step fault failure := by
  obtain ⟨step, action, purpose, rfl⟩ := attributed
  refine ⟨step, ?_, mapsInStep_attributed step action fault⟩
  cases request <;> cases purpose <;> rfl

/-- What a creation makes of the faults that it meets: one in a step is shown with the step, and one
in the removal is only logged. -/
structure ShowsFaults (controllerId : Text) (config : ProviderConfig) (bootstrap : Bootstrap)
    (session : Session) (execution : Execution RunnerInstance) : Prop where
  inSteps : ∀ request fault, .raised request fault ∈ execution.events →
    request ≠ deletion bootstrap.name →
    ∃ step failure, request.method = step.method ∧
      execution.outcome = .error (.failed failure) ∧ MapsInStep step fault failure
  inRemoval : ∀ fault, .raised (deletion bootstrap.name) fault ∈ execution.events →
    ∃ spec, admitted controllerId config bootstrap = .ok spec ∧
      OnlyLogged config.location spec session fault execution

section Requests

variable {controllerId : Text} {config : ProviderConfig} {bootstrap : Bootstrap}
  {session : Session}

theorem create_showsFaults
    (spared : ∀ text, .raised (deletion bootstrap.name) (.interrupt text) ∉
      (create controllerId config bootstrap session).events) :
    ShowsFaults controllerId config bootstrap session
      (create controllerId config bootstrap session) := by
  cases accepts : admitted controllerId config bootstrap with
  | error failure =>
      rw [create_of_refused accepts]
      constructor
      · intro request fault raised
        exact absurd raised List.not_mem_nil
      · intro fault raised
        exact absurd raised List.not_mem_nil
  | ok spec =>
      rw [create_of_admitted accepts] at spared ⊢
      rw [← name_of_admitted accepts] at spared
      have course := createFrom_course config.location spec session
      constructor
      · intro request fault raised elsewhere
        rw [← name_of_admitted accepts] at elsewhere
        rcases course.raised spared raised with ⟨failure, fails, attributed⟩ | ⟨same, _⟩
        · obtain ⟨step, method, maps⟩ := attributed.mapsInStep
          exact ⟨step, failure, method, fails, maps⟩
        · exact absurd same elsewhere
      · intro fault raised
        rcases course.raised spared raised with ⟨_, _, _, _, purpose, _⟩ | ⟨_, logged⟩
        · cases purpose
        · exact ⟨spec, accepts, logged⟩

theorem create_origin {failure : Failure}
    (fails : (create controllerId config bootstrap session).outcome = .error (.failed failure))
    (provisioning : failure.category = .provisioning) :
    ProvisioningOrigin session.script.answer (create controllerId config bootstrap session).events
      failure := by
  cases accepts : admitted controllerId config bootstrap with
  | error refusal =>
      rw [create_of_refused accepts] at fails
      cases fails
      have refused := refusal_of_refused accepts
      rw [provisioning] at refused
      cases refused
  | ok spec =>
      rw [create_of_admitted accepts] at fails ⊢
      exact (createFrom_course config.location spec session).origin fails provisioning

theorem create_showsMissing {spec : RunnerSpec}
    (accepts : admitted controllerId config bootstrap = .ok spec)
    (missing : ¬ Identified session.script.answer spec) :
    ShowsMissing session.script.answer (create controllerId config bootstrap session) := by
  rw [create_of_admitted accepts]
  exact (createFrom_course config.location spec session).showsMissing missing

end Requests

/-- Every operation shows every fault that it meets in the same way: an error of a service as an error
of the cloud with the service's error behind it, in a creation behind a provisioning error that names
the step, and everything else as it is. A deletion succeeds when the group does not exist, and a
fault of a removal is only logged, unless it is an interrupt. A creation fails with a provisioning
error also for a VM size that is not listed and for a missing identifier. -/
theorem error_mapping (controllerId : Text) (config : ProviderConfig) (bootstrap : Bootstrap)
    (name poolId : Text) (session : Session) :
    let creation := create controllerId config bootstrap session
    let deletes := delete name session
    Mapped (get name) ∧ Mapped (listPool poolId) ∧ Mapped (stop name) ∧ Mapped (start name) ∧
      Mapped removeAll ∧
      (∀ request fault, .raised request fault ∈ deletes.events →
        (SaysMissing fault → deletes.outcome = .ok ()) ∧
        (¬ SaysMissing fault → ∃ failure, deletes.outcome = .error (.failed failure) ∧
          Maps fault failure)) ∧
      ((∀ text, .raised (deletion bootstrap.name) (.interrupt text) ∉ creation.events) →
        ShowsFaults controllerId config bootstrap session creation) ∧
      (∀ failure, creation.outcome = .error (.failed failure) → failure.category = .provisioning →
        ProvisioningOrigin session.script.answer creation.events failure) ∧
      ∀ spec, admitted controllerId config bootstrap = .ok spec →
        ¬ Identified session.script.answer spec → ShowsMissing session.script.answer creation :=
  ⟨mapped_get name, mapped_listPool poolId, mapped_stop name, mapped_start name, mapped_removeAll,
    fun _ _ => delete_raised, create_showsFaults, fun _ => create_origin,
    fun _ => create_showsMissing⟩

/-- A cloud in which the subnet is lost while it is created, and the group cannot be removed. -/
def lostSubnet : CloudScript := fun method =>
  match method with
  | .createSubnet => [{ polls := 1, waitFault := some (.service .notFound "gone") }]
  | .deleteGroup => [{ resultFault := some (.service .general "locked") }]
  | _ => []

def Event.isInterrupt : Event → Bool
  | .raised _ (.interrupt _) => true
  | _ => false

theorem error_mapping_of_lostSubnet :
    ∃ failure, (sampleRun lostSubnet).outcome = .error (.failed failure) ∧
      failure.category = .provisioning ∧ failure.step? = some .subnet ∧
      failure.causes = [.notFound, .service .notFound] ∧
      ∃ warning, (sampleRun lostSubnet).events.getLast? = some (.logged warning) := by
  obtain ⟨_, _, _, _, _, _, shows, _⟩ := error_mapping "controller-1" sampleConfig sampleBootstrap
    "runner-1" "pool-1" (sampleSession lostSubnet)
  have calm : (sampleRun lostSubnet).events.all (fun event => !Event.isInterrupt event) = true := by
    decide +kernel
  have spared : ∀ text, .raised (deletion sampleBootstrap.name) (.interrupt text) ∉
      (sampleRun lostSubnet).events := by
    intro text met
    have noInterrupt := List.all_eq_true.1 calm _ met
    cases noInterrupt
  have faults := shows spared
  have lost : .raised (.createSubnet "runner-1" "10.10.0.0/24") (.service .notFound "gone") ∈
      (sampleRun lostSubnet).events := by
    decide +kernel
  have locked : .raised (deletion "runner-1") (.service .general "locked") ∈
      (sampleRun lostSubnet).events := by
    decide +kernel
  obtain ⟨step, failure, method, fails, mapped, ⟨category, causes⟩, provisioning, named, _, behind⟩ :=
    faults.inSteps _ _ lost (by simp [deletion])
  obtain ⟨_, _, _, _, _, _, logged⟩ := faults.inRemoval _ locked
  refine ⟨failure, fails, provisioning, ?_, ?_, _, logged⟩
  · rw [named]
    cases step <;> cases method
    rfl
  · rw [behind, category, causes]
    rfl

end RunnerCloud.Provision
