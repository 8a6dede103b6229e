import RunnerCloud.Proofs.Cloud.MachineStatus
import RunnerCloud.Proofs.Provision.ErrorMapping
import RunnerCloud.Proofs.Provision.History
import RunnerCloud.Proofs.Provision.Parts
import RunnerCloud.Proofs.Provision.Reporting

/-!
Contract: which operations fail with something that is no error of the provider, in a cloud whose
only faults are errors of its services.

Owns:
- `TypedAnswers`, the answers of a cloud that have the types of its interface;
- `OwnErrors`, which says of an operation that it fails only with errors of the provider, for the
  steps of a creation and the operations of the provider;
- `maxEphemeralGb_failing`, the ways in which the size of an ephemeral disk is not found;
- `provider_errors`: only creations fail with anything else, namely about an install script with halves
  of surrogate pairs, a storage size in the catalogue that is no number, or a size that is too long to
  be written.

Does not own: faults beside the services, which are passed on as they are.
-/

namespace RunnerCloud

open Operation

namespace Provision

variable {α : Type}

/-- The failure is an error of the provider. -/
def IsProviderError (failure : Failure) : Prop :=
  failure.isProviderError = true

/-- The fault is an error that a service reports. -/
def IsServiceFault (fault : Fault) : Prop :=
  ∃ kind detail, fault = .service kind detail

/-- Where only the services have faults, the operation fails only with errors of the provider. -/
abbrev OwnErrors (operation : Operation α) : Prop :=
  Confined IsServiceFault IsProviderError anything operation

/-- Its failures aside, such an operation leaves only faults of services. -/
theorem OwnErrors.lenient {operation : Operation α} (own : OwnErrors operation) :
    Confined IsServiceFault anything anything operation :=
  own.mono (fun _ _ => trivial) fun _ _ => trivial

/-- An error of the provider, or of a service that is still to be reported. -/
def Reportable (failure : Failure) : Prop :=
  IsProviderError failure ∨ ∃ fault, IsServiceFault fault ∧ failure = .fault fault

theorem reportable_fault {fault : Fault} (service : IsServiceFault fault) :
    Reportable (.fault fault) :=
  Or.inr ⟨fault, service, rfl⟩

theorem isProviderError_cloud (problem : CloudProblem) : IsProviderError (.cloud problem) := by
  show (Failure.cloudCategory problem).isWithin .provider = true
  unfold Failure.cloudCategory
  split <;> rfl

theorem isProviderError_reported {failure : Failure} (reportable : Reportable failure)
    (action : CloudAction) : IsProviderError (Cloud.reported action failure) := by
  rcases reportable with own | ⟨_, ⟨kind, detail, rfl⟩, rfl⟩
  · unfold Cloud.reported
    split
    · exact isProviderError_cloud _
    · exact own
  · exact isProviderError_cloud _

theorem isProviderError_attributed {failure : Failure} (own : IsProviderError failure)
    (step : Step) : IsProviderError (CreateRun.attributed step failure) := by
  unfold CreateRun.attributed
  split
  · rfl
  · exact own

/-- An error of the provider is no interrupt. -/
theorem not_isInterrupt {failure : Failure} (own : IsProviderError failure) :
    failure.isInterrupt = false := by
  have anywhere : ∀ category : ErrorCategory, category.isWithin .provider = true →
      category.isWithin .any = true := by
    intro category within
    cases category with
    | service kind => cases kind <;> cases within
    | _ => first | rfl | cases within
  unfold Failure.isInterrupt
  rw [anywhere _ own]
  rfl

/-- Errors of services are reported as errors of the provider. -/
theorem reporting_ownErrors : Reporting IsServiceFault Reportable IsProviderError where
  raised := fun _ => reportable_fault
  cancelled := Or.inl rfl
  reported := fun action _ reportable => isProviderError_reported reportable action

/-! ## Answers of the cloud -/

/-- A record of a VM with the types of the cloud's interface: it is missing, or a document in which the
name and what is told about states are texts, and the tags are a document, as far as they are there. -/
structure TypedRecord (item : Value) : Prop extends ReadableStates item where
  document : item = .null ∨ ∃ entries, item = .dict entries
  name : (item.field "name").IsTextual
  tags : item.field "tags" = .null ∨ ∃ entries, item.field "tags" = .dict entries

/-- An entry of the catalogue with the types of the cloud's interface: a document, the properties of
which are texts or missing. -/
structure TypedEntry (item : Value) : Prop where
  document : ∃ entries, item = .dict entries
  properties : ∀ capability ∈ (Sku.ofValue item).capabilities, capability.value.IsTextual

/-- What the cloud answers has the types of its interface, with any texts in it. -/
structure TypedAnswers (script : CloudScript) : Prop where
  address : TextualAddress script.answer
  catalogue : ∀ item ∈ (script.next .listSkus).items, TypedEntry item
  machine : TypedRecord (script.answer .getMachine)
  machines : ∀ item ∈ (script.next .listMachines).items, TypedRecord item

namespace TypedRecord

variable {item : Value}

theorem givenEntries (typed : TypedRecord item) :
    (item.field "tags").givenEntries = .ok (item.field "tags").entries := by
  rcases typed.tags with missing | ⟨entries, given⟩
  · rw [missing]
    rfl
  · rw [given]
    rfl

theorem tagMisuse?_eq_none (typed : TypedRecord item) : tagMisuse? item = none := by
  have given := typed.givenEntries
  rcases typed.document with rfl | ⟨entries, rfl⟩
  · rfl
  · simp only [tagMisuse?, given]

theorem isWritable_name (typed : TypedRecord item) : (item.field "name").isWritable = true := by
  rcases typed.name with missing | ⟨name, given⟩
  · rw [missing]
    rfl
  · rw [given]
    rfl

/-- A record with the right types is refused as a record only. -/
theorem isProviderError_of_refused (typed : TypedRecord item) {failure : Failure}
    (refuses : RefusedFor item failure) : IsProviderError failure := by
  unfold RefusedFor at refuses
  cases read : MachineRecord.ofValue? item with
  | none =>
      rw [read] at refuses
      cases refuses
      rfl
  | some record =>
      obtain ⟨status, stated, _⟩ := InstanceStatus.ofMachine_rule typed.toReadableStates
      obtain ⟨sameName, sameTags⟩ := parts_of_ofValue? read
      rw [read] at refuses stated
      simp only [RunnerInstance.ofMachine, stated, sameName, sameTags, typed.givenEntries] at refuses
      split at refuses
      · cases refuses
        rfl
      · change RunnerInstance.ofParts (item.field "name") _ status = _ at refuses
        unfold RunnerInstance.ofParts at refuses
        split at refuses
        · cases refuses
        · rw [if_pos typed.isWritable_name] at refuses
          cases refuses
          rfl

end TypedRecord

section Inspections

variable {session : Session} {failure : Failure}

/-- An inspection fails with an error of the provider, where the services have no other faults and the
record has the right types. -/
theorem get_isProviderError (services : session.script.OnlyFaults IsServiceFault)
    (typed : TypedRecord (session.script.answer .getMachine)) {name : Text}
    (fails : (get name session).outcome = .error (.failed failure)) : IsProviderError failure := by
  rw [outcome_get] at fails
  cases called : (session.script.next .getMachine).fault with
  | some fault =>
      rw [called] at fails
      cases fails
      have met := services.next .getMachine
      exact isProviderError_reported (reportable_fault (met.atCall fault called)) _
  | none =>
      rw [called] at fails
      obtain ⟨refusal, refuses, same⟩ := mapError_eq_error_iff.1 fails
      cases same
      exact typed.isProviderError_of_refused refuses

/-- So does a listing. -/
theorem listPool_isProviderError (services : session.script.OnlyFaults IsServiceFault)
    (typed : ∀ item ∈ (session.script.next .listMachines).items, TypedRecord item)
    {poolId : Text} (fails : (listPool poolId session).outcome = .error (.failed failure)) :
    IsProviderError failure := by
  have met := services.next .listMachines
  have browsable : (session.script.next .listMachines).items.findSome? tagMisuse? = none :=
    List.findSome?_eq_none_iff.2 fun item member => (typed item member).tagMisuse?_eq_none
  rw [outcome_listPool] at fails
  unfold listingFailure? at fails
  rw [browsable] at fails
  cases called : (session.script.next .listMachines).fault with
  | some fault =>
      rw [called] at fails
      cases fails
      exact isProviderError_reported (reportable_fault (met.atCall fault called)) _
  | none =>
      rw [called] at fails
      cases ended : (session.script.next .listMachines).itemsFault with
      | some fault =>
          rw [ended] at fails
          cases fails
          exact isProviderError_reported (reportable_fault (met.atEnd fault ended)) _
      | none =>
          rw [ended] at fails
          obtain ⟨refusal, refuses, same⟩ := mapError_eq_error_iff.1 fails
          cases same
          obtain ⟨_, item, _, kept, _, refused⟩ := viewsOf_error_iff.1 refuses
          have member : item ∈ (session.script.next .listMachines).items :=
            List.mem_of_mem_filter (kept ▸ List.mem_append_right _ List.mem_cons_self)
          exact (typed item member).isProviderError_of_refused refused

end Inspections

/-! ## The parts of a creation -/

section Parts

variable (run : CreateRun) (location : Text) (spec : RunnerSpec)

theorem pervasive_ownErrors : Pervasive fun _ operation => OwnErrors operation where
  result := fun _ => confined_pure trivial
  sequence := fun first rest => first.bind fun value _ => rest value
  looked := confined_isCancelled
  cancelled := fun _ _ => confined_fail rfl
  logged := fun _ => confined_emit _
  attributed := fun step _ own =>
    own.recover fun _ same => confined_fail (isProviderError_attributed same step)
  unidentified := fun _ => confined_fail rfl
  drawn := confined_drawNumbers
  created := fun action _ _ => reporting_ownErrors.complete action true _

theorem pervasive_lenient :
    Pervasive fun _ operation => Confined IsServiceFault anything anything operation where
  result := fun _ => confined_pure trivial
  sequence := fun first rest => first.bind fun value _ => rest value
  looked := confined_isCancelled
  cancelled := fun _ _ => confined_fail trivial
  logged := fun _ => confined_emit _
  attributed := fun _ _ confined => confined.recover fun _ _ => confined_fail trivial
  unidentified := fun _ => confined_fail trivial
  drawn := confined_drawNumbers
  created := fun action _ _ => OwnErrors.lenient (reporting_ownErrors.complete action true _)

theorem confined_createGroup :
    OwnErrors (Cloud.createGroup location run.name spec.tags) :=
  reporting_ownErrors.submit _ _

theorem confined_resources (diskSizeGb : Int) :
    OwnErrors (resources run location spec diskSizeGb) :=
  pervasive_ownErrors.resources run location spec diskSizeGb

/-- A removal does not fail: an error of the provider is only logged. -/
theorem confined_rollback : Confined IsServiceFault (fun _ => False) anything run.rollback := by
  have deletes : OwnErrors (Cloud.deleteGroup run.name true) := reporting_ownErrors.finish _ _
  refine (confined_emit _).bind fun _ _ => deletes.recover fun failure own => ?_
  rw [if_neg (by rw [not_isInterrupt own]; simp)]
  exact confined_emit _

end Parts

/-! ## Sizing an ephemeral disk -/

section Sizing

variable {location vmSize : Text} {session : Session} {failure : Failure}

theorem confined_findSku (location vmSize : Text) :
    OwnErrors (Cloud.findSku location vmSize) := by
  have listed : Confined IsServiceFault Reportable anything (Cloud.listedSku location vmSize) := by
    refine (confined_list (fun _ => reportable_fault) _).bind fun listing only => ?_
    split
    · exact confined_pure trivial
    · exact (confined_raise (fun _ => reportable_fault) _ only).bind
        fun _ _ => confined_pure trivial
  refine (reporting_ownErrors.guarded _ listed).bind fun entry _ => ?_
  split
  · exact confined_pure trivial
  · exact confined_fail (isProviderError_cloud _)

/-- An entry is found by a call that is answered. -/
theorem findSku_of_ok {sku : Sku}
    (gives : (Cloud.findSku location vmSize session).outcome = .ok sku) :
    (session.script.next .listSkus).fault = none ∧
      listedFor? session.script vmSize = some sku := by
  obtain ⟨entry, lists, same⟩ := exists_of_bind_ok gives
  rw [guarded_apply, Execution.renamed_ok_iff] at lists
  cases entry with
  | none => cases same
  | some entry =>
      cases same
      refine ⟨?_, listedSku_of_ok lists⟩
      unfold Cloud.listedSku at lists
      obtain ⟨_, listing, _⟩ := exists_of_bind_ok lists
      obtain ⟨_, met, _⟩ := exists_of_bind_ok listing
      cases fault : (session.script.next .listSkus).fault with
      | none => rfl
      | some fault =>
          rw [call_of_fault fault] at met
          cases met

/-- The size is not found because of an error of the provider, or because the entry does not give
it. -/
theorem maxEphemeralGb_failing (services : session.script.OnlyFaults IsServiceFault)
    (fails : (Cloud.maxEphemeralGb location vmSize session).outcome = .error (.failed failure)) :
    IsProviderError failure ∨ (session.script.next .listSkus).fault = none ∧
      ∃ sku, listedFor? session.script vmSize = some sku ∧
        sku.ephemeralGb vmSize = .error failure := by
  unfold Cloud.maxEphemeralGb at fails
  cases finds : (Cloud.findSku location vmSize session).outcome with
  | error reason =>
      rw [bind_apply_of_error finds] at fails
      cases fails
      exact Or.inl ((confined_findSku location vmSize session services).1 failure finds)
  | ok sku =>
      rw [bind_apply_of_ok finds, outcome_ofExcept] at fails
      obtain ⟨listed, entry⟩ := findSku_of_ok finds
      refine Or.inr ⟨listed, sku, entry, ?_⟩
      cases measures : sku.ephemeralGb vmSize with
      | ok maximumGb =>
          rw [measures] at fails
          cases fails
      | error problem =>
          rw [measures] at fails
          cases fails
          rfl

theorem unreadable_of_ephemeralGb {sku : Sku} (fails : sku.ephemeralGb vmSize = .error failure) :
    IsProviderError failure ∨ sku.supportsEphemeral = true ∧ sku.storageMb? = .error failure := by
  cases supported : sku.supportsEphemeral with
  | false =>
      simp only [Sku.ephemeralGb, supported] at fails
      cases fails
      exact Or.inl rfl
  | true =>
      rcases ephemeralGb_error fails with ⟨problem, rfl⟩ | unreadable
      · exact Or.inl rfl
      · exact Or.inr ⟨rfl, unreadable⟩

theorem ephemeralGb_of_unreadable {sku : Sku} (supported : sku.supportsEphemeral = true)
    (unreadable : sku.storageMb? = .error failure) :
    sku.ephemeralGb vmSize = .error failure := by
  simp only [Sku.ephemeralGb, supported, unreadable]
  rfl

/-- What is wrong with a storage size that is no number is no error of the provider, and no step is
named with it. -/
theorem outside_of_unreadable {sku : Sku} (unreadable : sku.storageMb? = .error failure) :
    failure.isProviderError = false ∧ ∀ step, CreateRun.attributed step failure = failure := by
  rcases storageMb?_error unreadable with ⟨_, rfl⟩ | ⟨_, rfl⟩ | ⟨written, rfl⟩
  · exact ⟨rfl, fun _ => rfl⟩
  · exact ⟨rfl, fun _ => rfl⟩
  · cases written <;> exact ⟨rfl, fun _ => rfl⟩

end Sizing

/-! ## Creations -/

/-- A creation that needs to know the local storage of its VM size is told something that is no
number. -/
structure UnreadableStorage (spec : RunnerSpec) (session : Session) (failure : Failure) : Prop where
  ephemeral : spec.useEphemeralStorage = true
  uncancelled : session.token.isSet = false
  answered : (session.script.next .listSkus).fault = none
  unreadable : ∃ sku, listedFor? session.script spec.vmSize = some sku ∧
    sku.supportsEphemeral = true ∧ sku.storageMb? = .error failure

/-- A creation finds that its disk does not fit, and cannot write the numbers that say so. -/
structure UncitedDemand (spec : RunnerSpec) (session : Session) : Prop where
  ephemeral : spec.useEphemeralStorage = true
  uncancelled : session.token.isSet = false
  answered : (session.script.next .listSkus).fault = none
  uncitable : ∃ sku maximumGb problem, listedFor? session.script spec.vmSize = some sku ∧
    sku.ephemeralGb spec.vmSize = .ok maximumGb ∧
    spec.diskDemand.resolve maximumGb = .error problem ∧ problem.numbers.all Number.fits = false

/-- A creation creates everything, and cannot write the size of the disk. -/
def UntoldSize (location : Text) (spec : RunnerSpec) (session : Session) : Prop :=
  ∃ diskSizeGb address, (prepared location spec session).outcome = .ok diskSizeGb ∧
    (filled location spec session diskSizeGb).outcome = .ok address ∧
    Number.fits diskSizeGb = false

/-- How a creation of an admitted spec fails with what is no error of the provider. -/
inductive OutsideFailure (location : Text) (spec : RunnerSpec) (session : Session) :
    Failure → Prop
  | unreadable {failure : Failure} (storage : UnreadableStorage spec session failure) :
      OutsideFailure location spec session failure
  | uncited (demand : UncitedDemand spec session) :
      OutsideFailure location spec session .unwritableInteger
  | untold (size : UntoldSize location spec session) :
      OutsideFailure location spec session .unwritableInteger

section Creations

variable {location : Text} {spec : RunnerSpec} {session : Session} {failure : Failure}

theorem measured_of_ok {vmSize : Text} {maximumGb : Int}
    (measures : (Cloud.maxEphemeralGb location vmSize session).outcome = .ok maximumGb) :
    (session.script.next .listSkus).fault = none ∧ ∃ sku,
      listedFor? session.script vmSize = some sku ∧ sku.ephemeralGb vmSize = .ok maximumGb := by
  obtain ⟨sku, finds, sizes⟩ := exists_of_bind_ok measures
  obtain ⟨answered, entry⟩ := findSku_of_ok finds
  exact ⟨answered, sku, entry, ofExcept_ok_iff.1 sizes⟩

theorem sized_outside (services : session.script.OnlyFaults IsServiceFault)
    (fails : (sized location spec session).outcome = .error (.failed failure)) :
    IsProviderError failure ∨ UnreadableStorage spec session failure ∨
      failure = .unwritableInteger ∧ UncitedDemand spec session := by
  cases ephemeral : spec.useEphemeralStorage with
  | false =>
      rw [sized_of_managed location session ephemeral] at fails
      cases fails
  | true =>
      rw [sized_of_ephemeral location session ephemeral] at fails
      cases set : session.token.isSet with
      | true =>
          have setStill : (begun session).token.isSet = true := set
          rw [bind_apply_of_error (by rw [step_of_set setStill])] at fails
          cases fails
          exact Or.inl rfl
      | false =>
          have unset : (begun session).token.isSet = false := set
          have servicesStill : (begun session).script.OnlyFaults IsServiceFault := services
          have stepped : ((runIn spec session).step .ephemeralDiskSize
              (Cloud.maxEphemeralGb location spec.vmSize) (begun session)).outcome = _ :=
            outcome_step unset
          rcases measures : (Cloud.maxEphemeralGb location spec.vmSize (begun session)).outcome with
            (given | _) | maximumGb
          · rw [measures] at stepped
            rw [bind_apply_of_error stepped] at fails
            obtain rfl : CreateRun.attributed .ephemeralDiskSize given = failure :=
              Stop.failed.inj (Except.error.inj fails)
            rcases maxEphemeralGb_failing servicesStill measures with
              own | ⟨answered, sku, entry, refuses⟩
            · exact Or.inl (isProviderError_attributed own _)
            · rcases unreadable_of_ephemeralGb refuses with own | ⟨supported, unreadable⟩
              · exact Or.inl (isProviderError_attributed own _)
              · rw [(outside_of_unreadable unreadable).2]
                exact Or.inr (Or.inl
                  ⟨ephemeral, set, answered, sku, entry, supported, unreadable⟩)
          · rw [measures] at stepped
            rw [bind_apply_of_error stepped] at fails
            exact absurd (Except.error.inj fails) (by simp [Stop.renamed])
          · rw [measures] at stepped
            rw [bind_apply_of_ok stepped] at fails
            change (ofExcept _ _ _).outcome = _ at fails
            obtain ⟨answered, sku, entry, offers⟩ := measured_of_ok measures
            cases demanded : spec.diskDemand.resolve maximumGb with
            | ok diskSizeGb =>
                rw [demanded] at fails
                cases fails
            | error problem =>
                rw [demanded] at fails
                obtain rfl : Failure.ofCapacity problem = failure :=
                  Stop.failed.inj (Except.error.inj fails)
                cases citable : problem.numbers.all Number.fits with
                | true =>
                    left
                    unfold Failure.ofCapacity
                    rw [if_pos citable]
                    rfl
                | false =>
                    refine Or.inr (Or.inr ⟨if_neg (by simp [citable]), ?_⟩)
                    exact ⟨ephemeral, set, answered, sku, _, _, entry, offers, demanded, citable⟩

theorem sized_of_unreadable (storage : UnreadableStorage spec session failure) :
    (sized location spec session).outcome = .error (.failed failure) := by
  obtain ⟨sku, entry, supported, unreadable⟩ := storage.unreadable
  rw [outcome_sized storage.ephemeral storage.uncancelled storage.answered entry,
    ephemeralGb_of_unreadable supported unreadable]
  simp only
  rw [(outside_of_unreadable unreadable).2]

theorem sized_of_uncited (demand : UncitedDemand spec session) :
    (sized location spec session).outcome = .error (.failed .unwritableInteger) := by
  obtain ⟨sku, maximumGb, problem, entry, offers, refused, uncitable⟩ := demand.uncitable
  rw [outcome_sized demand.ephemeral demand.uncancelled demand.answered entry, offers]
  simp only
  rw [refused, mapError_error, Failure.ofCapacity, if_neg (by simp [uncitable])]

theorem lenient_maxEphemeralGb (location vmSize : Text) :
    Confined IsServiceFault anything anything (Cloud.maxEphemeralGb location vmSize) :=
  (confined_findSku location vmSize).lenient.bind
    fun _ _ => confined_ofExcept (fun _ _ => trivial) fun _ _ => trivial

theorem lenient_capacity (given : Except CapacityProblem Int) :
    Confined IsServiceFault anything anything (ofExcept .ofCapacity given) :=
  confined_ofExcept (fun _ _ => trivial) fun _ _ => trivial

/-- However sizing the disk ends, only faults of services are left. -/
theorem services_sized (location : Text) (spec : RunnerSpec)
    (services : session.script.OnlyFaults IsServiceFault) :
    (sized location spec session).session.script.OnlyFaults IsServiceFault :=
  (pervasive_lenient.diskSize (runIn spec session) location spec
    (lenient_maxEphemeralGb location spec.vmSize) lenient_capacity (begun session) services).2.2

theorem services_prepared (location : Text) (spec : RunnerSpec)
    (services : session.script.OnlyFaults IsServiceFault) :
    (prepared location spec session).session.script.OnlyFaults IsServiceFault :=
  (pervasive_lenient.prepare (runIn spec session) location spec
    (lenient_maxEphemeralGb location spec.vmSize) lenient_capacity
    (confined_createGroup _ location spec).lenient (begun session) services).2.2

theorem prepared_outside (services : session.script.OnlyFaults IsServiceFault)
    (fails : (prepared location spec session).outcome = .error (.failed failure)) :
    IsProviderError failure ∨ UnreadableStorage spec session failure ∨
      failure = .unwritableInteger ∧ UncitedDemand spec session := by
  cases sizes : (sized location spec session).outcome with
  | error reason =>
      rw [prepared_of_unsized sizes] at fails
      cases fails
      exact sized_outside services sizes
  | ok diskSizeGb =>
      have groups := pervasive_ownErrors.step (runIn spec session) .resourceGroup
        (confined_createGroup (runIn spec session) location spec)
        (sized location spec session).session (services_sized location spec services)
      rw [prepared_of_sized sizes] at fails
      cases made : (grouped location spec session).outcome with
      | ok resource =>
          rw [made] at fails
          cases fails
      | error reason =>
          rw [made] at fails
          cases fails
          exact Or.inl (groups.1 failure made)

theorem Course.outside {execution : Execution RunnerInstance}
    (course : Course location spec session execution)
    (services : session.script.OnlyFaults IsServiceFault)
    (textual : TextualAddress session.script.answer)
    (fails : execution.outcome = .error (.failed failure)) :
    IsProviderError failure ∨ OutsideFailure location spec session failure := by
  have fills : ∀ diskSizeGb, _ := fun diskSizeGb =>
    confined_resources (runIn spec session) location spec diskSizeGb
      (prepared location spec session).session (services_prepared location spec services)
  cases course with
  | unprepared stops =>
      cases fails
      rcases prepared_outside services stops with own | storage | ⟨rfl, demand⟩
      · exact Or.inl own
      · exact Or.inr (.unreadable storage)
      · exact Or.inr (.uncited demand)
  | @failed diskSizeGb _ ready failsInside removes =>
      cases fails
      exact Or.inl ((fills diskSizeGb).1 failure failsInside)
  | @interrupted diskSizeGb _ _ ready failsInside stops =>
      cases fails
      have removal := confined_rollback (runIn spec session) _ (fills diskSizeGb).2.2
      exact absurd stops (removal.1 failure)
  | hung ready hangs => cases fails
  | unreported ready filled refuses =>
      cases fails
      rcases conclusion_error refuses with ⟨unreadable, _⟩ | ⟨rfl, tooLong⟩
      · obtain ⟨⟨granted, _⟩, _, _⟩ := (filled_progress ready).completed _ filled
        obtain ⟨addresses, reads⟩ := addressesOf_granted textual spec
        rw [granted, reads] at unreadable
        cases unreadable
      · exact Or.inr (.untold ⟨_, _, ready, filled, tooLong⟩)
  | created ready filled concludes => cases fails

/-- A creation that has filled its group fails as its conclusion does. -/
theorem Course.of_filled {execution : Execution RunnerInstance}
    (course : Course location spec session execution) {diskSizeGb : Int} {address : Value}
    (ready : (prepared location spec session).outcome = .ok diskSizeGb)
    (fills : (filled location spec session diskSizeGb).outcome = .ok address)
    (refuses : conclusion spec diskSizeGb address = .error failure) :
    execution.outcome = .error (.failed failure) := by
  cases course with
  | unprepared stops =>
      rw [ready] at stops
      cases stops
  | failed readyToo ends | interrupted readyToo ends | hung readyToo ends =>
      rw [ready] at readyToo
      cases readyToo
      rw [fills] at ends
      cases ends
  | unreported readyToo fillsToo refusesToo =>
      rw [ready] at readyToo
      cases readyToo
      rw [fills] at fillsToo
      cases fillsToo
      rw [refuses] at refusesToo
      cases refusesToo
      rfl
  | created readyToo fillsToo concludes =>
      rw [ready] at readyToo
      cases readyToo
      rw [fills] at fillsToo
      cases fillsToo
      rw [refuses] at concludes
      cases concludes

theorem Course.of_outsideFailure {execution : Execution RunnerInstance}
    (course : Course location spec session execution)
    (textual : TextualAddress session.script.answer)
    (outside : OutsideFailure location spec session failure) :
    execution.outcome = .error (.failed failure) ∧ failure.isProviderError = false := by
  cases outside with
  | unreadable storage =>
      obtain ⟨_, _, _, unreadable⟩ := storage.unreadable
      have stops : (prepared location spec session).outcome = .error (.failed failure) := by
        rw [prepared_of_unsized (sized_of_unreadable storage)]
      exact ⟨(course.of_unprepared stops).1, (outside_of_unreadable unreadable).1⟩
  | uncited demand =>
      have stops : (prepared location spec session).outcome =
          .error (.failed .unwritableInteger) := by
        rw [prepared_of_unsized (sized_of_uncited demand)]
      exact ⟨(course.of_unprepared stops).1, rfl⟩
  | untold size =>
      obtain ⟨diskSizeGb, address, ready, fills, tooLong⟩ := size
      obtain ⟨⟨rfl, _⟩, _, _⟩ := (filled_progress ready).completed _ fills
      obtain ⟨addresses, reads⟩ := addressesOf_granted textual spec
      exact ⟨course.of_filled ready fills (conclusion_of_tooLong reads tooLong), rfl⟩

end Creations

section Requests

variable {controllerId : Text} {config : ProviderConfig} {bootstrap : Bootstrap}
  {session : Session} {failure : Failure}

/-- How the creation for a request fails with something else than an error of the provider: its
install script has a half of a surrogate pair, or the request is admitted and its sizes are at fault. -/
inductive Stray (controllerId : Text) (config : ProviderConfig) (bootstrap : Bootstrap)
    (session : Session) : Failure → Prop where
  | unencodable {script : Text} {place : Text.Unencodable} (supported : bootstrap.arch = .amd64)
      (servable : RunnerSpec.Servable controllerId config bootstrap)
      (renders : bootstrap.installScript = .ok script) (broken : script.utf8? = .error place) :
      Stray controllerId config bootstrap session (.spec (.unencodable place))
  | unmeasured {spec : RunnerSpec} {failure : Failure}
      (accepts : admitted controllerId config bootstrap = .ok spec)
      (outside : OutsideFailure config.location spec session failure) :
      Stray controllerId config bootstrap session failure

theorem stray_of_refused
    (refused : admitted controllerId config bootstrap = .error failure) :
    IsProviderError failure ∨ Stray controllerId config bootstrap session failure := by
  have refusal := refusal_of_refused refused
  unfold IsProviderError Failure.isProviderError
  generalize failure.category = category at refusal
  cases refusal with
  | architecture other => exact Or.inl rfl
  | spec supported unservable => exact Or.inl rfl
  | unencodable supported servable broken =>
      obtain ⟨script, renders⟩ := Bootstrap.installScript_ok_iff.2 servable.tools
      cases encoded : script.utf8? with
      | ok written =>
          rw [Text.utf8?_eq_ok_iff] at encoded
          exact absurd ⟨written, encoded ▸ renders⟩ broken
      | error place =>
          rw [admitted_of_broken supported servable renders encoded] at refused
          cases refused
          exact Or.inr (.unencodable supported servable renders encoded)

theorem create_outside (services : session.script.OnlyFaults IsServiceFault)
    (textual : TextualAddress session.script.answer)
    (fails : (create controllerId config bootstrap session).outcome = .error (.failed failure)) :
    IsProviderError failure ∨ Stray controllerId config bootstrap session failure := by
  cases accepts : admitted controllerId config bootstrap with
  | error refusal =>
      rw [create_of_refused accepts] at fails
      cases fails
      exact stray_of_refused accepts
  | ok spec =>
      rw [create_of_admitted accepts] at fails
      have course := createFrom_course config.location spec session
      exact (course.outside services textual fails).imp_right (.unmeasured accepts)

theorem create_of_stray (textual : TextualAddress session.script.answer)
    (stray : Stray controllerId config bootstrap session failure) :
    (create controllerId config bootstrap session).outcome = .error (.failed failure) ∧
      failure.isProviderError = false := by
  cases stray with
  | unencodable supported servable renders broken =>
      rw [create_of_refused (admitted_of_broken supported servable renders broken)]
      exact ⟨rfl, rfl⟩
  | unmeasured accepts outside =>
      rw [create_of_admitted accepts]
      exact (createFrom_course config.location _ session).of_outsideFailure textual outside

end Requests

end Provision

open Provision

/-- An action that gives nothing fails as its operation does. -/
theorem outcome_discarded {operation : Operation α} {session : Session} {failure : Failure} :
    ((operation >>= fun _ => pure ()) session).outcome = .error (.failed failure) ↔
      (operation session).outcome = .error (.failed failure) := by
  rw [bind_pure_apply]
  cases (operation session).outcome <;> simp [Except.map]

/-- Only creations have other failures than errors of the provider. -/
theorem action_isProviderError (provider : Provider) {action : ProviderAction}
    (other : ∀ bootstrap, action ≠ .create bootstrap) {session : Session} {failure : Failure}
    (services : session.script.OnlyFaults IsServiceFault) (typed : TypedAnswers session.script)
    (fails : (action.operation provider session).outcome = .error (.failed failure)) :
    IsProviderError failure := by
  have own {operation : Operation Unit} (confined : OwnErrors operation)
      (fails : (operation session).outcome = .error (.failed failure)) : IsProviderError failure :=
    (confined session services).1 failure fails
  cases action with
  | create bootstrap => exact absurd rfl (other bootstrap)
  | delete name => exact own (reporting_ownErrors.delete name) fails
  | get name => exact get_isProviderError services typed.machine (outcome_discarded.1 fails)
  | listPool poolId =>
      exact listPool_isProviderError services typed.machines (outcome_discarded.1 fails)
  | removeAll => exact own (confined_pure trivial) fails
  | stop name => exact own (reporting_ownErrors.stop name) fails
  | start name => exact own (reporting_ownErrors.start name) fails

/-- An action that creates fails as the creation does. -/
theorem outcome_create_action (provider : Provider) (bootstrap : Bootstrap) (session : Session)
    (failure : Failure) :
    ((ProviderAction.create bootstrap).operation provider session).outcome =
        .error (.failed failure) ↔
      (create provider.controllerId provider.config bootstrap session).outcome =
        .error (.failed failure) :=
  outcome_discarded

/-- Where the cloud has no faults but the errors of its services, and what it answers has the types of
its interface, every operation of a provider fails with errors of the provider only, but for creations
that fail about their script or a size. One does so about its script when nothing else is wrong with
the request and a half of a surrogate pair is in the script. One with an ephemeral disk does so about a
size when the entry of the catalogue, which does not deny the support of such disks, gives a storage
that is no number, or when the disk does not fit and the numbers that say so are too long to be
written; any creation does so when everything is created and the size of the disk is too long to be
written. -/
theorem provider_errors (provider : Provider) (action : ProviderAction) {session : Session}
    (services : session.script.OnlyFaults IsServiceFault) (typed : TypedAnswers session.script)
    (failure : Failure) :
    (action.operation provider session).outcome = .error (.failed failure) ∧
        failure.isProviderError = false ↔
      ∃ bootstrap, action = .create bootstrap ∧
        Stray provider.controllerId provider.config bootstrap session failure := by
  constructor
  · rintro ⟨fails, outside⟩
    by_cases creates : ∃ bootstrap, action = .create bootstrap
    · obtain ⟨bootstrap, rfl⟩ := creates
      rw [outcome_create_action] at fails
      refine ⟨bootstrap, rfl, (create_outside services typed.address fails).resolve_left fun own => ?_⟩
      rw [IsProviderError, outside] at own
      cases own
    · have own : failure.isProviderError = true :=
        action_isProviderError provider (not_exists.1 creates) services typed fails
      rw [outside] at own
      cases own
  · rintro ⟨bootstrap, rfl, stray⟩
    obtain ⟨fails, outside⟩ := create_of_stray typed.address stray
    exact ⟨(outcome_create_action provider bootstrap session failure).2 fails, outside⟩

/-! ## A catalogue with a size that is no number -/

/-- A cloud whose catalogue gives the storage of the sample size as a text that is no number. -/
def mislabelledCatalogue : CloudScript := fun method =>
  match method with
  | .listSkus => [{ items := [.dict [
      ("name", .text "Standard_F2s"),
      ("resource_type", .text "virtualMachines"),
      ("capabilities", .list [.dict [
        ("name", .text Sku.storageName), ("value", .text "abc")]])]] }]
  | _ => []

/-- A provider whose runners have ephemeral disks. -/
def ephemeralProvider : Provider :=
  { controllerId := "controller-1"
    config := { sampleConfig with useEphemeralStorage := true }
    credential := .given "credential" }

theorem services_mislabelledCatalogue : mislabelledCatalogue.OnlyFaults IsServiceFault := by
  intro method behaviour member
  cases method with
  | listSkus =>
      obtain rfl := List.mem_singleton.1 member
      exact ⟨nofun, nofun, nofun, nofun⟩
  | _ => cases member

theorem typed_mislabelledCatalogue : TypedAnswers mislabelledCatalogue where
  address := Or.inl rfl
  catalogue := by
    intro item listed
    obtain rfl := List.mem_singleton.1 listed
    refine ⟨⟨_, rfl⟩, fun capability held => ?_⟩
    obtain rfl := List.mem_singleton.1 held
    exact Or.inr ⟨"abc", rfl⟩
  machine := ⟨⟨Or.inl rfl, Or.inl rfl, nofun⟩, Or.inr ⟨_, rfl⟩, Or.inl rfl, Or.inl rfl⟩
  machines := nofun

theorem fails_mislabelledCatalogue :
    ((ProviderAction.create sampleBootstrap).operation ephemeralProvider
      (sampleSession mislabelledCatalogue)).outcome =
        .error (.failed (.unreadableInteger "abc")) := by
  decide +kernel

theorem provider_errors_of_mislabelledCatalogue :
    ∃ bootstrap, ProviderAction.create sampleBootstrap = .create bootstrap ∧
      Stray ephemeralProvider.controllerId ephemeralProvider.config bootstrap
        (sampleSession mislabelledCatalogue) (.unreadableInteger "abc") :=
  (provider_errors ephemeralProvider (.create sampleBootstrap) services_mislabelledCatalogue
    typed_mislabelledCatalogue _).1 ⟨fails_mislabelledCatalogue, rfl⟩

/-- A text in the catalogue is enough for a failure that is no error of the provider. -/
theorem not_all_provider_errors :
    ¬ ∀ (provider : Provider) (action : ProviderAction) (session : Session),
      session.script.OnlyFaults IsServiceFault → TypedAnswers session.script → ∀ failure,
        (action.operation provider session).outcome = .error (.failed failure) →
        failure.isProviderError = true := by
  intro all
  have own := all ephemeralProvider (.create sampleBootstrap) (sampleSession mislabelledCatalogue)
    services_mislabelledCatalogue typed_mislabelledCatalogue _ fails_mislabelledCatalogue
  cases own

end RunnerCloud
