import RunnerCloud.Proofs.Provision.Steps

/-!
Contract: properties that the parts of a creation have because the steps have them of which they
consist.

Owns:
- `Stepwise`, a property of operations that the steps of a creation have, and that everything keeps
  by which steps are put together, and its walk through the parts of a creation;
- `Pervasive`, a property that the forms have or keep from which the steps are built, so that it is
  stepwise.

Does not own: which properties are stepwise or pervasive.
-/

namespace RunnerCloud.Provision

open Operation

/-! ## Steps -/

/-- The steps of a creation that wait inside the group have the property, and so has what stands
between them. -/
structure Stepwise (run : CreateRun) (Holds : (α : Type) → Operation α → Prop) : Prop where
  result : ∀ {α : Type} (value : α), Holds α (pure value)
  sequence : ∀ {α β : Type} {operation : Operation α} {next : α → Operation β},
    Holds α operation → (∀ value, Holds β (next value)) → Holds β (operation >>= next)
  checked : ∀ boundary, Holds Unit (run.checkCancelled boundary)
  unidentified : ∀ step, Holds Value (fail (.missingResourceId step))
  /-- What is created inside the group is waited for; no group is created or deleted there. -/
  created : ∀ {step : Step} {action : CloudAction} {request : Request},
    request.purpose? = some (step, action) →
    ¬ (request.method = .createGroup ∨ request.method = .deleteGroup) →
    Holds Value (run.step step (Cloud.guarded action (Cloud.complete true request)))
  ordered : ∀ location spec interfaceId tags diskSizeGb,
    Holds Value (run.step .virtualMachine
      (Cloud.createMachine location true spec interfaceId tags diskSizeGb))

namespace Stepwise

variable {run : CreateRun} {Holds : (α : Type) → Operation α → Prop} (stepwise : Stepwise run Holds)
  (location : Text) (spec : RunnerSpec)

include stepwise

theorem resourceId (step : Step) (resource : Value) :
    Holds Value (CreateRun.resourceId step resource) := by
  unfold CreateRun.resourceId
  dsimp only
  split
  · exact stepwise.unidentified step
  · exact stepwise.result _

theorem publicIp : Holds PublicIp (publicIp run location spec) := by
  unfold Provision.publicIp
  split
  · refine stepwise.sequence (stepwise.created rfl (by simp [Request.method])) fun resource => ?_
    exact stepwise.sequence (stepwise.resourceId _ _) fun _ => stepwise.result _
  · exact stepwise.result _

theorem interface (subnet securityGroup publicIpId : Value) :
    Holds Value (interface run location spec subnet securityGroup publicIpId) := by
  refine stepwise.sequence (stepwise.resourceId _ _) fun _ => ?_
  refine stepwise.sequence (stepwise.resourceId _ _) fun _ => ?_
  exact stepwise.created rfl (by simp [Request.method])

theorem resources (diskSizeGb : Int) : Holds Value (resources run location spec diskSizeGb) := by
  refine stepwise.sequence (stepwise.created rfl (by simp [Request.method])) fun network => ?_
  refine stepwise.sequence (stepwise.created rfl (by simp [Request.method])) fun subnet => ?_
  refine stepwise.sequence (stepwise.publicIp location spec) fun ip => ?_
  refine stepwise.sequence (stepwise.created rfl (by simp [Request.method])) fun securityGroup => ?_
  refine stepwise.sequence (stepwise.interface location spec _ _ _) fun interface => ?_
  refine stepwise.sequence (stepwise.resourceId _ _) fun interfaceId => ?_
  refine stepwise.sequence (stepwise.ordered location spec _ _ _) fun _ => ?_
  exact stepwise.sequence (stepwise.checked _) fun _ => stepwise.result _

theorem diskSize
    (measured : Holds Int
      (run.step .ephemeralDiskSize (Cloud.maxEphemeralGb location spec.vmSize)))
    (resolved : ∀ given, Holds Int (ofExcept .ofCapacity given)) :
    Holds Int (diskSize run location spec) := by
  unfold Provision.diskSize
  split
  · exact stepwise.sequence measured fun _ => resolved _
  · exact stepwise.result _

theorem prepare
    (measured : Holds Int
      (run.step .ephemeralDiskSize (Cloud.maxEphemeralGb location spec.vmSize)))
    (resolved : ∀ given, Holds Int (ofExcept .ofCapacity given))
    (grouped : Holds Value
      (run.step .resourceGroup (Cloud.createGroup location run.name spec.tags))) :
    Holds Int (prepare run location spec) := by
  refine stepwise.sequence (stepwise.diskSize location spec measured resolved) fun diskSizeGb => ?_
  exact stepwise.sequence grouped fun _ => stepwise.result _

end Stepwise

/-! ## Forms -/

/-- The forms from which a creation is built have the property, or keep it. -/
structure Pervasive (Holds : (α : Type) → Operation α → Prop) : Prop where
  result : ∀ {α : Type} (value : α), Holds α (pure value)
  sequence : ∀ {α β : Type} {operation : Operation α} {next : α → Operation β},
    Holds α operation → (∀ value, Holds β (next value)) → Holds β (operation >>= next)
  looked : Holds Bool isCancelled
  cancelled : ∀ name boundary, Holds Unit (fail (.cancelledBefore name boundary))
  logged : ∀ record, Holds Unit (emit (.logged record))
  attributed : ∀ {α : Type} (step : Step) {operation : Operation α},
    Holds α operation → Holds α (CreateRun.inStep step operation)
  unidentified : ∀ step, Holds Value (fail (.missingResourceId step))
  drawn : ∀ count, Holds (List Nat) (drawNumbers count)
  /-- What is created inside the group is waited for; no group is created or deleted there. -/
  created : ∀ action {request : Request},
    ¬ (request.method = .createGroup ∨ request.method = .deleteGroup) →
    Holds Value (Cloud.guarded action (Cloud.complete true request))

namespace Pervasive

variable {Holds : (α : Type) → Operation α → Prop} (pervasive : Pervasive Holds)
  (run : CreateRun) (location : Text) (spec : RunnerSpec)

include pervasive

theorem checkCancelled (boundary : Boundary) : Holds Unit (run.checkCancelled boundary) := by
  refine pervasive.sequence pervasive.looked fun cancelled => ?_
  split
  · exact pervasive.cancelled run.name boundary
  · exact pervasive.result ()

theorem step {α : Type} (step : Step) {operation : Operation α} (holds : Holds α operation) :
    Holds α (run.step step operation) := by
  refine pervasive.sequence (pervasive.checkCancelled run _) fun _ => ?_
  refine pervasive.sequence (pervasive.logged _) fun _ => ?_
  exact pervasive.attributed step holds

theorem createMachine (interfaceId : Value) (tags : Tags) (diskSizeGb : Int) :
    Holds Value (Cloud.createMachine location true spec interfaceId tags diskSizeGb) := by
  have access : Holds MachineAccess (Cloud.accessOf spec) := by
    unfold Cloud.accessOf
    split
    · exact pervasive.sequence (pervasive.drawn _) fun _ => pervasive.result _
    · exact pervasive.result _
  exact pervasive.sequence access fun _ => pervasive.created _ (by simp [Request.method])

theorem stepwise : Stepwise run Holds where
  result := pervasive.result
  sequence := pervasive.sequence
  checked := pervasive.checkCancelled run
  unidentified := pervasive.unidentified
  created := fun _ inside => pervasive.step run _ (pervasive.created _ inside)
  ordered := fun location spec _ _ _ =>
    pervasive.step run _ (pervasive.createMachine location spec _ _ _)

theorem resources (diskSizeGb : Int) : Holds Value (resources run location spec diskSizeGb) :=
  (pervasive.stepwise run).resources location spec diskSizeGb

theorem diskSize
    (measured : Holds Int (Cloud.maxEphemeralGb location spec.vmSize))
    (resolved : ∀ given, Holds Int (ofExcept .ofCapacity given)) :
    Holds Int (diskSize run location spec) :=
  (pervasive.stepwise run).diskSize location spec (pervasive.step run _ measured) resolved

theorem prepare
    (measured : Holds Int (Cloud.maxEphemeralGb location spec.vmSize))
    (resolved : ∀ given, Holds Int (ofExcept .ofCapacity given))
    (grouped : Holds Value (Cloud.createGroup location run.name spec.tags)) :
    Holds Int (prepare run location spec) :=
  (pervasive.stepwise run).prepare location spec (pervasive.step run _ measured) resolved
    (pervasive.step run _ grouped)

end Pervasive

end RunnerCloud.Provision
