import RunnerCloud.Proofs.Provision.Parts
import RunnerCloud.Proofs.Run.Subjects

/-!
Contract: which requests the parts of a creation have to do with.

Owns:
- `AltersGroups`, the requests that create or delete a group, and `deletion`, the one request that a
  removal makes;
- which requests each part of a creation concerns: the catalogue, the group, what is inside the
  group, and the deletion;
- `AltersGroup`, the requests that create or delete the group of a name, and that a creation makes
  none of them for the name of another instance.

Does not own: the order of the requests.
-/

namespace RunnerCloud.Provision

open Operation

variable {α : Type}

def AltersGroups (request : Request) : Prop :=
  request.method = .createGroup ∨ request.method = .deleteGroup

/-- The request creates or deletes the group of a name. -/
def AltersGroup (name : Text) (request : Request) : Prop :=
  (∃ location tags, request = .createGroup name location tags) ∨
    ∃ force, request = .deleteGroup name force

theorem AltersGroup.altersGroups {name : Text} {request : Request}
    (alters : AltersGroup name request) : AltersGroups request := by
  rcases alters with ⟨location, tags, rfl⟩ | ⟨force, rfl⟩
  · exact Or.inl rfl
  · exact Or.inr rfl

/-- The deletion of a group with everything in it. -/
def deletion (name : Text) : Request :=
  .deleteGroup name true

theorem not_altersGroup_createGroup {name created : Text} (other : name ≠ created)
    (location : Text) (tags : Tags) : ¬ AltersGroup name (.createGroup created location tags) := by
  rintro (⟨_, _, same⟩ | ⟨_, same⟩)
  all_goals cases same
  exact other rfl

theorem not_altersGroup_deletion {name deleted : Text} (other : name ≠ deleted) :
    ¬ AltersGroup name (deletion deleted) := by
  rintro (⟨_, _, same⟩ | ⟨_, same⟩)
  all_goals cases same
  exact other rfl

theorem concerns_guarded {allowed : Request → Prop} {operation : Operation α}
    (action : CloudAction) (concerns : Concerns allowed operation) :
    Concerns allowed (Cloud.guarded action operation) :=
  concerns.recover fun _ => concerns_fail _

/-! ## Steps -/

theorem concerns_checkCancelled {allowed : Request → Prop} (run : CreateRun) (boundary : Boundary) :
    Concerns allowed (run.checkCancelled boundary) := by
  refine concerns_isCancelled.bind fun cancelled => ?_
  split
  · exact concerns_fail _
  · exact concerns_pure _

theorem concerns_log {allowed : Request → Prop} (run : CreateRun) (level : Int) (message : Text)
    (step : Option Text) : Concerns allowed (run.log level message step) :=
  concerns_emit (by simp [Event.subject?])

theorem concerns_step {allowed : Request → Prop} {operation : Operation α} (run : CreateRun)
    (step : Step) (concerns : Concerns allowed operation) :
    Concerns allowed (run.step step operation) := by
  refine (concerns_checkCancelled run _).bind fun _ => ?_
  refine (concerns_log run _ _ _).bind fun _ => ?_
  exact concerns.recover fun _ => concerns_fail _

/-! ## Before the group is there -/

theorem concerns_maxEphemeralGb (location vmSize : Text) :
    Concerns (· = .listSkus location) (Cloud.maxEphemeralGb location vmSize) := by
  have listed : Concerns (· = .listSkus location) (Cloud.listedSku location vmSize) := by
    have listing : Concerns (· = .listSkus location) (list (.listSkus location)) := by
      apply concerns_list
      rfl
    refine listing.bind fun listing => ?_
    split
    · exact concerns_pure _
    · refine Concerns.bind ?_ fun _ => concerns_pure _
      apply concerns_raise
      rfl
  refine ((concerns_guarded _ listed).bind fun sku => ?_).bind fun sku => concerns_ofExcept
  split
  · exact concerns_pure _
  · exact concerns_fail _

theorem concerns_diskSize (run : CreateRun) (location : Text) (spec : RunnerSpec) :
    Concerns (· = .listSkus location) (diskSize run location spec) := by
  unfold diskSize
  split
  · refine Concerns.bind ?_ fun _ => concerns_ofExcept
    exact concerns_step run _ (concerns_maxEphemeralGb location spec.vmSize)
  · exact concerns_pure _

theorem concerns_groupStep (run : CreateRun) (location name : Text) (tags : Tags) :
    Concerns (· = .createGroup name location tags)
      (run.step .resourceGroup (Cloud.createGroup location name tags)) := by
  refine concerns_step run _ (concerns_guarded _ ?_)
  apply concerns_submit
  rfl

theorem concerns_prepare (run : CreateRun) (location : Text) (spec : RunnerSpec) :
    Concerns (fun request =>
        request = .listSkus location ∨ request = .createGroup run.name location spec.tags)
      (prepare run location spec) := by
  refine Concerns.bind ?_ fun diskSizeGb => Concerns.bind ?_ fun _ => concerns_pure diskSizeGb
  · exact (concerns_diskSize run location spec).mono fun _ => Or.inl
  · exact (concerns_groupStep run location run.name spec.tags).mono fun _ => Or.inr

/-! ## Inside the group -/

theorem pervasive_concerns :
    Pervasive fun _ operation => Concerns (¬ AltersGroups ·) operation where
  result := concerns_pure
  sequence := fun first rest => first.bind rest
  looked := concerns_isCancelled
  cancelled := fun _ _ => concerns_fail _
  logged := fun _ => concerns_emit (by simp [Event.subject?])
  attributed := fun _ _ concerns => concerns.recover fun _ => concerns_fail _
  unidentified := fun _ => concerns_fail _
  drawn := concerns_drawNumbers
  created := fun action _ inside => concerns_guarded action (concerns_complete inside true)

/-- Inside the group no group is created or deleted. -/
theorem concerns_resources (run : CreateRun) (location : Text) (spec : RunnerSpec)
    (diskSizeGb : Int) :
    Concerns (¬ AltersGroups ·) (resources run location spec diskSizeGb) :=
  pervasive_concerns.resources run location spec diskSizeGb

/-! ## The removal -/

theorem concerns_deleteGroup (name : Text) :
    Concerns (· = deletion name) (Cloud.deleteGroup name true) := by
  refine concerns_guarded _ ?_
  refine Concerns.bind ?_ fun _ => concerns_pure ()
  apply concerns_complete
  rfl

theorem concerns_rollback (run : CreateRun) : Concerns (· = deletion run.name) run.rollback := by
  refine (concerns_log run _ _ _).bind fun _ => (concerns_deleteGroup run.name).recover fun _ => ?_
  split
  · exact concerns_fail _
  · exact concerns_log run _ _ _

/-! ## The whole creation -/

/-- A creation has to do with no group but its own. -/
theorem concerns_createFrom {name : Text} (location : Text) (spec : RunnerSpec)
    (other : name ≠ spec.name) :
    Concerns (¬ AltersGroup name ·) (createFrom location spec) := by
  refine (concerns_drawSerial).bind fun serial => ?_
  let run : CreateRun := ⟨spec.name, serial⟩
  have preparing : Concerns (¬ AltersGroup name ·) (prepare run location spec) := by
    refine (concerns_prepare run location spec).mono ?_
    rintro request (rfl | rfl)
    · rintro (⟨_, _, same⟩ | ⟨_, same⟩) <;> cases same
    · exact not_altersGroup_createGroup other location spec.tags
  have filling (diskSizeGb : Int) :
      Concerns (¬ AltersGroup name ·) (resources run location spec diskSizeGb) :=
    (concerns_resources run location spec diskSizeGb).mono fun _ harmless alters =>
      harmless alters.altersGroups
  have removing : Concerns (¬ AltersGroup name ·) run.rollback := by
    refine (concerns_rollback run).mono ?_
    rintro request rfl
    exact not_altersGroup_deletion other
  refine preparing.bind fun diskSizeGb => Concerns.bind ?_ fun publicAddress => ?_
  · exact (filling diskSizeGb).recover fun _ => removing.bind fun _ => concerns_fail _
  · refine concerns_ofExcept.bind fun _ => (concerns_log run _ _ _).bind fun _ => ?_
    exact concerns_pure _

end RunnerCloud.Provision
