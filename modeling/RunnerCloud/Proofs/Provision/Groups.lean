import Mathlib.Data.Finset.Basic
import RunnerCloud.Proofs.Provision.Rollback

/-!
Contract: the resource groups that the events of a run leave in the cloud.

Owns:
- `liveAfter`, the live groups after events: a creation that returned adds its group, and a deletion
  whose result was fetched with success removes it;
- `create_groups_of_failed`, the groups that a failed creation leaves behind, and
  `create_groups_of_ok`, those of a completed one.

Does not own: runs of the provider other than creations.
-/

namespace RunnerCloud

/-- What an event changes about the live groups. -/
def Event.liveNext (groups : Finset Text) : Event → Finset Text
  | .returned (.createGroup name _ _) => insert name groups
  | .fetched (.deleteGroup name _) true => groups.erase name
  | _ => groups

def liveAfter (groups : Finset Text) (events : List Event) : Finset Text :=
  events.foldl Event.liveNext groups

@[simp]
theorem liveAfter_append (groups : Finset Text) (earlier later : List Event) :
    liveAfter groups (earlier ++ later) = liveAfter (liveAfter groups earlier) later :=
  List.foldl_append ..

def Event.Keeps (event : Event) : Prop :=
  ∀ groups, event.liveNext groups = groups

theorem liveAfter_of_keeps {events : List Event} (keeps : ∀ event ∈ events, event.Keeps)
    (groups : Finset Text) : liveAfter groups events = groups := by
  induction events generalizing groups with
  | nil => rfl
  | cons event events inductionHypothesis =>
      show liveAfter (event.liveNext groups) events = groups
      rw [keeps event (by simp)]
      exact inductionHypothesis (fun other member => keeps other (by simp [member])) groups

section Effect

variable (effect : Finset Text → Finset Text) {events : List Event}
  (idempotent : ∀ groups, effect (effect groups) = effect groups)
  (only : ∀ event ∈ events, event.Keeps ∨ ∀ groups, event.liveNext groups = effect groups)

include idempotent only

/-- Events with one effect only have it or leave the groups alone. -/
theorem liveAfter_of_effect (groups : Finset Text) :
    liveAfter groups events = groups ∨ liveAfter groups events = effect groups := by
  induction events generalizing groups with
  | nil => exact Or.inl rfl
  | cons event events inductionHypothesis =>
      have rest := inductionHypothesis fun other member => only other (by simp [member])
      show liveAfter (event.liveNext groups) events = groups ∨
        liveAfter (event.liveNext groups) events = effect groups
      rcases only event (by simp) with keeps | affects
      · rw [keeps]
        exact rest groups
      · rw [affects]
        rcases rest (effect groups) with same | again
        · exact Or.inr same
        · exact Or.inr (again.trans (idempotent groups))

theorem liveAfter_of_affecting {event : Event} (member : event ∈ events)
    (affects : ∀ groups, event.liveNext groups = effect groups) (groups : Finset Text) :
    liveAfter groups events = effect groups := by
  obtain ⟨earlier, later, rfl⟩ := List.append_of_mem member
  have before : liveAfter groups earlier = groups ∨ liveAfter groups earlier = effect groups :=
    liveAfter_of_effect effect idempotent (fun other inside => only other (by simp [inside])) groups
  have after : liveAfter (effect groups) later = effect groups ∨
      liveAfter (effect groups) later = effect (effect groups) :=
    liveAfter_of_effect effect idempotent (fun other inside => only other (by simp [inside])) _
  -- Whether the effect was had before the event makes no difference to the groups behind it.
  have reached : event.liveNext (liveAfter groups earlier) = effect groups := by
    rcases before with same | already
    · rw [same, affects]
    · rw [already, affects, idempotent]
  rw [liveAfter_append]
  show liveAfter (event.liveNext (liveAfter groups earlier)) later = effect groups
  rw [reached]
  rcases after with same | again
  · exact same
  · exact again.trans (idempotent groups)

end Effect

section Names

variable {name : Text}

/-- An event that has nothing to do with the group of a name does not decide whether it is live. -/
theorem mem_liveNext_iff {event : Event}
    (harmless : ∀ request, event.subject? = some request → ¬ Provision.AltersGroup name request)
    (groups : Finset Text) : name ∈ event.liveNext groups ↔ name ∈ groups := by
  cases event with
  | returned request =>
      cases request with
      | createGroup other location tags =>
          have different : name ≠ other := by
            rintro rfl
            exact harmless _ rfl (Or.inl ⟨location, tags, rfl⟩)
          simp [Event.liveNext, different]
      | _ => exact Iff.rfl
  | fetched request succeeded =>
      cases request with
      | deleteGroup other force =>
          have different : name ≠ other := by
            rintro rfl
            exact harmless _ rfl (Or.inr ⟨force, rfl⟩)
          cases succeeded <;> simp [Event.liveNext, different]
      | _ => exact Iff.rfl
  | _ => exact Iff.rfl

theorem mem_liveAfter_iff {events : List Event}
    (within : Event.Within (¬ Provision.AltersGroup name ·) events) (groups : Finset Text) :
    name ∈ liveAfter groups events ↔ name ∈ groups := by
  induction events generalizing groups with
  | nil => exact Iff.rfl
  | cons event events inductionHypothesis =>
      obtain ⟨harmless, rest⟩ := (Event.within_cons ..).1 within
      exact (inductionHypothesis rest _).trans (mem_liveNext_iff harmless groups)

end Names

/-- Only events of requests that create or delete groups change the live groups. -/
theorem liveAfter_of_within {events : List Event}
    (within : Event.Within (¬ Provision.AltersGroups ·) events) (groups : Finset Text) :
    liveAfter groups events = groups := by
  ext name
  exact mem_liveAfter_iff (within.mono fun _ harmless alters => harmless alters.altersGroups) groups

namespace Provision

/-! ## The parts of a creation -/

section Parts

variable {location : Text} {spec : RunnerSpec} {session : Session}

/-- The preparations can only add the group of the spec. -/
theorem keeps_or_creates {event : Event}
    (member : event ∈ (prepared location spec session).events) :
    event.Keeps ∨ event = .returned (.createGroup spec.name location spec.tags) := by
  have within := concerns_prepare (runIn spec session) location spec (begun session) event member
  cases event with
  | returned request =>
      rcases within request rfl with rfl | rfl
      · exact Or.inl fun _ => rfl
      · exact Or.inr rfl
  | fetched request succeeded =>
      rcases within request rfl with rfl | rfl
      · exact Or.inl fun _ => rfl
      · exact Or.inl fun _ => rfl
  | _ => exact Or.inl fun _ => rfl

theorem liveAfter_prepared {diskSizeGb : Int}
    (ready : (prepared location spec session).outcome = .ok diskSizeGb) (groups : Finset Text) :
    liveAfter groups (prepared location spec session).events = insert spec.name groups := by
  obtain ⟨request, creates, returned⟩ :=
    (groupCreated_prepared_iff location spec session).2 ⟨diskSizeGb, ready⟩
  refine liveAfter_of_affecting (insert spec.name) (by simp) ?_ returned ?_ groups
  · intro event member
    rcases keeps_or_creates member with keeps | rfl
    · exact Or.inl keeps
    · exact Or.inr fun _ => rfl
  · have within := concerns_prepare (runIn spec session) location spec (begun session) _ returned
    rcases within request rfl with rfl | rfl
    · cases creates
    · exact fun _ => rfl

theorem liveAfter_unprepared {reason : Stop}
    (stops : (prepared location spec session).outcome = .error reason) (groups : Finset Text) :
    liveAfter groups (prepared location spec session).events = groups := by
  refine liveAfter_of_keeps (fun event member => ?_) groups
  rcases keeps_or_creates member with keeps | rfl
  · exact keeps
  · obtain ⟨diskSizeGb, ready⟩ :=
      (groupCreated_prepared_iff location spec session).1 ⟨_, rfl, member⟩
    rw [stops] at ready
    cases ready

theorem liveAfter_filled (diskSizeGb : Int) (groups : Finset Text) :
    liveAfter groups (filled location spec session diskSizeGb).events = groups :=
  liveAfter_of_within (concerns_resources (runIn spec session) location spec diskSizeGb _) groups

theorem liveAfter_removed {diskSizeGb : Int}
    (succeeds : .fetched (deletion spec.name) true ∈
      (removed location spec session diskSizeGb).events) (groups : Finset Text) :
    liveAfter groups (removed location spec session diskSizeGb).events =
      groups.erase spec.name := by
  have removes := removed_removes location spec session diskSizeGb
  refine liveAfter_of_affecting (Finset.erase · spec.name) (by simp) ?_ succeeds (fun _ => rfl) groups
  intro event member
  cases event with
  | returned request =>
      have same := removes.within _ member request rfl
      rw [same]
      exact Or.inl fun _ => rfl
  | fetched request succeeded =>
      have same := removes.within _ member request rfl
      rw [same]
      cases succeeded with
      | true => exact Or.inr fun _ => rfl
      | false => exact Or.inl fun _ => rfl
  | _ => exact Or.inl fun _ => rfl

end Parts

/-! ## The courses of a creation -/

/-- Every deletion among the events has succeeded. -/
def Compensated (events : List Event) : Prop :=
  ∀ request ∈ deletions events, .fetched request true ∈ events

instance (events : List Event) : Decidable (Compensated events) := by
  unfold Compensated
  infer_instance

section Courses

variable {location : Text} {spec : RunnerSpec} {session : Session}

/-- The group of the spec is added, and the removal takes it away, whoever had added it first. -/
theorem liveAfter_undone {diskSizeGb : Int}
    (ready : (prepared location spec session).outcome = .ok diskSizeGb)
    (compensated : Compensated ((prepared location spec session).events ++
      ((filled location spec session diskSizeGb).events ++
        (removed location spec session diskSizeGb).events))) (groups : Finset Text) :
    liveAfter groups ((prepared location spec session).events ++
      ((filled location spec session diskSizeGb).events ++
        (removed location spec session diskSizeGb).events)) = groups.erase spec.name := by
  have fetched := compensated (deletion spec.name) (by simp [(undoneBy_removed diskSizeGb).once])
  have succeeds : .fetched (deletion spec.name) true ∈
      (removed location spec session diskSizeGb).events := mem_removed rfl fetched
  calc
    _ = liveAfter (insert spec.name groups) (removed location spec session diskSizeGb).events := by
        rw [liveAfter_append, liveAfter_append, liveAfter_prepared ready, liveAfter_filled]
    _ = (insert spec.name groups).erase spec.name := liveAfter_removed succeeds _
    _ = groups.erase spec.name := Finset.erase_insert_eq_erase ..

/-- A creation that fails, and whose deletions succeeded, leaves the live groups alone unless it
created its group. Then it takes the group of its name away, but for the failures that come late,
after which it leaves the group behind. -/
theorem Course.groups_of_failed {execution : Execution RunnerInstance}
    (course : Course location spec session execution) {failure : Failure}
    (fails : execution.outcome = .error (.failed failure))
    (compensated : Compensated execution.events) (groups : Finset Text) :
    (¬ GroupCreated execution.events → liveAfter groups execution.events = groups) ∧
    (GroupCreated execution.events →
      deletions execution.events = [deletion spec.name] ∧
        liveAfter groups execution.events = groups.erase spec.name ∨
      deletions execution.events = [] ∧ failure ∈ lateFailures ∧
        liveAfter groups execution.events = insert spec.name groups) := by
  cases course with
  | unprepared stops =>
      refine ⟨fun _ => liveAfter_unprepared stops groups, fun created => ?_⟩
      obtain ⟨diskSizeGb, ready⟩ := (groupCreated_prepared_iff ..).1 created
      rw [stops] at ready
      cases ready
  | failed ready _ removes =>
      refine ⟨fun unmade => absurd (groupCreated_of_ready _ ready) unmade, fun _ => Or.inl ?_⟩
      exact ⟨(undoneBy_removed _).once, liveAfter_undone ready compensated groups⟩
  | interrupted ready _ stops =>
      refine ⟨fun unmade => absurd (groupCreated_of_ready _ ready) unmade, fun _ => Or.inl ?_⟩
      exact ⟨(undoneBy_removed _).once, liveAfter_undone ready compensated groups⟩
  | hung ready hangs => cases fails
  | unreported ready fills refuses =>
      refine ⟨fun unmade => absurd (groupCreated_of_ready _ ready) unmade, fun _ => Or.inr ?_⟩
      cases fails
      refine ⟨?_, mem_lateFailures refuses, ?_⟩
      · simp [deletions_eq_nil within_prepared, deletions_eq_nil (within_filled _)]
      · rw [liveAfter_append, liveAfter_prepared ready, liveAfter_filled]
  | created ready fills reads => cases fails

theorem Course.groups_of_ok {execution : Execution RunnerInstance}
    (course : Course location spec session execution) {made : RunnerInstance}
    (returns : execution.outcome = .ok made) (groups : Finset Text) :
    liveAfter groups execution.events = insert spec.name groups := by
  cases course with
  | created ready fills reads =>
      rw [liveAfter_append, liveAfter_append, liveAfter_prepared ready, liveAfter_filled]
      rfl
  | _ => cases returns

end Courses

section Creations

variable {controllerId : Text} {config : ProviderConfig} {bootstrap : Bootstrap}
  {session : Session}

theorem create_groups_of_failed {failure : Failure}
    (fails : (create controllerId config bootstrap session).outcome = .error (.failed failure))
    (compensated : Compensated (create controllerId config bootstrap session).events)
    (groups : Finset Text) :
    let events := (create controllerId config bootstrap session).events
    (¬ GroupCreated events → liveAfter groups events = groups) ∧
    (GroupCreated events →
      deletions events = [deletion bootstrap.name] ∧
        liveAfter groups events = groups.erase bootstrap.name ∨
      deletions events = [] ∧ failure ∈ lateFailures ∧
        liveAfter groups events = insert bootstrap.name groups) := by
  cases accepts : admitted controllerId config bootstrap with
  | error refusal =>
      rw [create_of_refused accepts]
      refine ⟨fun _ => rfl, ?_⟩
      rintro ⟨_, _, impossible⟩
      cases impossible
  | ok spec =>
      rw [create_of_admitted accepts] at fails compensated ⊢
      rw [← name_of_admitted accepts]
      exact (createFrom_course ..).groups_of_failed fails compensated groups

theorem create_groups_of_ok {made : RunnerInstance}
    (returns : (create controllerId config bootstrap session).outcome = .ok made)
    (groups : Finset Text) :
    liveAfter groups (create controllerId config bootstrap session).events =
      insert bootstrap.name groups := by
  cases accepts : admitted controllerId config bootstrap with
  | error refusal =>
      rw [create_of_refused accepts] at returns
      cases returns
  | ok spec =>
      rw [create_of_admitted accepts] at returns ⊢
      rw [← name_of_admitted accepts]
      exact (createFrom_course ..).groups_of_ok returns groups

end Creations

end Provision

end RunnerCloud
