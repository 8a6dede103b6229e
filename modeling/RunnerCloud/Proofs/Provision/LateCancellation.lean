import Mathlib.Data.List.TakeWhile
import RunnerCloud.Proofs.Background.Interleaving
import RunnerCloud.Proofs.Provision.Cancellation
import RunnerCloud.Proofs.Provision.Rollback

/-!
Contract: what a creation leaves behind when the task that awaits it is cancelled.

Owns:
- `Keeps`, the outcomes with which a creation keeps its group, and that such a creation has not
  heard of a cancellation;
- `cancelled_task_leaves`: when the caller receives the cancellation, the creation is over, and it
  has deleted the group it created, once, unless it keeps that group;
- `returned_runner_lost`: a cancellation that comes behind the last look at the token costs the
  caller the runner, and `cancelled_task_keeps_group`, where that leaves a group behind.

Does not own: what a creation does once it has heard of a cancellation.
-/

namespace RunnerCloud.Provision

open Background Operation

/-- The group of a creation stays with an instance, and with a failure that comes late. -/
def Keeps : Except Stop RunnerInstance → Prop
  | .ok _ => True
  | .error reason => ∃ failure ∈ lateFailures, reason = .failed failure

section Parts

variable {location : Text} {spec : RunnerSpec} {session : Session} {diskSizeGb : Int}

/-- When everything is created, nothing was heard of a cancellation. -/
theorem unheard_of_filled {address : Value}
    (ready : (prepared location spec session).outcome = .ok diskSizeGb)
    (fills : (filled location spec session diskSizeGb).outcome = .ok address) :
    .tokenSet ∉ (prepared location spec session).events ∧
      .tokenSet ∉ (filled location spec session diskSizeGb).events := by
  have unset : (filled location spec session diskSizeGb).session.token.isSet = false :=
    resources_endsUnset (runIn spec session) location spec diskSizeGb _ address fills
  have inside := (filled_progress ready).token
  have before := (prepared_progress location spec session).token
  rw [unset] at inside
  constructor
  · intro heard
    exact absurd (inside.2 (Or.inl (before.2 (Or.inr heard)))) (by simp)
  · intro heard
    exact absurd (inside.2 (Or.inr heard)) (by simp)

/-- A creation that is over, and that created its group, has deleted it once, or it keeps it and has
not heard of a cancellation. -/
theorem Course.leaves {execution : Execution RunnerInstance}
    (course : Course location spec session execution) (ends : execution.outcome ≠ .error .hung)
    (created : GroupCreated execution.events) :
    deletions execution.events = [deletion spec.name] ∧ ¬ Keeps execution.outcome ∨
      deletions execution.events = [] ∧ Keeps execution.outcome ∧
        .tokenSet ∉ execution.events := by
  cases course with
  | unprepared stops =>
      obtain ⟨diskSizeGb, ready⟩ := (groupCreated_prepared_iff ..).1 created
      rw [stops] at ready
      cases ready
  | failed ready fails removes =>
      refine Or.inl ⟨(undoneBy_removed _).once, ?_⟩
      rintro ⟨_, late, same⟩
      cases same
      exact filled_not_late ready fails late
  | interrupted ready fails stops =>
      refine Or.inl ⟨(undoneBy_removed _).once, ?_⟩
      rintro ⟨_, late, same⟩
      rcases (removed_removes location spec session _).ends with ended | ⟨_, interrupted, _⟩
      · rw [ended] at stops
        cases stops
      · rw [interrupted] at stops
        cases stops
        cases same
        simp [lateFailures, addressFailure] at late
  | hung ready hangs => exact absurd rfl ends
  | unreported ready fills refuses =>
      obtain ⟨unheardBefore, unheardInside⟩ := unheard_of_filled ready fills
      refine Or.inr ⟨?_, ⟨_, mem_lateFailures refuses, rfl⟩, ?_⟩
      · simp [deletions_eq_nil within_prepared, deletions_eq_nil (within_filled _)]
      · simp [unheardBefore, unheardInside]
  | created ready fills reads =>
      obtain ⟨unheardBefore, unheardInside⟩ := unheard_of_filled ready fills
      refine Or.inr ⟨?_, True.intro, ?_⟩
      · simp [deletions_eq_nil within_prepared, deletions_eq_nil (within_filled _)]
        rfl
      · simp [unheardBefore, unheardInside]

theorem Course.unheard_of_ok {execution : Execution RunnerInstance}
    (course : Course location spec session execution) {runner : RunnerInstance}
    (returns : execution.outcome = .ok runner) : .tokenSet ∉ execution.events := by
  cases course with
  | created ready fills reads =>
      obtain ⟨unheardBefore, unheardInside⟩ := unheard_of_filled ready fills
      simp [unheardBefore, unheardInside]
  | _ => cases returns

end Parts

/-! ## The task that awaits a creation -/

/-- When a caller that awaits a creation receives the cancellation of its task, wherever between the
steps of the creation that cancellation came, the creation is over. A group that it created was then
deleted once, exactly unless the creation has the outcome of one that keeps its group. Such a
creation has not heard of the cancellation. -/
theorem cancelled_task_leaves (controllerId : Text) (config : ProviderConfig)
    (bootstrap : Bootstrap) (session : Session) {joint : Joint RunnerInstance}
    (reached : Joint.Reached (create controllerId config bootstrap session) joint)
    (receives : joint.task.received? = some .cancellation) :
    let run := create controllerId config bootstrap session
    joint.done = run.events ∧
    ∀ name location tags, .returned (.createGroup name location tags) ∈ joint.done →
      deletions joint.done = [deletion name] ∧ ¬ Keeps run.outcome ∨
        deletions joint.done = [] ∧ Keeps run.outcome ∧ .tokenSet ∉ joint.done := by
  dsimp only
  obtain ⟨done, outcome, gives, -⟩ := reached.finished receives
  have ends := (Execution.ending_iff _).1 ⟨outcome, gives⟩
  refine ⟨done, ?_⟩
  rw [done]
  intro name location tags returned
  cases accepts : admitted controllerId config bootstrap with
  | error refusal =>
      rw [create_of_refused accepts] at returned
      cases returned
  | ok spec =>
      rw [create_of_admitted accepts] at ends returned ⊢
      have own : name = spec.name := by
        refine Classical.byContradiction fun other => ?_
        exact (concerns_createFrom config.location spec other session).not_mem rfl
          (fun spared => spared (Or.inl ⟨location, tags, rfl⟩)) returned
      rw [own]
      exact (createFrom_course config.location spec session).leaves ends ⟨_, rfl, returned⟩

theorem cancelled_task_leaves_of_cancellingSubnet :
    ∃ joint, Joint.Reached (sampleRun cancellingSubnet) joint ∧
      joint.task.received? = some .cancellation ∧ .returned sampleGroup ∈ joint.done ∧
      deletions joint.done = [deletion "runner-1"] := by
  have unheard : Event.tokenSet ∉
      (sampleRun cancellingSubnet).events.takeWhile (· != .tokenSet) := by
    intro heard
    simpa using List.mem_takeWhile_imp heard
  have ends : (sampleRun cancellingSubnet).outcome ≠ .error .hung := by
    decide +kernel
  have created : .returned sampleGroup ∈ (sampleRun cancellingSubnet).events := by
    decide +kernel
  have heard : .tokenSet ∈ (sampleRun cancellingSubnet).events := by
    decide +kernel
  obtain ⟨outcome, gives⟩ := (Execution.ending_iff _).2 ends
  obtain ⟨joint, reached, receives, -, done⟩ :=
    Joint.exists_cancelledBehind List.takeWhile_append_dropWhile.symm unheard gives
  obtain ⟨-, leaves⟩ := cancelled_task_leaves "controller-1" sampleConfig sampleBootstrap
    (sampleSession cancellingSubnet) reached receives
  rw [← done] at created heard
  refine ⟨joint, reached, receives, created, ?_⟩
  rcases leaves _ _ _ created with ⟨once, -⟩ | ⟨-, -, unheardOf⟩
  · exact once
  · exact absurd heard unheardOf

/-- Every creation that returns a runner can be cancelled too late: behind everything that the
worker does, and before the task gets to run. Then the caller does not receive the runner. -/
theorem returned_runner_lost (controllerId : Text) (config : ProviderConfig)
    (bootstrap : Bootstrap) (session : Session) {runner : RunnerInstance}
    (returns : (create controllerId config bootstrap session).outcome = .ok runner) :
    ∃ joint, Joint.Reached (create controllerId config bootstrap session) joint ∧
      joint.task.received? = some .cancellation ∧ joint.task.worker = some (.ok runner) ∧
      joint.done = (create controllerId config bootstrap session).events := by
  have unheard : .tokenSet ∉ (create controllerId config bootstrap session).events := by
    cases accepts : admitted controllerId config bootstrap with
    | error refusal =>
        rw [create_of_refused accepts]
        simp
    | ok spec =>
        rw [create_of_admitted accepts] at returns ⊢
        exact (createFrom_course config.location spec session).unheard_of_ok returns
  have gives : .workerEnded (.ok runner) ∈
      (create controllerId config bootstrap session).ending := by
    simp [Execution.ending, returns]
  exact Joint.exists_cancelledBehind (List.append_nil _).symm unheard gives

/-- A cloud in which nothing goes wrong. -/
def acceptingCloud : CloudScript :=
  fun _ => []

theorem cancelled_task_keeps_group :
    ∃ joint runner, Joint.Reached (sampleRun acceptingCloud) joint ∧
      joint.task.received? = some .cancellation ∧ joint.task.worker = some (.ok runner) ∧
      .returned sampleGroup ∈ joint.done ∧ deletions joint.done = [] := by
  have created : .returned sampleGroup ∈ (sampleRun acceptingCloud).events := by
    decide +kernel
  have kept : deletions (sampleRun acceptingCloud).events = [] := by
    decide +kernel
  obtain ⟨runner, returns⟩ : ∃ runner, (sampleRun acceptingCloud).outcome = .ok runner :=
    exists_of_isSome (by decide +kernel)
  obtain ⟨joint, reached, receives, worker, done⟩ := returned_runner_lost "controller-1"
    sampleConfig sampleBootstrap (sampleSession acceptingCloud) returns
  refine ⟨joint, runner, reached, receives, worker, ?_, ?_⟩
  · rw [done]
    exact created
  · rw [done]
    exact kept

end RunnerCloud.Provision
