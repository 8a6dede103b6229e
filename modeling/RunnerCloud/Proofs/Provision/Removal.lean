import RunnerCloud.Proofs.Provision.Steps
import RunnerCloud.Proofs.Provision.Subjects
import RunnerCloud.Proofs.Run.Completion

/-!
Contract: the removal of a resource group after a failure.

Owns:
- `Removes`, what holds of every run of a removal: it calls for the deletion once and for nothing
  else, it does not wait, it fetches the result of a deletion that was started whether or not the
  cancel token is set, and it fails only by passing on an interrupt of the deletion.

Does not own: when a creation removes its group.
-/

namespace RunnerCloud.Provision

open Operation

theorem deleteGroup_completes (name : Text) (session : Session) :
    (Cloud.deleteGroup name true session).Completes (deletion name)
      fun fault => Cloud.reported (.deleteGroup name) (.fault fault) := by
  unfold Cloud.deleteGroup
  rw [guarded_apply]
  exact ((complete_completes _ session).map fun _ => ()).renamed _

theorem interrupt_of_reported {action : CloudAction} {fault : Fault}
    (interrupts : (Cloud.reported action (.fault fault)).isInterrupt = true) :
    ∃ text, fault = .interrupt text := by
  cases fault with
  | interrupt text => exact ⟨text, rfl⟩
  | service kind text =>
      have error : (Failure.cloud (.failed action kind text)).isInterrupt = false := by
        cases kind <;> rfl
      rw [Cloud.reported, error] at interrupts
      cases interrupts
  | runtime text => cases interrupts
  | badValue text => cases interrupts

/-- What holds of every run of a removal. -/
structure Removes (name : Text) (execution : Execution Unit) : Prop where
  begins : ∃ record rest,
    execution.events = .logged record :: .called (deletion name) :: rest ∧ Event.Quiet rest
  within : Event.Within (· = deletion name) execution.events
  fetches : .returned (deletion name) ∈ execution.events →
    ∃ succeeded, .fetched (deletion name) succeeded ∈ execution.events
  ends : execution.outcome = .ok () ∨ ∃ text,
    execution.outcome = .error (.failed (.fault (.interrupt text))) ∧
      .raised (deletion name) (.interrupt text) ∈ execution.events

/-- A removal, but for its log, is the deletion; of its failures only interrupts are passed on. -/
theorem rollback_apply (run : CreateRun) (session : Session) :
    ∃ record logged, (run.rollback session).events =
        .logged record :: ((Cloud.deleteGroup run.name true session).events ++ logged) ∧
      (∀ event ∈ logged, ∃ warning, event = .logged warning) ∧
      ((run.rollback session).outcome = .ok () ∨ ∃ failure,
        (Cloud.deleteGroup run.name true session).outcome = .error (.failed failure) ∧
          failure.isInterrupt = true ∧ (run.rollback session).outcome = .error (.failed failure)) := by
  let handle : Failure → Operation Unit := fun failure =>
    if failure.isInterrupt then fail failure
    else run.log LogLevel.warning (run.removalFailed failure) (some CreateRun.rollbackStep)
  let record := run.record LogLevel.info "provisioning failed, removing resource group"
    (some CreateRun.rollbackStep)
  have unfolded : run.rollback session =
      ⟨((Cloud.deleteGroup run.name true).recover handle session).outcome,
        .logged record :: ((Cloud.deleteGroup run.name true).recover handle session).events,
        ((Cloud.deleteGroup run.name true).recover handle session).session⟩ := rfl
  rw [unfolded]
  rcases ending : (Cloud.deleteGroup run.name true session).outcome with (failure | _) | _
  · rw [recover_apply_of_failed ending]
    by_cases interrupts : failure.isInterrupt = true
    · have passed : ∀ session, handle failure session =
          ⟨.error (.failed failure), [], session⟩ := by
        intro session
        simp only [handle, if_pos interrupts]
        rfl
      rw [passed]
      exact ⟨record, [], rfl, by simp, Or.inr ⟨failure, rfl, interrupts, rfl⟩⟩
    · let warning := run.record LogLevel.warning (run.removalFailed failure)
        (some CreateRun.rollbackStep)
      have warned : ∀ session, handle failure session = ⟨.ok (), [.logged warning], session⟩ := by
        intro session
        simp only [handle, if_neg interrupts]
        rfl
      rw [warned]
      exact ⟨record, [.logged warning], rfl, by simp, Or.inl rfl⟩
  · rw [recover_apply_of_hung ending]
    obtain ⟨fault, impossible, _⟩ := (deleteGroup_completes run.name session).stops _ ending
    cases impossible
  · rw [recover_apply_of_ok ending]
    exact ⟨record, [], by simp, by simp, Or.inl ending⟩

theorem rollback_removes (run : CreateRun) (session : Session) :
    Removes run.name (run.rollback session) := by
  obtain ⟨record, logged, events, records, ends⟩ := rollback_apply run session
  have completes := deleteGroup_completes run.name session
  obtain ⟨rest, begins, quiet⟩ := completes.begins
  have quietRecords : Event.Quiet logged := by
    intro event member
    obtain ⟨warning, rfl⟩ := records event member
    rfl
  exact
    { begins := by
        refine ⟨record, rest ++ logged, ?_, ?_⟩
        · rw [events, begins, List.cons_append]
        · rw [Event.quiet_append]
          exact ⟨quiet, quietRecords⟩
      within := by
        have withinRecords : Event.Within (· = deletion run.name) logged := by
          intro event member request subject
          obtain ⟨warning, rfl⟩ := records event member
          cases subject
        rw [events, Event.within_cons, Event.within_append]
        refine ⟨by simp [Event.subject?], concerns_deleteGroup run.name session, withinRecords⟩
      fetches := by
        intro returned
        have inDeletion : .returned (deletion run.name) ∈
            (Cloud.deleteGroup run.name true session).events := by
          rw [events] at returned
          simp at returned
          rcases returned with inDeletion | inRecords
          · exact inDeletion
          · obtain ⟨warning, impossible⟩ := records _ inRecords
            cases impossible
        obtain ⟨succeeded, fetched⟩ := completes.fetches inDeletion
        exact ⟨succeeded, by rw [events]; simp [fetched]⟩
      ends := by
        rcases ends with ended | ⟨failure, fails, interrupts, ended⟩
        · exact Or.inl ended
        · obtain ⟨fault, same, raised⟩ := completes.stops _ fails
          cases same
          obtain ⟨text, rfl⟩ := interrupt_of_reported interrupts
          exact Or.inr ⟨text, ended, by rw [events]; simp [raised]⟩ }

theorem Removes.requests {name : Text} {execution : Execution Unit}
    (removes : Removes name execution) : Event.requests execution.events = [deletion name] := by
  obtain ⟨record, rest, begins, quiet⟩ := removes.begins
  rw [begins, Event.requests_cons, Event.requests_cons, quiet.requests_eq_nil]
  rfl

end RunnerCloud.Provision
