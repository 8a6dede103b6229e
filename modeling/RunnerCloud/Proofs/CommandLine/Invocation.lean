import RunnerCloud.CommandLine.Command
import RunnerCloud.Proofs.Provision.Admission
import RunnerCloud.Proofs.Provision.Reporting

/-!
Contract: how a command comes to its operation.

Owns:
- `Invocation`, the ways in which a command runs: it is refused with nothing done, or it performs the
  one operation of the provider that it stands for, and `run_invocation`: every command runs in one
  of them;
- `Invocation.events_of_usage`: a failure that blames the host for the way in which it called the
  command comes with nothing done.

Does not own: what the host is shown.
-/

namespace RunnerCloud

open Operation

variable {α β ε : Type}

namespace Execution

/-- The run, with its result in another form. -/
def mapped (change : α → β) (execution : Execution α) : Execution β :=
  ⟨execution.outcome.map change, execution.events, execution.session⟩

variable {execution : Execution α} {change : α → β}

theorem mapped_ok_iff {result : β} :
    (execution.mapped change).outcome = .ok result ↔
      ∃ value, execution.outcome = .ok value ∧ change value = result := by
  unfold mapped
  cases execution.outcome <;> simp [Except.map]

theorem mapped_error_iff {reason : Stop} :
    (execution.mapped change).outcome = .error reason ↔ execution.outcome = .error reason := by
  unfold mapped
  cases execution.outcome <;> simp [Except.map]

end Execution

namespace Operation

theorem bind_result_apply (operation : Operation α) (change : α → β) (session : Session) :
    (operation >>= fun value => pure (change value)) session = (operation session).mapped change := by
  unfold Execution.mapped
  cases ending : (operation session).outcome with
  | ok value =>
      rw [bind_apply_of_ok ending]
      simp [Except.map]
  | error reason =>
      rw [bind_apply_of_error ending]
      rfl

/-- What was decided before a run decides how it goes on. -/
theorem ofExcept_bind_apply (wrap : ε → Failure) (given : Except ε α) (next : α → Operation β)
    (session : Session) :
    (ofExcept wrap given >>= next) session =
      match given with
      | .ok value => next value session
      | .error problem => ⟨.error (.failed (wrap problem)), [], session⟩ := by
  cases given <;> rfl

end Operation

namespace CommandLine

/-! ## Commands and their operations -/

/-- What a command does that names an instance and gives nothing. -/
def alteration? : Command → Option (Provider → Text → Operation Unit)
  | .deleteInstance => some Provider.deleteInstance
  | .stop => some Provider.stopInstance
  | .start => some Provider.startInstance
  | _ => none

/-- The ways in which a command runs. -/
inductive Invocation (host : Host) (session : Session) : Execution CommandResult → Prop
  /-- Nothing is done. -/
  | refused (failure : Failure) : Invocation host session ⟨.error (.failed failure), [], session⟩
  | version (asked : commandOf host = .ok .getVersion) :
      Invocation host session ⟨.ok (.version CommandLine.version), [], session⟩
  | removed {provider : Provider} (asked : commandOf host = .ok .removeAllInstances)
      (provides : providerOf host = .ok provider) :
      Invocation host session
        ((provider.removeAllInstances session).mapped fun _ => CommandResult.nothing)
  | created {provider : Provider} {bootstrap : Bootstrap}
      (asked : commandOf host = .ok .createInstance) (provides : providerOf host = .ok provider)
      (requests : requestOf host = .ok bootstrap) :
      Invocation host session
        ((provider.createInstance bootstrap session).mapped CommandResult.single)
  | found {provider : Provider} {name : Text} (asked : commandOf host = .ok .getInstance)
      (provides : providerOf host = .ok provider)
      (named : require host instanceVariable = .ok name) :
      Invocation host session ((provider.getInstance name session).mapped CommandResult.single)
  | listed {provider : Provider} {poolId : Text} (asked : commandOf host = .ok .listInstances)
      (provides : providerOf host = .ok provider)
      (named : require host poolVariable = .ok poolId) :
      Invocation host session
        ((provider.listInstances poolId session).mapped CommandResult.several)
  | altered {command : Command} {alter : Provider → Text → Operation Unit} {provider : Provider}
      {name : Text} (asked : commandOf host = .ok command) (alters : alteration? command = some alter)
      (provides : providerOf host = .ok provider)
      (named : require host instanceVariable = .ok name) :
      Invocation host session ((alter provider name session).mapped fun _ => CommandResult.nothing)

/-- What the host has to give is given, or the command is refused without it. -/
theorem Invocation.of_given {host : Host} {session : Session} {given : Except Failure α}
    {next : α → Operation CommandResult}
    (continues : ∀ value, given = .ok value → Invocation host session (next value session)) :
    Invocation host session ((ofExcept id given >>= next) session) := by
  rw [ofExcept_bind_apply]
  cases given with
  | error failure => exact .refused failure
  | ok value => exact continues value rfl

theorem perform_alteration {host : Host} {provider : Provider} {command : Command}
    {alter : Provider → Text → Operation Unit} (alters : alteration? command = some alter) :
    perform host provider command = ofExcept id (require host instanceVariable) >>= fun name =>
      alter provider name >>= fun _ => pure .nothing := by
  cases command <;> cases alters <;> rfl

theorem perform_invocation {host : Host} {session : Session} {provider : Provider}
    {command : Command} (asked : commandOf host = .ok command)
    (provides : providerOf host = .ok provider) :
    Invocation host session (perform host provider command session) := by
  cases alters : alteration? command with
  | some alter =>
      rw [perform_alteration alters]
      refine .of_given fun name named => ?_
      rw [bind_result_apply]
      exact .altered asked alters provides named
  | none =>
      cases command with
      | createInstance =>
          refine .of_given fun bootstrap requests => ?_
          rw [bind_result_apply]
          exact .created asked provides requests
      | getInstance =>
          refine .of_given fun name named => ?_
          rw [bind_result_apply]
          exact .found asked provides named
      | listInstances =>
          refine .of_given fun poolId named => ?_
          rw [bind_result_apply]
          exact .listed asked provides named
      | removeAllInstances =>
          show Invocation host session ((provider.removeAllInstances >>= fun _ => pure _) session)
          rw [bind_result_apply]
          exact .removed asked provides
      | getVersion => exact .version asked
      | deleteInstance | stop | start => cases alters

theorem run_invocation (host : Host) (session : Session) :
    Invocation host session (run host session) := by
  refine .of_given fun command asked => ?_
  by_cases version : command = .getVersion
  · rw [if_pos (by simpa using version)]
    exact .version (version ▸ asked)
  · rw [if_neg (by simpa using version)]
    exact .of_given fun provider provides => perform_invocation asked provides

/-- A command for which the provider can be built is performed. -/
theorem run_of_provides {host : Host} {command : Command} {provider : Provider}
    (asked : commandOf host = .ok command) (needs : command ≠ .getVersion)
    (provides : providerOf host = .ok provider) (session : Session) :
    run host session = perform host provider command session := by
  unfold run
  rw [ofExcept_bind_apply, asked]
  dsimp only
  rw [if_neg (by simpa using needs), ofExcept_bind_apply, provides]

/-! ## Blame -/

section Blame

/-- The failure does not blame the host for the way in which it called. -/
def Blameless (failure : Failure) : Prop :=
  failure.category.isWithin .usage = false

theorem blameless_fault (fault : Fault) : Blameless (.fault fault) := by
  rcases fault with ⟨kind, _⟩ | _ | _ | _
  · cases kind <;> rfl
  all_goals rfl

theorem blameless_cloud (problem : CloudProblem) : Blameless (.cloud problem) := by
  show (Failure.cloudCategory problem).isWithin .usage = false
  unfold Failure.cloudCategory
  split <;> rfl

theorem blameless_reported {failure : Failure} (blameless : Blameless failure)
    (action : CloudAction) : Blameless (Cloud.reported action failure) := by
  unfold Cloud.reported
  split
  · exact blameless_cloud _
  · exact blameless

/-- Every fault is permitted, so that the operation is confined in every session. -/
theorem blameless_of_confined {operation : Operation α}
    (confined : Confined anything Blameless anything operation) {session : Session}
    {failure : Failure} (fails : (operation session).outcome = .error (.failed failure)) :
    Blameless failure :=
  (confined session fun _ _ _ => ⟨fun _ _ => trivial, fun _ _ => trivial, fun _ _ => trivial,
    fun _ _ => trivial⟩).1 failure fails

theorem reporting_blameless : Provision.Reporting anything Blameless Blameless where
  raised := fun fault _ => blameless_fault fault
  cancelled := rfl
  reported := fun action _ blameless => blameless_reported blameless action

theorem blameless_misused (misuse : Misuse) : Blameless (.misused misuse) := by
  cases misuse <;> rfl

theorem blameless_refused (item : Value) (failure : Failure)
    (refuses : Provision.RefusedFor item failure) : Blameless failure := by
  rcases RunnerInstance.refusal_cases refuses with ⟨problem, rfl⟩ | ⟨misuse, rfl⟩ | rfl
  · rfl
  · exact blameless_misused misuse
  · rfl

theorem confined_alteration {command : Command} {alter : Provider → Text → Operation Unit}
    (alters : alteration? command = some alter) (provider : Provider) (name : Text) :
    Confined anything Blameless anything (alter provider name) := by
  cases command with
  | deleteInstance =>
      cases alters
      exact reporting_blameless.delete name
  | stop =>
      cases alters
      exact reporting_blameless.stop name
  | start =>
      cases alters
      exact reporting_blameless.start name
  | _ => cases alters

/-- A creation finds fault with the request, with the cloud or with the size of a disk. -/
theorem blameless_create {controllerId : Text} {config : ProviderConfig} {bootstrap : Bootstrap}
    {session : Session} {failure : Failure}
    (fails : (Provision.create controllerId config bootstrap session).outcome =
      .error (.failed failure)) : Blameless failure := by
  cases accepts : Provision.admitted controllerId config bootstrap with
  | error refusal =>
      rw [Provision.create_of_refused accepts] at fails
      cases fails
      have refused := Provision.refusal_of_refused accepts
      unfold Blameless
      generalize failure.category = category at refused ⊢
      cases refused <;> rfl
  | ok spec =>
      rw [Provision.create_of_admitted accepts] at fails
      rcases (Provision.createFrom_course config.location spec session).failing fails with
        operational | ⟨capacity, _⟩
      · exact operational.not_within (by decide)
      · show failure.category.isWithin .usage = false
        rw [capacity]
        rfl

/-- A command that is blamed for the way in which it was called has done nothing. -/
theorem Invocation.events_of_usage {host : Host} {session : Session}
    {execution : Execution CommandResult} (invocation : Invocation host session execution)
    {failure : Failure} (fails : execution.outcome = .error (.failed failure))
    (usage : failure.category.isWithin .usage = true) : execution.events = [] := by
  have blamed : ¬ Blameless failure := by
    unfold Blameless
    simp [usage]
  cases invocation with
  | refused | version => rfl
  | removed asked provides => rfl
  | created asked provides requests =>
      have failed := Execution.mapped_error_iff.1 fails
      exact absurd (blameless_create failed) blamed
  | found asked provides named =>
      have failed := Execution.mapped_error_iff.1 fails
      exact absurd (blameless_of_confined (reporting_blameless.get _ blameless_refused) failed) blamed
  | @listed _ poolId asked provides named =>
      have failed := Execution.mapped_error_iff.1 fails
      have confined := reporting_blameless.listPool poolId blameless_misused blameless_refused
      exact absurd (blameless_of_confined confined failed) blamed
  | altered asked alters provides named =>
      have failed := Execution.mapped_error_iff.1 fails
      exact absurd (blameless_of_confined (confined_alteration alters _ _) failed) blamed

end Blame

end CommandLine

end RunnerCloud
