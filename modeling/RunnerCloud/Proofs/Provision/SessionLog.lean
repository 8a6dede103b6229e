import RunnerCloud.Proofs.Log.Serials
import RunnerCloud.Proofs.Provision.History
import RunnerCloud.Proofs.Provision.RunLog

/-!
Contract: the logs of the calls of a session, and whose records are whose.

Owns:
- `Execution.Numbered`, by which the records of a run carry serials that the run has drawn, and that
  every call of a provider runs so;
- `Standing.logs`, the logs of a history of calls, call by call;
- `log_mirrors_run`: in every history the log of a creation has the shape of what it did, and no
  record of another call shows its identifier.

Does not own: the logs of other operations than creations.
-/

namespace RunnerCloud

open Operation Provision

variable {α β : Type}

/-! ## Serials -/

/-- The records of a run carry serials that were drawn in it. -/
structure Execution.Numbered (session : Session) (execution : Execution α) : Prop where
  grows : session.nextSerial ≤ execution.session.nextSerial
  drawn : ∀ record ∈ Event.logRecords execution.events, ∃ serial,
    record.correlation = .generated serial ∧ session.nextSerial ≤ serial ∧
      serial < execution.session.nextSerial

/-- What goes on after a run draws further serials. -/
theorem Execution.Numbered.followed {session : Session} {first : Execution α} {second : Execution β}
    {outcome : Except Stop β} (early : first.Numbered session)
    (late : second.Numbered first.session) :
    Execution.Numbered session ⟨outcome, first.events ++ second.events, second.session⟩ := by
  refine ⟨early.grows.trans late.grows, fun record member => ?_⟩
  rw [Event.logRecords_append, List.mem_append] at member
  rcases member with sooner | later
  · obtain ⟨serial, same, low, high⟩ := early.drawn record sooner
    exact ⟨serial, same, low, high.trans_le late.grows⟩
  · obtain ⟨serial, same, low, high⟩ := late.drawn record later
    exact ⟨serial, same, early.grows.trans low, high⟩

namespace Operation

/-- Whatever the cloud answers, the records of the operation carry serials that it draws. -/
def Numbers (operation : Operation α) : Prop :=
  ∀ session, (operation session).Numbered session

/-- What logs nothing has no records to number. -/
theorem Asks.numbers {operation : Operation α} {calls : List Request} (asks : Asks calls operation) :
    Numbers operation := by
  intro session
  refine ⟨(asks session).serial.ge, ?_⟩
  rw [(asks session).silent]
  simp

theorem Numbers.bind {operation : Operation α} {next : α → Operation β} (first : Numbers operation)
    (rest : ∀ value, Numbers (next value)) : Numbers (operation >>= next) := by
  intro session
  cases ending : (operation session).outcome with
  | error reason =>
      rw [bind_apply_of_error ending]
      exact ⟨(first session).grows, (first session).drawn⟩
  | ok value =>
      rw [bind_apply_of_ok ending]
      exact (first session).followed (rest value _)

theorem Numbers.recover {operation : Operation α} {handle : Failure → Operation α}
    (first : Numbers operation) (rest : ∀ failure, Numbers (handle failure)) :
    Numbers (operation.recover handle) := by
  intro session
  rcases ending : (operation session).outcome with (failure | _) | value
  · rw [recover_apply_of_failed ending]
    exact (first session).followed (rest failure _)
  · rw [recover_apply_of_hung ending]
    exact first session
  · rw [recover_apply_of_ok ending]
    exact first session

end Operation

namespace Provision

theorem numbers_create (controllerId : Text) (config : ProviderConfig) (bootstrap : Bootstrap) :
    Numbers (create controllerId config bootstrap) := by
  intro session
  cases accepts : admitted controllerId config bootstrap with
  | error failure =>
      rw [create_of_refused accepts]
      exact ⟨le_refl _, by simp⟩
  | ok spec =>
      rw [create_of_admitted accepts]
      have serial := createFrom_serial config.location spec session
      refine ⟨by omega, fun record member => ?_⟩
      have shared := (createFrom_log config.location spec session).shared record member
      exact ⟨session.nextSerial, shared.2.2, le_refl _, by omega⟩

/-- The one record that a deletion may write carries the serial that it draws for it. -/
theorem numbers_delete (name : Text) : Numbers (Provision.delete name) := by
  rw [delete_eq]
  refine (asks_deleteGroup name).numbers.recover fun failure => ?_
  unfold forgiveMissing
  split
  · intro session
    refine ⟨Nat.le_succ _, fun record member => ?_⟩
    rw [List.mem_singleton.1 member]
    exact ⟨session.nextSerial, rfl, le_refl _, Nat.lt_succ_self _⟩
  · exact (asks_fail failure).numbers

theorem asks_listMachines (poolId : Text) : Asks [.listMachines] (Cloud.listMachines poolId) := by
  refine asks_guarded _ ((asks_list _).bind fun listing => asks_ofExcept.bind fun machines => ?_)
  exact (asks_raise _ _).bind fun _ => asks_pure _

/-- Every call of a provider numbers its records. -/
theorem numbers_action (provider : Provider) (action : ProviderAction) :
    Numbers (action.operation provider) := by
  have completing (action : CloudAction) (request : Request) :
      Asks [request] (Cloud.guarded action do let _ ← Cloud.complete false request) :=
    asks_guarded action ((asks_complete false request).bind fun _ => asks_pure ())
  cases action with
  | create bootstrap => exact (numbers_create _ _ _).bind fun _ => (asks_pure ()).numbers
  | delete name => exact numbers_delete name
  | get name =>
      refine ((asks_guarded _ (asks_submit _)).bind fun _ => asks_ofExcept).bind ?_ |>.numbers
      exact fun _ => asks_pure ()
  | listPool poolId =>
      refine ((asks_listMachines poolId).bind fun _ => asks_ofExcept).bind ?_ |>.numbers
      exact fun _ => asks_pure ()
  | removeAll => exact (asks_pure ()).numbers
  | stop name => exact (completing _ _).numbers
  | start name => exact (completing _ _).numbers

end Provision

/-! ## Logs of histories -/

namespace Standing

/-- What a log of a level keeps of a call that is served next. -/
def logOf (level : Int) (provider : Provider) (standing : Standing) (call : ProviderCall) :
    List LogRecord :=
  (Event.logRecords (call.action.operation provider (standing.sessionOf call.token)).events).filter
    fun record => LogLevel.passes level record.level

/-- What a log of a level keeps of a history, call by call. -/
def logs (level : Int) (provider : Provider) (standing : Standing) :
    List ProviderCall → List (List LogRecord)
  | [] => []
  | call :: later =>
    standing.logOf level provider call :: logs level provider (standing.serve provider call) later

section Histories

variable (level : Int) (provider : Provider) (standing : Standing)

theorem logs_append (earlier later : List ProviderCall) :
    standing.logs level provider (earlier ++ later) =
      standing.logs level provider earlier ++
        (standing.after provider earlier).logs level provider later := by
  induction earlier generalizing standing with
  | nil => rfl
  | cons call earlier inductionHypothesis =>
      exact congrArg (standing.logOf level provider call :: ·) (inductionHypothesis _)

theorem serve_serial (call : ProviderCall) :
    standing.session.nextSerial ≤ (standing.serve provider call).session.nextSerial :=
  (numbers_action provider call.action (standing.sessionOf call.token)).grows

theorem after_serial (history : List ProviderCall) :
    standing.session.nextSerial ≤ (standing.after provider history).session.nextSerial := by
  induction history generalizing standing with
  | nil => exact le_refl _
  | cons call history inductionHypothesis =>
      exact (standing.serve_serial provider call).trans (inductionHypothesis _)

/-- The records of a history carry serials that are drawn in it. -/
theorem logs_numbered (history : List ProviderCall) :
    ∀ log ∈ standing.logs level provider history, ∀ record ∈ log, ∃ serial,
      record.correlation = .generated serial ∧ standing.session.nextSerial ≤ serial ∧
        serial < (standing.after provider history).session.nextSerial := by
  induction history generalizing standing with
  | nil => simp [logs]
  | cons call history inductionHypothesis =>
      have step := standing.serve_serial provider call
      have rest := (standing.serve provider call).after_serial provider history
      rintro log (_ | ⟨_, later⟩) record member
      · obtain ⟨serial, same, low, high⟩ :=
          (numbers_action provider call.action (standing.sessionOf call.token)).drawn record
            (List.mem_of_mem_filter member)
        exact ⟨serial, same, low, high.trans_le rest⟩
      · obtain ⟨serial, same, low, high⟩ := inductionHypothesis _ log later record member
        exact ⟨serial, same, step.trans low, high⟩

end Histories

/-- A log that keeps the finest records keeps all records of a creation. -/
theorem creationLog_logOf (provider : Provider) (standing : Standing) (bootstrap : Bootstrap)
    (token : CancelToken) :
    CreationLog ⟨bootstrap.name, standing.session.nextSerial⟩
      (standing.creation provider bootstrap token)
      (standing.logOf LogLevel.debug provider ⟨.create bootstrap, token⟩) := by
  have mirrors : CreationLog ⟨bootstrap.name, standing.session.nextSerial⟩
      (standing.creation provider bootstrap token)
      (Event.logRecords (standing.creation provider bootstrap token).events) :=
    create_log provider.controllerId provider.config bootstrap (standing.sessionOf token)
  have kept : standing.logOf LogLevel.debug provider ⟨.create bootstrap, token⟩ =
      Event.logRecords (standing.creation provider bootstrap token).events := by
    show List.filter _ (Event.logRecords
      ((provider.createInstance bootstrap >>= fun _ => pure ()) (standing.sessionOf token)).events) = _
    rw [bind_pure_apply]
    refine List.filter_eq_self.2 fun record member => ?_
    obtain ⟨level, message, step, rfl, fine⟩ := mirrors.writes record member
    exact decide_eq_true fine
  rw [kept]
  exact mirrors

/-- **The log mirrors the run.** In every history of calls, the log of a creation, down to the finest
records, is that of what it did: one record for each call but for deletions, announcing it with its
step, in the order of the calls; then one record if it gave an instance; and, if it called for the
deletion of its group, a notice, and a warning exactly when the deletion met a fault that is no
interrupt. All these records carry the name of the instance and one identifier, which no record of
any other call shows. -/
theorem log_mirrors_run (provider : Provider) (start : Standing) (earlier later : List ProviderCall)
    (bootstrap : Bootstrap) (token : CancelToken) :
    let call : ProviderCall := ⟨.create bootstrap, token⟩
    let before := start.after provider earlier
    let sooner := start.logs LogLevel.debug provider earlier
    let own := before.logOf LogLevel.debug provider call
    let afterwards := (before.serve provider call).logs LogLevel.debug provider later
    start.logs LogLevel.debug provider (earlier ++ call :: later) = sooner ++ own :: afterwards ∧
    CreationLog ⟨bootstrap.name, before.session.nextSerial⟩
      (before.creation provider bootstrap token) own ∧
    ∀ mine ∈ own, ∀ log ∈ sooner ++ afterwards, ∀ record ∈ log,
      record.correlation.toValue ≠ mine.correlation.toValue := by
  intro call before sooner own afterwards
  have mirrors := creationLog_logOf provider before bootstrap token
  refine ⟨start.logs_append LogLevel.debug provider earlier (call :: later), mirrors, ?_⟩
  intro mine member log others record shown
  have identifier := (mirrors.shared mine member).2.2
  have drawn : before.session.nextSerial < (before.serve provider call).session.nextSerial := by
    obtain ⟨serial, same, _, high⟩ :=
      (numbers_action provider call.action (before.sessionOf call.token)).drawn mine
        (List.mem_of_mem_filter member)
    rw [identifier] at same
    cases same
    exact high
  rw [identifier]
  rcases List.mem_append.1 others with early | late
  · obtain ⟨serial, same, _, high⟩ := start.logs_numbered _ provider earlier log early record shown
    rw [same, Ne, Correlation.toValue_generated_inj]
    exact high.ne
  · obtain ⟨serial, same, low, _⟩ :=
      (before.serve provider call).logs_numbered _ provider later log late record shown
    rw [same, Ne, Correlation.toValue_generated_inj]
    exact (drawn.trans_le low).ne'

end Standing

end RunnerCloud
