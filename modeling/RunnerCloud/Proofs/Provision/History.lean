import RunnerCloud.Proofs.Provision.Groups
import RunnerCloud.Provider

/-!
Contract: the live resource groups over a history of calls of a provider.

Owns:
- `ProviderCall`, any call with the token that it runs under, and `Standing`, the live groups and
  the session between calls, with the step `serve` and the run `after`;
- `after_groups_of_unnamed`: no history decides about a group whose name none of its calls creates
  or deletes;
- what a creation that fails leaves of the groups that a history has made.

Does not own: the groups that the events of one creation leave.
-/

namespace RunnerCloud

open Provision Operation

/-! ## Calls and standings -/

inductive ProviderAction where
  | create (bootstrap : Bootstrap)
  | delete (name : Text)
  | get (name : Text)
  | listPool (poolId : Text)
  | removeAll
  | stop (name : Text)
  | start (name : Text)

/-- A call, with the token that it runs under. A call that a task awaits makes the same run, under
the token of the task. -/
structure ProviderCall where
  action : ProviderAction
  token : CancelToken

/-- The name of the instance that an action creates or deletes. -/
def ProviderAction.altered? : ProviderAction → Option Text
  | .create bootstrap => some bootstrap.name
  | .delete name => some name
  | _ => none

/-- Performs an action; its result does not matter here. -/
def ProviderAction.operation (provider : Provider) : ProviderAction → Operation Unit
  | .create bootstrap => provider.createInstance bootstrap >>= fun _ => pure ()
  | .delete name => provider.deleteInstance name
  | .get name => provider.getInstance name >>= fun _ => pure ()
  | .listPool poolId => provider.listInstances poolId >>= fun _ => pure ()
  | .removeAll => provider.removeAllInstances
  | .stop name => provider.stopInstance name
  | .start name => provider.startInstance name

/-- The live groups, and the session, between two calls. -/
structure Standing where
  groups : Finset Text
  session : Session

namespace Standing

def start (session : Session) : Standing :=
  ⟨∅, session⟩

def sessionOf (standing : Standing) (token : CancelToken) : Session :=
  standing.session.withToken token

def serve (provider : Provider) (standing : Standing) (call : ProviderCall) : Standing :=
  let execution := call.action.operation provider (standing.sessionOf call.token)
  ⟨liveAfter standing.groups execution.events, execution.session⟩

/-- The standing after a history of calls. -/
def after (provider : Provider) (standing : Standing) (history : List ProviderCall) : Standing :=
  history.foldl (serve provider) standing

/-- The run of a creation that is called for next. -/
def creation (provider : Provider) (standing : Standing) (bootstrap : Bootstrap)
    (token : CancelToken) : Execution RunnerInstance :=
  provider.createInstance bootstrap (standing.sessionOf token)

end Standing

/-! ## What a call has to do with -/

section Subjects

variable {name : Text}

theorem concerns_delete (deleted : Text) : Concerns (· = deletion deleted) (Provision.delete deleted) := by
  refine (concerns_deleteGroup deleted).recover fun failure => ?_
  split
  · refine concerns_drawSerial.bind fun _ => concerns_emit ?_
    simp [Event.subject?]
  · exact concerns_fail _

theorem concerns_get (sought : Text) :
    Concerns (· = .getMachine sought sought) (Provision.get sought) := by
  refine (concerns_guarded _ ?_).bind fun _ => concerns_ofExcept
  apply concerns_submit
  rfl

theorem concerns_listPool (poolId : Text) :
    Concerns (· = .listMachines) (Provision.listPool poolId) := by
  refine (concerns_guarded _ ?_).bind fun _ => concerns_ofExcept
  have listing : Concerns (· = .listMachines) (list .listMachines) := by
    apply concerns_list
    rfl
  refine listing.bind fun listing => concerns_ofExcept.bind fun machines =>
    Concerns.bind ?_ fun _ => concerns_pure _
  apply concerns_raise
  rfl

theorem concerns_stopMachine (stopped : Text) :
    Concerns (· = .deallocateMachine stopped stopped) (Provision.stop stopped) := by
  refine concerns_guarded _ (Concerns.bind ?_ fun _ => concerns_pure ())
  apply concerns_complete
  rfl

theorem concerns_startMachine (started : Text) :
    Concerns (· = .startMachine started started) (Provision.start started) := by
  refine concerns_guarded _ (Concerns.bind ?_ fun _ => concerns_pure ())
  apply concerns_complete
  rfl

theorem concerns_create (controllerId : Text) (config : ProviderConfig) {bootstrap : Bootstrap}
    (other : name ≠ bootstrap.name) :
    Concerns (¬ AltersGroup name ·) (create controllerId config bootstrap) := by
  cases accepts : admitted controllerId config bootstrap with
  | error failure =>
      intro session
      rw [create_of_refused accepts]
      exact Event.within_nil
  | ok spec =>
      rw [create_of_admitted accepts]
      refine concerns_createFrom config.location spec ?_
      rwa [name_of_admitted accepts]

/-- An action has to do with the group of no name but the one that it creates or deletes. -/
theorem concerns_action (provider : Provider) {action : ProviderAction}
    (unnamed : action.altered? ≠ some name) :
    Concerns (¬ AltersGroup name ·) (action.operation provider) := by
  have discarding {α : Type} {operation : Operation α}
      (concerns : Concerns (¬ AltersGroup name ·) operation) :
      Concerns (¬ AltersGroup name ·) (operation >>= fun _ => pure ()) :=
    concerns.bind fun _ => concerns_pure ()
  have harmless {α : Type} {operation : Operation α} {request : Request}
      (concerns : Concerns (· = request) operation) (keeps : ¬ AltersGroups request) :
      Concerns (¬ AltersGroup name ·) operation := by
    refine concerns.mono ?_
    rintro _ rfl alters
    exact keeps alters.altersGroups
  cases action with
  | create bootstrap =>
      refine discarding (concerns_create _ _ ?_)
      rintro rfl
      exact unnamed rfl
  | delete deleted =>
      refine (concerns_delete deleted).mono ?_
      rintro request rfl
      refine not_altersGroup_deletion ?_
      rintro rfl
      exact unnamed rfl
  | get sought =>
      exact discarding (harmless (concerns_get sought) (by simp [AltersGroups, Request.method]))
  | listPool poolId =>
      exact discarding (harmless (concerns_listPool poolId) (by simp [AltersGroups, Request.method]))
  | removeAll => exact concerns_pure ()
  | stop stopped =>
      exact harmless (concerns_stopMachine stopped) (by simp [AltersGroups, Request.method])
  | start started =>
      exact harmless (concerns_startMachine started) (by simp [AltersGroups, Request.method])

end Subjects

/-! ## Histories -/

namespace Standing

section Names

variable (provider : Provider) (standing : Standing) {name : Text}

theorem serve_groups_of_unnamed {call : ProviderCall} (unnamed : call.action.altered? ≠ some name) :
    name ∈ (standing.serve provider call).groups ↔ name ∈ standing.groups :=
  mem_liveAfter_iff (concerns_action provider unnamed _) standing.groups

/-- Whether a group is live is left alone by every history that does not create or delete its
instance. -/
theorem after_groups_of_unnamed {history : List ProviderCall}
    (unnamed : ∀ call ∈ history, call.action.altered? ≠ some name) :
    name ∈ (standing.after provider history).groups ↔ name ∈ standing.groups := by
  -- Each call leaves another standing, so the induction is over all of them.
  induction history generalizing standing with
  | nil => exact Iff.rfl
  | cons call history inductionHypothesis =>
      have rest := inductionHypothesis (standing.serve provider call)
        fun other member => unnamed other (by simp [member])
      exact rest.trans (serve_groups_of_unnamed provider standing (unnamed call (by simp)))

end Names

theorem after_append (provider : Provider) (standing : Standing) (earlier later : List ProviderCall) :
    standing.after provider (earlier ++ later) =
      (standing.after provider earlier).after provider later :=
  List.foldl_append ..

theorem serve_create_groups (provider : Provider) (standing : Standing) (bootstrap : Bootstrap)
    (token : CancelToken) :
    (standing.serve provider ⟨.create bootstrap, token⟩).groups =
      liveAfter standing.groups (standing.creation provider bootstrap token).events := by
  have events : (ProviderAction.operation provider (.create bootstrap)
      (standing.sessionOf token)).events = (standing.creation provider bootstrap token).events := by
    show ((provider.createInstance bootstrap >>= fun _ => pure ())
      (standing.sessionOf token)).events =
        (provider.createInstance bootstrap (standing.sessionOf token)).events
    cases ending : (provider.createInstance bootstrap (standing.sessionOf token)).outcome with
    | error reason => rw [bind_apply_of_error ending]
    | ok made =>
        rw [bind_apply_of_ok ending]
        simp
  exact congrArg (liveAfter standing.groups) events

/-- An instance that a creation returns has its group from then on, until a call creates or deletes
an instance of its name. -/
theorem after_groups_of_created (provider : Provider) (standing : Standing) {bootstrap : Bootstrap}
    {token : CancelToken} {made : RunnerInstance}
    (returns : (standing.creation provider bootstrap token).outcome = .ok made)
    {later : List ProviderCall} (unnamed : ∀ call ∈ later, call.action.altered? ≠ some bootstrap.name) :
    bootstrap.name ∈ (standing.after provider (⟨.create bootstrap, token⟩ :: later)).groups := by
  refine (after_groups_of_unnamed provider _ unnamed).2 ?_
  have added : liveAfter standing.groups (standing.creation provider bootstrap token).events =
      insert bootstrap.name standing.groups := create_groups_of_ok returns standing.groups
  rw [serve_create_groups, added]
  exact Finset.mem_insert_self ..

/-- A creation that fails, and whose deletions succeeded, decides about no group but its own, so the
instances that earlier calls made under other names keep theirs. If it did not create its group, all
groups are as they were. If it created it, its deletion has removed the group, also where an earlier
call had made it: the groups are as they were only where the name was not in use. The failures that
come late are left aside. -/
theorem failed_creation_groups (provider : Provider) (start : Standing)
    (history : List ProviderCall) (bootstrap : Bootstrap) (token : CancelToken)
    (failure : Failure) :
    let before := start.after provider history
    let run := before.creation provider bootstrap token
    let after := before.serve provider ⟨.create bootstrap, token⟩
    run.outcome = .error (.failed failure) → Compensated run.events →
      (∀ name, name ≠ bootstrap.name → (name ∈ after.groups ↔ name ∈ before.groups)) ∧
      (¬ GroupCreated run.events → after.groups = before.groups) ∧
      (GroupCreated run.events → failure ∉ lateFailures →
        deletions run.events = [deletion bootstrap.name] ∧
          after.groups = before.groups.erase bootstrap.name) ∧
      (bootstrap.name ∉ before.groups → (GroupCreated run.events → failure ∉ lateFailures) →
        after.groups = before.groups) ∧
      (∀ earlier later made madeToken runner,
        history = earlier ++ ⟨.create made, madeToken⟩ :: later →
        ((start.after provider earlier).creation provider made madeToken).outcome = .ok runner →
        (∀ call ∈ later, call.action.altered? ≠ some made.name) →
        made.name ≠ bootstrap.name → made.name ∈ after.groups) := by
  intro before run after fails compensated
  have groups : after.groups = liveAfter before.groups (create provider.controllerId provider.config
      bootstrap (before.sessionOf token)).events :=
    serve_create_groups provider before bootstrap token
  have others : ∀ name, name ≠ bootstrap.name → (name ∈ after.groups ↔ name ∈ before.groups) := by
    intro name other
    refine serve_groups_of_unnamed provider before ?_
    rintro same
    exact other (Option.some.inj same).symm
  obtain ⟨unmade, leaves⟩ := create_groups_of_failed fails compensated before.groups
  rw [← groups] at unmade leaves
  have undone : GroupCreated run.events → failure ∉ lateFailures →
      deletions run.events = [deletion bootstrap.name] ∧
        after.groups = before.groups.erase bootstrap.name :=
    fun created early => (leaves created).resolve_right fun kept => early kept.2.1
  refine ⟨others, unmade, undone, fun unused early => ?_, ?_⟩
  · by_cases created : GroupCreated run.events
    · exact (undone created (early created)).2.trans (Finset.erase_eq_of_notMem unused)
    · exact unmade created
  · rintro earlier later made madeToken runner rfl returns unnamed other
    rw [others _ other]
    show made.name ∈ (start.after provider _).groups
    rw [after_append]
    exact after_groups_of_created provider _ returns unnamed

/-! ## Two creations that are not undone -/

def sampleProvider : Provider :=
  ⟨"controller-1", sampleConfig, .given "credential"⟩

def sampleCall : ProviderCall :=
  ⟨.create sampleBootstrap, .held false⟩

/-- A cloud in which one network can be created and a second one cannot. -/
def secondNetworkRefused : CloudScript :=
  fun method => if method = .createNetwork then [{}, { fault := some (.runtime "refused") }] else []

/-- Before a second creation of the instance that a first creation has returned. -/
def beforeRecreation : Standing :=
  (start (Session.start secondNetworkRefused 0 id)).after sampleProvider [sampleCall]

theorem failed_creation_groups_of_recreation :
    ("runner-1" : Text) ∈ beforeRecreation.groups ∧
      ("runner-1" : Text) ∉ (beforeRecreation.serve sampleProvider sampleCall).groups := by
  have fails : (beforeRecreation.creation sampleProvider sampleBootstrap (.held false)).outcome =
      .error (.failed (.fault (.runtime "refused"))) := by decide +kernel
  have compensated : Compensated
      (beforeRecreation.creation sampleProvider sampleBootstrap (.held false)).events := by
    decide +kernel
  obtain ⟨_, unmade, undone, _⟩ := failed_creation_groups sampleProvider
    (start (Session.start secondNetworkRefused 0 id)) [sampleCall] sampleBootstrap (.held false) _
    fails compensated
  have created : GroupCreated
      (beforeRecreation.creation sampleProvider sampleBootstrap (.held false)).events := by
    refine Classical.byContradiction fun none => ?_
    have unchanged := unmade none
    revert unchanged
    decide +kernel
  have removed : (beforeRecreation.serve sampleProvider sampleCall).groups =
      beforeRecreation.groups.erase "runner-1" := (undone created (by decide)).2
  refine ⟨by decide +kernel, ?_⟩
  rw [removed]
  exact Finset.notMem_erase _ _

/-- The creation changes no group when it fails and its deletions succeed. -/
def Atomic (provider : Provider) (before : Standing) (bootstrap : Bootstrap)
    (token : CancelToken) : Prop :=
  ∀ failure, (before.creation provider bootstrap token).outcome = .error (.failed failure) →
    Compensated (before.creation provider bootstrap token).events →
      (before.serve provider ⟨.create bootstrap, token⟩).groups = before.groups

def addressedBootstrap : Bootstrap :=
  { sampleBootstrap with extraSpecs := some [("allocate_public_ip", .bool true)] }

def numericAddresses : CloudScript :=
  fun method =>
    if method = .createPublicIp then
      [{ answer := some (.dict [("id", .text "public-ip"), ("ip_address", .int 5)]) }]
    else []

/-- A second creation can take the group of the first away, and an address that is refused leaves a
group behind. -/
theorem creation_not_atomic :
    ¬ Atomic sampleProvider beforeRecreation sampleBootstrap (.held false) ∧
      ¬ Atomic sampleProvider (start (Session.start numericAddresses 0 id)) addressedBootstrap
        (.held false) := by
  refine ⟨fun atomic => ?_, fun atomic => ?_⟩
  · have unchanged := atomic (.fault (.runtime "refused")) (by decide +kernel) (by decide +kernel)
    revert unchanged
    decide +kernel
  · have unchanged := atomic addressFailure (by decide +kernel) (by decide +kernel)
    revert unchanged
    decide +kernel

end Standing

end RunnerCloud
