import RunnerCloud.Proofs.CommandLine.Output
import RunnerCloud.Proofs.Provision.PoolListing
import RunnerCloud.Proofs.Provision.Reports

/-!
Contract: whether a runner that one command has created is found by another that lists its pool.

Owns:
- `poolOf`, the pool of a request, and `exists_requested`, by which the request that is served is the
  one on the input with this pool;
- `created_of_ok`, what a creation that succeeds has ordered;
- `ListsFor`, the hosts that ask for the listing of a pool, and `Shown`, by which the cloud lists a
  record of an ordered VM and nothing is wrong with the rest of the list;
- `created_then_listed`: the VM is tagged with the pool of the request, and the listing of this pool
  shows the runner unless the pool is the empty one, of which there is no listing.

Does not own: what the view of a record says.
-/

namespace RunnerCloud

open Operation

/-- The same host, asking for the listing of a pool. -/
def Host.asking (host : Host) (poolId : Text) : Host :=
  { host with
    settings := (CommandLine.commandVariable, Command.listInstances.text) ::
      (CommandLine.poolVariable, poolId) :: host.settings }

namespace CommandLine

variable {host : Host} {session : Session}

/-! ## The pool of a request -/

/-- The pool that the variables name; without one it is empty. -/
def poolSetting (host : Host) : Text :=
  (host.settings.get? poolVariable).getD ""

/-- The pool of a request: its own, or else that of the variables. -/
def poolOf (host : Host) (requested : Bootstrap) : Text :=
  if requested.poolId.isEmpty then poolSetting host else requested.poolId

/-- The request is the one on the input. -/
def IsRequested (host : Host) (requested : Bootstrap) : Prop :=
  ∃ written, Json.parse host.input = .ok written ∧ Bootstrap.ofValue written = .accepted requested

theorem requestOf_of_requested {requested : Bootstrap} (onInput : IsRequested host requested) :
    requestOf host = .ok { requested with poolId := poolOf host requested } := by
  obtain ⟨written, parsed, read⟩ := onInput
  unfold requestOf poolOf
  rw [parsed]
  dsimp only
  rw [read]
  dsimp only
  split <;> rfl

theorem exists_requested {bootstrap : Bootstrap} (requests : requestOf host = .ok bootstrap) :
    ∃ requested, IsRequested host requested ∧
      bootstrap = { requested with poolId := poolOf host requested } := by
  cases parsed : Json.parse host.input with
  | error problem =>
      unfold requestOf at requests
      rw [parsed] at requests
      cases problem <;> cases requests
  | ok written =>
      cases read : Bootstrap.ofValue written with
      | rejected issues =>
          unfold requestOf at requests
          rw [parsed] at requests
          dsimp only at requests
          rw [read] at requests
          cases requests
      | accepted requested =>
          have onInput : IsRequested host requested := ⟨written, parsed, read⟩
          rw [requestOf_of_requested onInput] at requests
          exact ⟨requested, onInput, (Except.ok.inj requests).symm⟩

/-! ## What a creation has ordered -/

theorem Invocation.of_createInstance {execution : Execution CommandResult} {result : CommandResult}
    (invocation : Invocation host session execution)
    (asked : commandOf host = .ok .createInstance) (succeeds : execution.outcome = .ok result) :
    ∃ provider bootstrap runner, providerOf host = .ok provider ∧ requestOf host = .ok bootstrap ∧
      (provider.createInstance bootstrap session).outcome = .ok runner ∧
      execution.events = (provider.createInstance bootstrap session).events ∧
      result = .single runner := by
  cases invocation with
  | refused failure => cases succeeds
  | @created provider bootstrap _ provides requests =>
      obtain ⟨runner, gives, rfl⟩ := Execution.mapped_ok_iff.1 succeeds
      exact ⟨provider, bootstrap, runner, provides, requests, gives, rfl, rfl⟩
  | altered other alters provides named =>
      cases asked.symm.trans other
      cases alters
  | version other | removed other _ | found other _ _ | listed other _ _ =>
      cases asked.symm.trans other

/-- A creation that succeeds has ordered one VM, tagged with the pool of the request; any record of
it that tells a status has the view of the runner, but for its addresses and this status. -/
theorem created_of_ok {result : CommandResult} (asked : commandOf host = .ok .createInstance)
    (succeeds : (run host session).outcome = .ok result) :
    ∃ provider requested runner request, providerOf host = .ok provider ∧
      IsRequested host requested ∧ result = .single runner ∧
      (Event.requests (run host session).events).filter
        (fun request => request.method == .createMachine) = [request] ∧
      (request.body.field "tags").field? Tags.poolId = some (.text (poolOf host requested)) ∧
      ∀ item status, Bears request item →
        InstanceStatus.ofMachine (MachineRecord.ofValue? item) = .ok status →
        Provision.IsViewOf item { runner with addresses := [], status := status } ∧
          Provision.isKept (poolOf host requested) item = true := by
  obtain ⟨provider, bootstrap, runner, provides, requests, gives, events, rfl⟩ :=
    (run_invocation host session).of_createInstance asked succeeds
  obtain ⟨requested, onInput, served⟩ := exists_requested requests
  have pool : poolOf host requested = bootstrap.poolId := by rw [served]
  rw [events]
  unfold Provider.createInstance at gives ⊢
  cases accepts : Provision.admitted provider.controllerId provider.config bootstrap with
  | error failure =>
      rw [Provision.create_of_refused accepts] at gives
      cases gives
  | ok spec =>
      rw [Provision.create_of_admitted accepts] at gives ⊢
      have course := Provision.createFrom_course provider.config.location spec session
      obtain ⟨diskSizeGb, ordered⟩ := course.one_machine gives
      refine ⟨provider, requested, runner, _, provides, onInput, rfl, ordered, ?_, ?_⟩ <;> rw [pool]
      · obtain ⟨_, _, extra, tags⟩ := Provision.tags_of_admitted accepts
        show spec.tags.toValue.field? Tags.poolId = _
        rw [Tags.field?_toValue, tags, Tags.lookup_withDefaults extra
          (show _ = some bootstrap.poolId from rfl)]
        rfl
      · intro item status bears stated
        obtain ⟨viewed, inPool⟩ := Provision.view_of_bears accepts bears stated
        refine ⟨?_, (inPool bootstrap.poolId).2 rfl⟩
        unfold Provision.IsViewOf
        rw [viewed, (course.constructive_of_ok gives).2]
        rfl

/-! ## Listing a pool -/

/-- The host asks for the listing of a pool, from a provider that can be built. -/
structure ListsFor (host : Host) (poolId : Text) : Prop where
  asks : commandOf host = .ok .listInstances
  provides : ∃ provider, providerOf host = .ok provider
  pool : poolSetting host = poolId

theorem listsFor_asking {provider : Provider} (provides : providerOf host = .ok provider)
    (poolId : Text) : ListsFor (host.asking poolId) poolId :=
  ⟨rfl, ⟨provider, provides⟩, rfl⟩

/-- A variable that is empty counts as missing. -/
theorem require_pool (host : Host) :
    require host poolVariable =
      if poolSetting host = "" then .error (.usage (.missingVariable poolVariable))
      else .ok (poolSetting host) := by
  unfold require poolSetting
  cases host.settings.get? poolVariable with
  | none => rfl
  | some value => by_cases empty : value = "" <;> simp [Option.filter, empty]

theorem run_listing {poolId : Text} (lists : ListsFor host poolId) (session : Session) :
    if poolId = "" then
      run host session = ⟨.error (.failed (.usage (.missingVariable poolVariable))), [], session⟩
    else
      run host session = (Provision.listPool poolId session).mapped .several := by
  obtain ⟨asks, ⟨provider, provides⟩, rfl⟩ := lists
  have reads : run host session = (ofExcept id (require host poolVariable) >>= fun poolId =>
      provider.listInstances poolId >>= fun runners => pure (.several runners)) session :=
    run_of_provides asks (by decide) provides session
  rw [reads, ofExcept_bind_apply, require_pool]
  split
  · rfl
  · exact bind_result_apply _ _ _

/-- The cloud lists a record of an ordered VM, and nothing stops the listing; of the other items, those
that the listing of the pool does not pass over have views. -/
structure Shown (session : Session) (poolId : Text) (request : Request) (item : Value) :
    Prop where
  sound : Provision.listingFailure? poolId (session.script.next .listMachines) = none
  listed : item ∈ (session.script.next .listMachines).items
  bears : Bears request item
  others : ∀ other ∈ (session.script.next .listMachines).items, other ≠ item →
    Provision.isKept poolId other = true → Provision.HasView other

/-- A listing gives the view of a record of its pool, if the other records of the pool have views. -/
theorem listPool_of_shown {poolId : Text} {request : Request} {item : Value}
    {view : RunnerInstance} (shown : Shown session poolId request item)
    (viewed : Provision.IsViewOf item view) (kept : Provision.isKept poolId item = true) :
    ∃ views, (Provision.listPool poolId session).outcome = .ok views ∧ view ∈ views := by
  have allViewed : ∀ other ∈ (session.script.next .listMachines).items.filter
      (Provision.isKept poolId), Provision.HasView other := by
    intro other member
    obtain ⟨listed, isKept⟩ := List.mem_filter.1 member
    by_cases same : other = item
    · exact ⟨view, same ▸ viewed⟩
    · exact shown.others other listed same isKept
  refine ⟨_, Provision.listPool_ok_iff.2 ⟨shown.sound, Provision.viewsOf_eq allViewed⟩, ?_⟩
  refine List.mem_filterMap.2 ⟨item, List.mem_filter.2 ⟨shown.listed, kept⟩, ?_⟩
  rw [viewed]
  rfl

/-- A creation that succeeds has ordered one VM, tagged with the pool of its request, and the listing
of this pool shows the runner among all that it shows, whatever has become of the VM, as long as its
record tells a status. Only the empty
pool, which is that of a request without one when the variables name none, has no listing. -/
theorem created_then_listed {result : CommandResult} (asked : commandOf host = .ok .createInstance)
    (succeeds : (run host session).outcome = .ok result) :
    ∃ requested runner request, IsRequested host requested ∧ result = .single runner ∧
      (Event.requests (run host session).events).filter
        (fun request => request.method == .createMachine) = [request] ∧
      let pool := poolOf host requested
      (request.body.field "tags").field? Tags.poolId = some (.text pool) ∧
      ListsFor (host.asking pool) pool ∧
      ∀ (words : ErrorWords) (asking : Host) (later : Session), ListsFor asking pool →
        (pool ≠ "" → ∀ item status, Shown later pool request item →
          InstanceStatus.ofMachine (MachineRecord.ofValue? item) = .ok status → ∃ views printed,
          (run asking later).outcome = .ok (.several views) ∧
          { runner with addresses := [], status := status } ∈ views ∧
          Report.ofOutcome words (run asking later).outcome = .ok ⟨0, printed, ""⟩ ∧
          ShowsAll printed (views.map RunnerInstance.joined)) ∧
        (pool = "" →
          run asking later =
            ⟨.error (.failed (.usage (.missingVariable poolVariable))), [], later⟩) := by
  obtain ⟨provider, requested, runner, request, provides, onInput, single, ordered, tagged, viewed⟩ :=
    created_of_ok asked succeeds
  refine ⟨requested, runner, request, onInput, single, ordered, tagged,
    listsFor_asking provides _, fun words asking later lists => ⟨?_, ?_⟩⟩
  · intro named item status shown stated
    have runs := run_listing lists later
    rw [if_neg named] at runs
    obtain ⟨view, kept⟩ := viewed item status shown.bears stated
    obtain ⟨views, gives, member⟩ := listPool_of_shown shown view kept
    have outcome : (run asking later).outcome = .ok (.several views) := by
      rw [runs]
      exact Execution.mapped_ok_iff.2 ⟨views, gives, rfl⟩
    refine ⟨views, Report.resultText (.several views), outcome, member, ?_,
      showsAll_several views⟩
    rw [outcome]
    rfl
  · intro unnamed
    have runs := run_listing lists later
    rwa [if_pos unnamed] at runs

/-! ## A request without a pool -/

/-- The sample request as it is written, without its pool. -/
def poollessRequest : Value :=
  .dict [
    ("name", .text "runner-1"),
    ("tools", .list [.dict [
      ("os", .text "linux"),
      ("architecture", .text "x64"),
      ("download_url", .text "https://example.com/runner.tar.gz"),
      ("filename", .text "runner.tar.gz")]])]

/-- A host that asks for a runner and names no pool in the request. -/
def creatingHost (further : Environment) : Host :=
  requestingHost (Json.indented poollessRequest) further

/-- The request of the host is the sample one, for the pool that the variables name. -/
theorem isRequested_creatingHost (further : Environment) :
    IsRequested (creatingHost further) { Provision.sampleBootstrap with poolId := "" } :=
  ⟨poollessRequest, Json.parse_indented_of_isPlain (by decide), rfl⟩

theorem IsRequested.unique {one other : Bootstrap} (first : IsRequested host one)
    (second : IsRequested host other) : one = other := by
  obtain ⟨written, parsed, read⟩ := first
  obtain ⟨again, parsedAgain, readAgain⟩ := second
  cases parsed.symm.trans parsedAgain
  exact Checked.accepted.inj (read.symm.trans readAgain)

/-- A host creates the runner of its request when its provider does. -/
theorem exists_created {bootstrap : Bootstrap} (asked : commandOf host = .ok .createInstance)
    (requests : requestOf host = .ok bootstrap)
    (creates : ((providerOf host).toOption.bind fun provider =>
      (provider.createInstance bootstrap session).outcome.toOption).isSome = true) :
    ∃ runner, (run host session).outcome = .ok (.single runner) := by
  cases provides : providerOf host with
  | error failure =>
      rw [provides] at creates
      cases creates
  | ok provider =>
      rw [provides] at creates
      obtain ⟨runner, gives⟩ := Provision.exists_of_isSome creates
      have reads : run host session = (ofExcept id (requestOf host) >>= fun bootstrap =>
          provider.createInstance bootstrap >>= fun runner => pure (.single runner)) session :=
        run_of_provides asked (by decide) provides session
      rw [reads, ofExcept_bind_apply, requests]
      dsimp only
      rw [bind_result_apply]
      exact ⟨runner, Execution.mapped_ok_iff.2 ⟨runner, gives, rfl⟩⟩

/-- A record of an ordered VM that has failed since. -/
def failedRecord (request : Request) : Value :=
  .dict [
    ("name", request.arguments[1]?.getD .null),
    ("tags", request.body.field "tags"),
    ("provisioning_state", .text "Failed")]

theorem bears_failedRecord {request : Request} (machine : request.method = .createMachine) :
    Bears request (failedRecord request) := by
  refine ⟨?_, fun _ => rfl⟩
  cases request <;> cases machine
  rfl

theorem tagMisuse?_failedRecord {request : Request} (machine : request.method = .createMachine) :
    Provision.tagMisuse? (failedRecord request) = none := by
  cases request <;> cases machine
  rfl

theorem status_failedRecord (request : Request) :
    InstanceStatus.ofMachine (MachineRecord.ofValue? (failedRecord request)) = .ok .error := by
  have failed : InstanceStatus.ofProvisioningState "Failed" = .error := by decide +kernel
  show InstanceStatus.ofStates (InstanceStatus.ofProvisioningState "Failed") _ = _
  rw [failed]
  rfl

theorem created_then_listed_of_poolSetting :
    let host := creatingHost [(poolVariable, "pool-1")]
    ∃ runner request views,
      (run host (Provision.sampleSession .accepting)).outcome = .ok (.single runner) ∧
      (run (host.asking "pool-1")
        (Provision.sampleSession (Provision.listingOf (failedRecord request)))).outcome =
          .ok (.several views) ∧
      { runner with addresses := [], status := .error } ∈ views := by
  intro host
  have onInput : IsRequested host _ := isRequested_creatingHost _
  obtain ⟨_, succeeds⟩ : ∃ runner,
      (run host (Provision.sampleSession .accepting)).outcome = .ok (.single runner) :=
    exists_created rfl (requestOf_of_requested onInput) (by decide +kernel)
  obtain ⟨requested, runner, request, onInputToo, single, ordered, _, lists, listing⟩ :=
    created_then_listed rfl succeeds
  cases onInput.unique onInputToo
  have machine : request.method = .createMachine := by
    have member := List.mem_filter.1 (ordered ▸ List.mem_singleton_self request)
    simpa using member.2
  have shown : Shown (Provision.sampleSession (Provision.listingOf (failedRecord request))) "pool-1"
      request (failedRecord request) := by
    have sound : Provision.Browsable [failedRecord request] :=
      List.forall_mem_singleton.2 (tagMisuse?_failedRecord machine)
    refine ⟨Provision.listingFailure?_eq_none_iff.2 ⟨rfl, sound, rfl⟩, List.mem_singleton_self _,
      bears_failedRecord machine, ?_⟩
    intro other member different
    exact absurd (List.mem_singleton.1 member) different
  obtain ⟨views, _, gives, member, _⟩ :=
    (listing .abridged _ _ lists).1 (by decide) _ _ shown (status_failedRecord request)
  exact ⟨runner, request, views, single ▸ succeeds, gives, member⟩

/-- Not every creation that succeeds can be listed: without a pool in the request and in the
variables the VM is tagged with the empty pool, and every listing of that is refused. -/
theorem created_never_listed :
    ∃ runner request,
      (run (creatingHost []) (Provision.sampleSession .accepting)).outcome = .ok (.single runner) ∧
      (Event.requests (run (creatingHost []) (Provision.sampleSession .accepting)).events).filter
        (fun request => request.method == .createMachine) = [request] ∧
      (request.body.field "tags").field? Tags.poolId = some (.text "") ∧
      ListsFor ((creatingHost []).asking "") "" ∧
      ∀ (asking : Host) (later : Session), ListsFor asking "" →
        ∀ result, (run asking later).outcome ≠ .ok result := by
  have onInput := isRequested_creatingHost []
  obtain ⟨_, succeeds⟩ : ∃ runner,
      (run (creatingHost []) (Provision.sampleSession .accepting)).outcome = .ok (.single runner) :=
    exists_created rfl (requestOf_of_requested onInput) (by decide +kernel)
  obtain ⟨provider, requested, runner, request, provides, onInputToo, single, ordered, tagged, _⟩ :=
    created_of_ok rfl succeeds
  cases onInput.unique onInputToo
  refine ⟨runner, request, single ▸ succeeds, ordered, tagged, listsFor_asking provides _, ?_⟩
  intro asking later lists result gives
  have refused := run_listing lists later
  rw [if_pos rfl] at refused
  rw [refused] at gives
  cases gives

end CommandLine

end RunnerCloud
