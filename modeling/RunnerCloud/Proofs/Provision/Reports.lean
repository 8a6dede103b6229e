import RunnerCloud.Proofs.Cloud.MachineViews
import RunnerCloud.Proofs.Provision.Wiring

/-!
Contract: what the provider reports about a runner that it has created.

Owns:
- `Bears`, the records that the cloud keeps of a VM that was ordered, and `Mirrors`, those of one
  that is running;
- `view_of_bears`, the view of such a record;
- `created_then_reported`: the view of such a record is the runner that the creation gave, without
  its addresses, whatever tags the pool added; and it is listed for the pool of the runner only.

Does not own: the calls of the creation.
-/

namespace RunnerCloud

/-- The first power state in a record. -/
def firstPowerState? (item : Value) : Except Misuse (Option Text) := do
  powerStateAmong? (← ((item.field "instance_view").field "statuses").givenItems)

/-- A record of the VM that a request has ordered, under its name and with its tags: the VM is there
or on its way, and no power state tells otherwise. -/
structure Mirrors (request : Request) (item : Value) : Prop where
  name : request.arguments[1]? = some (item.field "name")
  tags : ∀ key, (item.field "tags").field? key = (request.body.field "tags").field? key
  provisioning : ∃ state, item.field "provisioning_state" = .text state ∧
    state.toLower ∈ (["succeeded", "creating", "updating"] : List Text)
  power : item.field "instance_view" = .null ∨ ∃ code, firstPowerState? item = .ok (some code) ∧
    code ∈ (["PowerState/running", "PowerState/starting"] : List Text)

/-- A record of the VM that a request has ordered, under its name and with its tags, in whatever
state the VM is. -/
structure Bears (request : Request) (item : Value) : Prop where
  name : request.arguments[1]? = some (item.field "name")
  tags : ∀ key, (item.field "tags").field? key = (request.body.field "tags").field? key

theorem Mirrors.bears {request : Request} {item : Value} (mirrors : Mirrors request item) :
    Bears request item :=
  ⟨mirrors.name, mirrors.tags⟩

namespace Provision

open Operation

section Machine

variable {answers : CloudMethod → Value} {location : Text} {spec : RunnerSpec}
  {diskSizeGb : Int} {access : MachineAccess}

/-- The plan of a creation orders one VM. -/
theorem machines_of_plan (usable : usableIp answers spec = true) :
    (creationPlan answers location spec diskSizeGb access).filter
        (fun request => request.method == .createMachine) =
      [.createMachine (plannedMachine answers location spec diskSizeGb access)] := by
  unfold creationPlan cataloguePlan groupPlan resourcesPlan publicIpPlan
  rw [if_pos usable]
  cases spec.useEphemeralStorage <;> cases spec.allocatePublicIp <;> rfl

end Machine

section Creation

variable {location : Text} {spec : RunnerSpec} {session : Session}

/-- A creation that gives a runner has ordered one VM. -/
theorem Course.one_machine {execution : Execution RunnerInstance}
    (course : Course location spec session execution) {runner : RunnerInstance}
    (gives : execution.outcome = .ok runner) :
    ∃ diskSizeGb, (Event.requests execution.events).filter
        (fun request => request.method == .createMachine) =
      [.createMachine (plannedMachine session.script.answer location spec diskSizeGb
        (accessFrom spec session.draws))] := by
  cases course with
  | @created diskSizeGb address addresses message ready fills concludes =>
      obtain ⟨⟨_, usable, _⟩, _, _⟩ := (filled_progress ready).completed _ fills
      have planned := constructive_of_filled ready fills
      rw [constructive_prepared, constructive_filled] at planned
      refine ⟨diskSizeGb, ?_⟩
      have requests : Event.requests ((prepared location spec session).events ++
          ((filled location spec session diskSizeGb).events ++
            [.logged ((runIn spec session).record LogLevel.info message none)])) =
          creationPlan session.script.answer location spec diskSizeGb
            (accessFrom spec session.draws) := by
        rw [Event.requests_append, Event.requests_append, ← planned]
        simp
      rw [requests]
      exact machines_of_plan usable
  | _ => cases gives

end Creation

/-! ## Records of the VM -/

theorem parts_of_ofValue? {item : Value} {record : MachineRecord}
    (read : MachineRecord.ofValue? item = some record) :
    record.name = item.field "name" ∧ record.tags = item.field "tags" := by
  cases item <;> cases read <;> exact ⟨rfl, rfl⟩

theorem ofValue?_of_named {item : Value} {name : Text} (named : item.field "name" = .text name) :
    ∃ record, MachineRecord.ofValue? item = some record ∧ record.name = .text name ∧
      record.provisioningState = item.field "provisioning_state" ∧
      record.tags = item.field "tags" ∧ record.powerState? = firstPowerState? item := by
  refine ⟨⟨item.field "name", item.field "provisioning_state", item.field "tags",
    (item.field "instance_view").field "statuses"⟩, ?_, named, rfl, rfl, rfl⟩
  cases item with
  | null => cases named
  | _ => rfl

section Records

variable {controllerId : Text} {config : ProviderConfig} {bootstrap : Bootstrap}
  {spec : RunnerSpec} {answers : CloudMethod → Value} {location : Text} {diskSizeGb : Int}
  {access : MachineAccess} {item : Value}

/-- What a spec says about the VM that is tagged by it. -/
theorem tags_of_admitted (accepts : admitted controllerId config bootstrap = .ok spec) :
    spec.bootstrap = bootstrap ∧ spec.name ≠ "" ∧ ∃ extra,
      spec.tags = (RunnerSpec.reservedTags bootstrap controllerId spec.imageReference).withDefaults
        extra := by
  obtain ⟨extra, _, _, _, named, _, _, _, _, _, rfl⟩ :=
    RunnerSpec.build_ok (build_of_admitted accepts)
  refine ⟨rfl, fun empty => ?_, extra.extraTags, rfl⟩
  have unnamed : bootstrap.name = "" := empty
  rw [unnamed] at named
  cases named

/-- A reserved tag is not replaced by one that the pool adds. -/
theorem reservedTag_of_admitted (accepts : admitted controllerId config bootstrap = .ok spec)
    {key value : Text}
    (reserved : (RunnerSpec.reservedTags bootstrap controllerId spec.imageReference).lookup key =
      some value) : spec.tags.toValue.field? key = some (.text value) := by
  obtain ⟨-, -, extra, tags⟩ := tags_of_admitted accepts
  rw [Tags.field?_toValue, tags, Tags.lookup_withDefaults extra reserved]
  rfl

/-- The tags of a VM that an admitted spec has ordered can be looked into. -/
theorem tags_of_bears (accepts : admitted controllerId config bootstrap = .ok spec)
    (bears : Bears
      (.createMachine (plannedMachine answers location spec diskSizeGb access)) item) :
    ∃ tags, (item.field "tags").givenEntries = .ok tags ∧ ∀ key value,
      (RunnerSpec.reservedTags bootstrap controllerId spec.imageReference).lookup key = some value →
        tags.get? key = some (.text value) := by
  have tagged : ∀ key value,
      (RunnerSpec.reservedTags bootstrap controllerId spec.imageReference).lookup key = some value →
        (item.field "tags").field? key = some (.text value) := by
    intro key value reserved
    have ordered : (Request.createMachine
        (plannedMachine answers location spec diskSizeGb access)).body.field "tags" =
          spec.tags.toValue := rfl
    rw [bears.tags key, ordered]
    exact reservedTag_of_admitted accepts reserved
  -- A value that is no document has no entries, but the VM is tagged with its pool.
  have pool := tagged Tags.poolId bootstrap.poolId rfl
  cases given : item.field "tags" with
  | dict entries =>
      rw [given] at tagged
      exact ⟨entries, rfl, tagged⟩
  | _ =>
      rw [given] at pool
      cases pool

/-- A record with the name and the tags of the VM of a creation has the view that the creation
gives, but for the status, and belongs to the pool of the request. -/
theorem view_of_bears (accepts : admitted controllerId config bootstrap = .ok spec)
    (bears : Bears
      (.createMachine (plannedMachine answers location spec diskSizeGb access)) item)
    {status : InstanceStatus}
    (stated : InstanceStatus.ofMachine (MachineRecord.ofValue? item) = .ok status) :
    RunnerInstance.ofMachine (MachineRecord.ofValue? item) =
        .ok { instanceOf spec [] with status := status } ∧
      ∀ poolId, isKept poolId item = true ↔ poolId = bootstrap.poolId := by
  obtain ⟨sameBootstrap, present, -⟩ := tags_of_admitted accepts
  have named : item.field "name" = .text spec.name := (Option.some.inj bears.name).symm
  obtain ⟨record, read, recordName, _, recordTags, _⟩ := ofValue?_of_named named
  obtain ⟨tags, given, tagged⟩ := tags_of_bears accepts bears
  constructor
  · rw [read] at stated ⊢
    have view := RunnerInstance.ofMachine_of_tags recordName present (by rw [recordTags, given])
      (tagged Tags.osType bootstrap.osType.text rfl) (tagged Tags.osArch bootstrap.arch.text rfl)
      (tagged Tags.osName spec.imageReference.sku rfl)
      (tagged Tags.osVersion spec.imageReference.version rfl) stated
    rw [view, ← sameBootstrap]
    rfl
  · intro poolId
    have keeps : isKept poolId item = isTagged poolId item := by
      cases item with
      | null => cases named
      | _ => rfl
    rw [keeps, isTagged, ← givenEntries_ok given, tagged Tags.poolId bootstrap.poolId rfl]
    show (some bootstrap.poolId == some poolId) = true ↔ _
    rw [beq_iff_eq, Option.some.injEq, eq_comm]

theorem running_of_mirrors {request : Request} {name : Text}
    (mirrors : Mirrors request item) (named : item.field "name" = .text name) :
    InstanceStatus.ofMachine (MachineRecord.ofValue? item) = .ok .running := by
  obtain ⟨record, read, _, provisioned, _, power⟩ := ofValue?_of_named named
  obtain ⟨state, given, steady⟩ := mirrors.provisioning
  rw [read]
  rw [given] at provisioned
  rcases mirrors.power with absent | ⟨first, found, known⟩
  · have none : record.powerState? = .ok none := by
      rw [power]
      unfold firstPowerState?
      rw [absent]
      rfl
    exact InstanceStatus.ofMachine_running provisioned steady none (by simp)
  · rw [← power] at found
    refine InstanceStatus.ofMachine_running provisioned steady found ?_
    rintro code same
    rw [← Option.some.inj same]
    exact known

/-- A record of the VM of a creation has the view that the creation gives, and belongs to the pool
of the request. -/
theorem view_of_mirrors (accepts : admitted controllerId config bootstrap = .ok spec)
    (mirrors : Mirrors
      (.createMachine (plannedMachine answers location spec diskSizeGb access)) item) :
    RunnerInstance.ofMachine (MachineRecord.ofValue? item) = .ok (instanceOf spec []) ∧
      ∀ poolId, isKept poolId item = true ↔ poolId = bootstrap.poolId :=
  view_of_bears accepts mirrors.bears
    (running_of_mirrors mirrors (Option.some.inj mirrors.name).symm)

end Records

/-- In the session the cloud lists the items, and nothing goes wrong. -/
structure Lists (session : Session) (items : List Value) : Prop where
  sound : (session.script.next .listMachines).fault = none
  listed : (session.script.next .listMachines).items = items
  complete : (session.script.next .listMachines).itemsFault = none

/-- The view of an item has its name. -/
theorem name_of_itemView {item : Value} {view : RunnerInstance}
    (views : RunnerInstance.ofMachine (MachineRecord.ofValue? item) = .ok view) :
    item.field "name" = .text view.name := by
  cases read : MachineRecord.ofValue? item with
  | none =>
      rw [read] at views
      cases views
  | some record =>
      rw [read] at views
      rw [← (parts_of_ofValue? read).1]
      exact RunnerInstance.name_of_view views

/-- A reported view has the name of one of the items. -/
theorem name_of_poolViews {poolId : Text} {items : List Value} {view : RunnerInstance}
    (member : view ∈ poolViews poolId items) :
    ∃ item ∈ items, item.field "name" = .text view.name := by
  obtain ⟨item, inPool, viewed⟩ := List.mem_filterMap.1 member
  refine ⟨item, (List.mem_filter.1 inPool).1, ?_⟩
  cases views : RunnerInstance.ofMachine (MachineRecord.ofValue? item) with
  | error problem =>
      rw [views] at viewed
      cases viewed
  | ok other =>
      rw [views] at viewed
      cases viewed
      exact name_of_itemView views

theorem poolViews_single {item : Value} {view : RunnerInstance}
    (views : RunnerInstance.ofMachine (MachineRecord.ofValue? item) = .ok view) (poolId : Text) :
    poolViews poolId [item] = if isKept poolId item then [view] else [] := by
  unfold poolViews
  rw [List.filter_cons]
  cases isKept poolId item with
  | true => simp [views, Except.toOption]
  | false => rfl

/-- A record in a listing, in front of and behind records with views. -/
theorem listPool_of_record {item : Value} {view : RunnerInstance} {ownPool : Text}
    (viewed : RunnerInstance.ofMachine (MachineRecord.ofValue? item) = .ok view)
    (pool : ∀ poolId, isKept poolId item = true ↔ poolId = ownPool) (poolId : Text)
    {later : Session} {before after : List Value} (lists : Lists later (before ++ item :: after))
    (others : ∀ other ∈ before ++ after, HasView other) :
    ∃ views, (listPool poolId later).outcome = .ok views ∧
      views = poolViews poolId before ++
        ((if poolId = ownPool then [view] else []) ++ poolViews poolId after) ∧
      ((∀ other ∈ before ++ after, other.field "name" ≠ item.field "name") →
        (view ∈ views ↔ poolId = ownPool)) := by
  have allView : ∀ other ∈ (later.script.next .listMachines).items, HasView other := by
    rw [lists.listed]
    intro other member
    rw [List.mem_append, List.mem_cons] at member
    rcases member with early | rfl | late
    · exact others other (List.mem_append_left _ early)
    · exact ⟨view, viewed⟩
    · exact others other (List.mem_append_right _ late)
  have single : poolViews poolId [item] = if poolId = ownPool then [view] else [] := by
    rw [poolViews_single viewed]
    simp only [pool poolId]
  have views : poolViews poolId (before ++ item :: after) = poolViews poolId before ++
      ((if poolId = ownPool then [view] else []) ++ poolViews poolId after) := by
    rw [← List.singleton_append, poolViews_append, poolViews_append, single]
  have reported : (listPool poolId later).outcome = _ :=
    listPool_outcome lists.sound lists.complete
      (fun other member => tagMisuse?_of_view (allView other member))
      fun other member _ => allView other member
  rw [lists.listed] at reported
  refine ⟨_, reported, views, ?_⟩
  intro otherNames
  rw [views, List.mem_append, List.mem_append]
  have itemName : item.field "name" = .text view.name := name_of_itemView viewed
  constructor
  · rintro (early | here | late)
    · obtain ⟨other, member, named⟩ := name_of_poolViews early
      exact absurd (named.trans itemName.symm) (otherNames other (List.mem_append_left _ member))
    · exact (List.mem_ite_nil_right.1 here).1
    · obtain ⟨other, member, named⟩ := name_of_poolViews late
      exact absurd (named.trans itemName.symm) (otherNames other (List.mem_append_right _ member))
  · rintro rfl
    simp

/-- Any record of the VM that a creation has ordered, whatever tags the pool has added, has the view
that the creation gave, without its addresses. That is what is reported for its name, and in the
list of a pool the view stands in the record's place when the pool is the one of the request, and it
is left out otherwise. -/
theorem created_then_reported {controllerId : Text} {config : ProviderConfig}
    {bootstrap : Bootstrap} {session : Session} {runner : RunnerInstance}
    (gives : (create controllerId config bootstrap session).outcome = .ok runner) :
    ∃ request, (Event.requests (create controllerId config bootstrap session).events).filter
        (fun request => request.method == .createMachine) = [request] ∧
      ∀ item, Mirrors request item →
        let view : RunnerInstance := { runner with addresses := [] }
        RunnerInstance.ofMachine (MachineRecord.ofValue? item) = .ok view ∧
        (∀ later : Session, (later.script.next .getMachine).fault = none →
          later.script.answer .getMachine = item →
            (get runner.name later).outcome = .ok view) ∧
        ∀ (poolId : Text) (later : Session) (before after : List Value),
          Lists later (before ++ item :: after) → (∀ other ∈ before ++ after, HasView other) →
          ∃ views, (listPool poolId later).outcome = .ok views ∧
            views = poolViews poolId before ++
              ((if poolId = bootstrap.poolId then [view] else []) ++ poolViews poolId after) ∧
            ((∀ other ∈ before ++ after, other.field "name" ≠ item.field "name") →
              (view ∈ views ↔ poolId = bootstrap.poolId)) := by
  cases accepts : admitted controllerId config bootstrap with
  | error failure =>
      rw [create_of_refused accepts] at gives
      cases gives
  | ok spec =>
      rw [create_of_admitted accepts] at gives ⊢
      have course := createFrom_course config.location spec session
      obtain ⟨diskSizeGb, ordered⟩ := course.one_machine gives
      refine ⟨_, ordered, fun item mirrors => ?_⟩
      obtain ⟨viewed, pool⟩ := view_of_mirrors accepts mirrors
      have view : ({ runner with addresses := [] } : RunnerInstance) = instanceOf spec [] := by
        rw [(course.constructive_of_ok gives).2]
        rfl
      have views : RunnerInstance.ofMachine (MachineRecord.ofValue? item) =
          .ok (instanceOf spec []) := viewed
      dsimp only
      rw [view]
      refine ⟨views, ?_, ?_⟩
      · intro later sound answers
        exact get_outcome sound (by rw [answers, views])
      · intro poolId later before after
        exact listPool_of_record viewed pool poolId

/-- A request whose pool adds a tag under a reserved key. -/
def taggedBootstrap : Bootstrap :=
  { sampleBootstrap with
    extraSpecs := some [("extra_tags", .dict [("garm-pool-id", .text "pool-2")])] }

/-- A record of the sample runner with the tags of a request. -/
def recordOf (request : Request) : Value :=
  .dict [
    ("name", .text "runner-1"),
    ("tags", request.body.field "tags"),
    ("provisioning_state", .text "Creating")]

/-- A cloud that has one VM. -/
def listingOf (item : Value) : CloudScript :=
  fun method => if method = .listMachines then [{ items := [item] }] else []

theorem created_then_reported_of_tagged :
    ∃ runner request,
      (create "controller-1" sampleConfig taggedBootstrap (sampleSession .accepting)).outcome =
        .ok runner ∧ Mirrors request (recordOf request) ∧
      (listPool "pool-1" (sampleSession (listingOf (recordOf request)))).outcome =
        .ok [{ runner with addresses := [] }] ∧
      (listPool "pool-2" (sampleSession (listingOf (recordOf request)))).outcome = .ok [] := by
  obtain ⟨runner, gives⟩ : ∃ runner, (create "controller-1" sampleConfig taggedBootstrap
      (sampleSession .accepting)).outcome = .ok runner :=
    exists_of_isSome (by decide +kernel)
  obtain ⟨request, ordered, reports⟩ := created_then_reported gives
  have mirrors : Mirrors request (recordOf request) := by
    obtain ⟨spec, accepts⟩ : ∃ spec,
        admitted "controller-1" sampleConfig taggedBootstrap = .ok spec :=
      exists_of_isSome (by decide +kernel)
    rw [create_of_admitted accepts] at gives ordered
    obtain ⟨diskSizeGb, planned⟩ := (createFrom_course _ spec _).one_machine gives
    rw [ordered] at planned
    rw [List.singleton_inj.1 planned]
    refine ⟨?_, fun _ => rfl, ⟨"Creating", rfl, by decide +kernel⟩, Or.inl rfl⟩
    show some (Value.text spec.name) = some (.text "runner-1")
    rw [name_of_admitted accepts]
    rfl
  have lists : Lists (sampleSession (listingOf (recordOf request))) ([] ++ recordOf request :: []) :=
    ⟨rfl, rfl, rfl⟩
  have listing := (reports _ mirrors).2.2
  obtain ⟨_, own, sameOwn, _⟩ := listing "pool-1" _ [] [] lists (by simp)
  obtain ⟨_, other, sameOther, _⟩ := listing "pool-2" _ [] [] lists (by simp)
  refine ⟨runner, request, gives, mirrors, ?_, ?_⟩
  · have home : "pool-1" = taggedBootstrap.poolId := rfl
    rw [own, sameOwn, if_pos home]
    rfl
  · have foreign : "pool-2" ≠ taggedBootstrap.poolId := by decide
    rw [other, sameOther, if_neg foreign]
    rfl

end Provision

end RunnerCloud
