import RunnerCloud.Proofs.Provision.Course

/-!
Contract: the calls of a creation, and how their arguments hang together.

Owns:
- `creationMethods`, the methods that a creation calls, in their order;
- `Wired`, by which everything lies in the group of the instance, the subnet in its network, and
  each call carries the identifiers that the calls before it gave;
- `creation_wired`: the calls of every creation are the first ones of that order and are wired, and
  an instance is given only when all of them were made.

Does not own: the removal of the group.
-/

namespace RunnerCloud

/-- The body of a call that creates something is its last positional argument. -/
def Request.body (request : Request) : Value :=
  request.arguments.getLast?.getD .null

namespace Provision

open Operation

def creationMethods (spec : RunnerSpec) : List CloudMethod :=
  (if spec.useEphemeralStorage then [.listSkus] else []) ++
    ([.createGroup, .createNetwork, .createSubnet] ++
      ((if spec.allocatePublicIp then [.createPublicIp] else []) ++
        [.createSecurityGroup, .createInterface, .createMachine]))

/-- The calls of a run that are no deletions of groups. -/
def constructive (events : List Event) : List Request :=
  (Event.requests events).filter fun request => request.method != .deleteGroup

def asksForIp (made : List Request) : Bool :=
  made.any fun request => request.method == .createPublicIp

def reference (identifier : Value) : Value :=
  .dict [("id", identifier)]

/-- How the calls `made` for a spec hang together, given the answers of the cloud. -/
structure Wired (spec : RunnerSpec) (answers : CloudMethod → Value) (made : List Request) :
    Prop where
  group : ∀ request ∈ made, request.creates = true →
    request.arguments.head? = some (.text spec.name)
  subnet : ∀ network ∈ made, ∀ subnet ∈ made, network.method = .createNetwork →
    subnet.method = .createSubnet → ∃ name cidr,
      network.arguments[1]? = some (.text name) ∧ subnet.arguments[1]? = some (.text name) ∧
        (network.body.field "address_space").field "address_prefixes" = .list [.text cidr] ∧
        subnet.body.field "address_prefix" = .text cidr
  interface : ∀ request ∈ made, request.method = .createInterface →
    request.body.field "network_security_group" =
        reference ((answers .createSecurityGroup).field "id") ∧
      ∃ configuration, request.body.field "ip_configurations" = .list [configuration] ∧
        configuration.field "subnet" = reference ((answers .createSubnet).field "id") ∧
        configuration.field? "public_ip_address" =
          if asksForIp made then some (reference ((answers .createPublicIp).field "id")) else none
  machine : ∀ request ∈ made, request.method = .createMachine →
    ∃ interface, (request.body.field "network_profile").field "network_interfaces" =
        .list [interface] ∧
      interface.field "id" = (answers .createInterface).field "id"
  tags : ∀ request ∈ made, request.method = .createGroup ∨ request.method = .createMachine →
    request.body.field "tags" = spec.tags.toValue

/-! ## The plan is wired -/

section Plan

variable (answers : CloudMethod → Value) (location : Text) (spec : RunnerSpec)
  (diskSizeGb : Int) (access : MachineAccess)

def creationPlan : List Request :=
  cataloguePlan location spec ++
    (groupPlan location spec ++ resourcesPlan answers location spec diskSizeGb access)

def plannedMachine : MachineOrder :=
  spec.machineOrder location ((answers .createInterface).field "id") spec.tags diskSizeGb access

inductive Planned : Request → Prop
  | catalogue : Planned (.listSkus location)
  | group : Planned (.createGroup spec.name location spec.tags)
  | network : Planned (.createNetwork spec.name location spec.virtualNetworkCidr)
  | subnet : Planned (.createSubnet spec.name spec.virtualNetworkCidr)
  | publicIp (asked : spec.allocatePublicIp = true) : Planned (.createPublicIp spec.name location)
  | securityGroup : Planned (.createSecurityGroup spec.name location spec.securityRules)
  | interface (usable : usableIp answers spec = true) :
      Planned (.createInterface (plannedInterface answers location spec))
  | machine : Planned (.createMachine (plannedMachine answers location spec diskSizeGb access))

end Plan

section PlanFacts

variable {answers : CloudMethod → Value} {location : Text} {spec : RunnerSpec}
  {diskSizeGb : Int} {access : MachineAccess} {made : List Request}

theorem planned_of_mem {request : Request}
    (member : request ∈ creationPlan answers location spec diskSizeGb access) :
    Planned answers location spec diskSizeGb access request := by
  unfold creationPlan cataloguePlan groupPlan resourcesPlan publicIpPlan attachmentPlan at member
  simp only [List.mem_append, List.mem_cons, List.mem_ite_nil_right, List.not_mem_nil,
    or_false] at member
  rcases member with ⟨_, rfl⟩ | rfl | rfl | rfl | ⟨asked, rfl⟩ | ⟨usable, rfl | rfl | rfl⟩
  · exact .catalogue
  · exact .group
  · exact .network
  · exact .subnet
  · exact .publicIp asked
  · exact .securityGroup
  · exact .interface usable
  · exact .machine

/-- What comes before a member of an initial part is a member too. -/
theorem mem_of_before {α : Type} {initial before after : List α} {reached earlier : α}
    (first : initial <+: before ++ reached :: after) (member : reached ∈ initial)
    (fresh : reached ∉ before) (precedes : earlier ∈ before) : earlier ∈ initial := by
  rcases List.prefix_or_prefix_of_prefix first (List.prefix_append before _) with short | long
  · exact absurd (short.subset member) fresh
  · exact long.subset precedes

/-- Once the interface is called for, a public address was called for exactly when one was asked
for. -/
theorem asksForIp_of_interface
    (first : made <+: creationPlan answers location spec diskSizeGb access) {request : Request}
    (member : request ∈ made) (isInterface : request.method = .createInterface) :
    asksForIp made = spec.allocatePublicIp := by
  cases asked : spec.allocatePublicIp with
  | false =>
      unfold asksForIp
      rw [List.any_eq_false]
      intro other otherMember
      cases planned_of_mem (first.subset otherMember) with
      | publicIp wanted =>
          rw [asked] at wanted
          cases wanted
      | _ => simp [Request.method]
  | true =>
      cases planned_of_mem (first.subset member) with
      | interface usable =>
          let before := cataloguePlan location spec ++ [
            .createGroup spec.name location spec.tags,
            .createNetwork spec.name location spec.virtualNetworkCidr,
            .createSubnet spec.name spec.virtualNetworkCidr,
            .createPublicIp spec.name location,
            .createSecurityGroup spec.name location spec.securityRules]
          have split : creationPlan answers location spec diskSizeGb access =
              before ++ .createInterface (plannedInterface answers location spec) ::
                [.createMachine (plannedMachine answers location spec diskSizeGb access)] := by
            simp [creationPlan, groupPlan, resourcesPlan, publicIpPlan, attachmentPlan, asked,
              usable, before, plannedMachine]
          have fresh : .createInterface (plannedInterface answers location spec) ∉ before := by
            simp [before, cataloguePlan]
          rw [split] at first
          have called : .createPublicIp spec.name location ∈ made :=
            mem_of_before first member fresh (by simp [before])
          unfold asksForIp
          rw [List.any_eq_true]
          exact ⟨_, called, rfl⟩
      | _ => cases isInterface

theorem ipConfiguration_publicIp (order : InterfaceOrder) :
    order.ipConfiguration.field? "public_ip_address" =
      if order.publicIpId.isEmptyLike then none else some (reference order.publicIpId) := by
  unfold InterfaceOrder.ipConfiguration MachineOrder.entryIf
  cases order.publicIpId.isEmptyLike <;> rfl

theorem interface_wired
    (first : made <+: creationPlan answers location spec diskSizeGb access) {request : Request}
    (member : request ∈ made) (isInterface : request.method = .createInterface) :
    request.body.field "network_security_group" =
        reference ((answers .createSecurityGroup).field "id") ∧
      ∃ configuration, request.body.field "ip_configurations" = .list [configuration] ∧
        configuration.field "subnet" = reference ((answers .createSubnet).field "id") ∧
        configuration.field? "public_ip_address" =
          if asksForIp made then some (reference ((answers .createPublicIp).field "id"))
          else none := by
  rw [asksForIp_of_interface first member isInterface]
  cases planned_of_mem (first.subset member) with
  | interface usable =>
      refine ⟨rfl, _, rfl, rfl, ?_⟩
      rw [ipConfiguration_publicIp]
      cases asked : spec.allocatePublicIp with
      | false => simp [plannedInterface, grantedIp, noPublicIp, asked, Value.isEmptyLike]
      | true =>
          have present : ((answers .createPublicIp).field "id").isEmptyLike = false := by
            simpa [usableIp, grantedIp, asked] using usable
          simp [plannedInterface, grantedIp, asked, present]
  | _ => cases isInterface

theorem plan_wired (first : made <+: creationPlan answers location spec diskSizeGb access) :
    Wired spec answers made where
  group := by
    intro request member creates
    cases planned_of_mem (first.subset member) with
    | catalogue => cases creates
    | _ => rfl
  subnet := by
    intro network networkMember subnet subnetMember isNetwork isSubnet
    cases planned_of_mem (first.subset networkMember) with
    | network =>
        cases planned_of_mem (first.subset subnetMember) with
        | subnet => exact ⟨_, _, rfl, rfl, rfl, rfl⟩
        | _ => cases isSubnet
    | _ => cases isNetwork
  interface := fun _ => interface_wired first
  machine := by
    intro request member isMachine
    cases planned_of_mem (first.subset member) with
    | machine => exact ⟨_, rfl, rfl⟩
    | _ => cases isMachine
  tags := by
    intro request member tagged
    cases planned_of_mem (first.subset member) with
    | group => rfl
    | machine => rfl
    | _ => simp [Request.method] at tagged

theorem plan_methods_of_usable (usable : usableIp answers spec = true) :
    (creationPlan answers location spec diskSizeGb access).map Request.method =
      creationMethods spec := by
  unfold creationPlan cataloguePlan groupPlan resourcesPlan publicIpPlan creationMethods
  rw [if_pos usable]
  cases spec.useEphemeralStorage <;> cases spec.allocatePublicIp <;> rfl

/-- Without a usable public address the plan ends early. -/
theorem plan_methods :
    (creationPlan answers location spec diskSizeGb access).map Request.method <+:
      creationMethods spec := by
  cases usable : usableIp answers spec with
  | true => exact (plan_methods_of_usable usable).symm ▸ List.prefix_rfl
  | false =>
      unfold creationPlan cataloguePlan groupPlan resourcesPlan publicIpPlan creationMethods
      cases spec.useEphemeralStorage <;> cases spec.allocatePublicIp <;>
        simp [usable, Request.method]

theorem asksForIp_of_complete (complete : made.map Request.method = creationMethods spec) :
    asksForIp made = spec.allocatePublicIp := by
  have byMethod : asksForIp made =
      (made.map Request.method).any fun method => method == .createPublicIp := by
    rw [List.any_map]
    rfl
  rw [byMethod, complete]
  unfold creationMethods
  cases spec.useEphemeralStorage <;> cases spec.allocatePublicIp <;> rfl

end PlanFacts

/-! ## The calls of a creation -/

theorem constructive_append (earlier later : List Event) :
    constructive (earlier ++ later) = constructive earlier ++ constructive later := by
  simp [constructive]

theorem constructive_eq {events : List Event}
    (keeps : ∀ request ∈ Event.requests events, request.method ≠ .deleteGroup) :
    constructive events = Event.requests events := by
  unfold constructive
  rw [List.filter_eq_self]
  intro request member
  simpa using keeps request member

section Creation

variable {location : Text} {spec : RunnerSpec} {session : Session}

theorem constructive_prepared :
    constructive (prepared location spec session).events =
      Event.requests (prepared location spec session).events :=
  constructive_eq fun _ member => within_prepared.requests member

theorem constructive_filled (diskSizeGb : Int) :
    constructive (filled location spec session diskSizeGb).events =
      Event.requests (filled location spec session diskSizeGb).events :=
  constructive_eq fun _ member => (within_filled diskSizeGb).requests member

theorem constructive_removed (diskSizeGb : Int) :
    constructive (removed location spec session diskSizeGb).events = [] := by
  have removes := rollback_removes (runIn spec session)
    (filled location spec session diskSizeGb).session
  unfold constructive removed
  rw [removes.requests]
  rfl

theorem prepared_requests {diskSizeGb : Int}
    (ready : (prepared location spec session).outcome = .ok diskSizeGb) :
    Event.requests (prepared location spec session).events =
      cataloguePlan location spec ++ groupPlan location spec :=
  ((prepared_progress location spec session).completed diskSizeGb ready).2.1

/-- Once the group is there, the calls follow the plan for some size of the disk. -/
theorem constructive_of_ready {diskSizeGb : Int}
    (ready : (prepared location spec session).outcome = .ok diskSizeGb) :
    constructive (prepared location spec session).events ++
        constructive (filled location spec session diskSizeGb).events <+:
      creationPlan session.script.answer location spec diskSizeGb
        (accessFrom spec session.draws) := by
  rw [constructive_prepared, constructive_filled, prepared_requests ready]
  unfold creationPlan
  rw [← List.append_assoc]
  exact (List.prefix_append_right_inj _).2 (filled_progress ready).made

theorem constructive_of_filled {diskSizeGb : Int} {address : Value}
    (ready : (prepared location spec session).outcome = .ok diskSizeGb)
    (fills : (filled location spec session diskSizeGb).outcome = .ok address) :
    constructive (prepared location spec session).events ++
        constructive (filled location spec session diskSizeGb).events =
      creationPlan session.script.answer location spec diskSizeGb
        (accessFrom spec session.draws) := by
  obtain ⟨_, planned, _⟩ := (filled_progress ready).completed address fills
  rw [constructive_prepared, constructive_filled, prepared_requests ready, planned,
    List.append_assoc]
  rfl

/-- What follows the parts of a creation creates nothing. -/
theorem constructive_rest {rest : List Event} {diskSizeGb : Int}
    (ends : rest = [] ∨ rest = (removed location spec session diskSizeGb).events ∨
      ∃ record, rest = [.logged record]) : constructive rest = [] := by
  rcases ends with rfl | rfl | ⟨record, rfl⟩
  · rfl
  · exact constructive_removed diskSizeGb
  · rfl

/-- The calls of a creation are the first ones of its plan, however it ends. -/
theorem Course.constructive_prefix {execution : Execution RunnerInstance}
    (course : Course location spec session execution) :
    ∃ diskSizeGb access, constructive execution.events <+:
      creationPlan session.script.answer location spec diskSizeGb access := by
  rcases course.parts with early | ⟨diskSizeGb, rest, ready, events, ends⟩
  · have progress := prepared_progress location spec session
    refine ⟨0, .keys [], ?_⟩
    rw [early, constructive_prepared]
    unfold creationPlan
    rw [← List.append_assoc]
    exact progress.made.trans (List.prefix_append _ _)
  · have nothing := constructive_rest ends
    refine ⟨diskSizeGb, accessFrom spec session.draws, ?_⟩
    rw [events, constructive_append, constructive_append, nothing, List.append_nil]
    exact constructive_of_ready ready

/-- What is told about the VM, when it is called for: the size of its disk was found before. -/
theorem Course.ordered_machine {execution : Execution RunnerInstance}
    (course : Course location spec session execution) {request : Request}
    (member : request ∈ Event.requests execution.events)
    (isMachine : request.method = .createMachine) :
    ∃ diskSizeGb, (prepared location spec session).outcome = .ok diskSizeGb ∧
      request = .createMachine (plannedMachine session.script.answer location spec diskSizeGb
        (accessFrom spec session.draws)) := by
  rcases course.parts with early | ⟨diskSizeGb, rest, ready, events, ends⟩
  · rw [early] at member
    have planned := (prepared_progress location spec session).made.subset member
    rcases preparation_methods planned with same | same
    · rw [same] at isMachine
      cases isMachine
    · rw [same] at isMachine
      cases isMachine
  · have nothing := constructive_rest ends
    have constructs : request ∈ constructive execution.events :=
      List.mem_filter.2 ⟨member, by simp [isMachine]⟩
    rw [events, constructive_append, constructive_append, nothing, List.append_nil] at constructs
    refine ⟨diskSizeGb, ready, ?_⟩
    cases planned_of_mem ((constructive_of_ready ready).subset constructs) with
    | machine => rfl
    | _ => cases isMachine

theorem Course.constructive_of_ok {execution : Execution RunnerInstance}
    (course : Course location spec session execution) {runner : RunnerInstance}
    (gives : execution.outcome = .ok runner) :
    (constructive execution.events).map Request.method = creationMethods spec ∧
      runner = instanceOf spec
        (listedAddresses (grantedIp session.script.answer spec).address) := by
  cases course with
  | created ready fills reads =>
      cases gives
      obtain ⟨⟨granted, usable, _⟩, _, _⟩ := (filled_progress ready).completed _ fills
      constructor
      · rw [constructive_append, constructive_append]
        show (_ ++ (_ ++ [])).map Request.method = _
        rw [List.append_nil, constructive_of_filled ready fills, plan_methods_of_usable usable]
      · rw [addressesOf_ok (conclusion_ok reads).1, granted]
  | _ => cases gives

end Creation

/-- The calls of every creation are the first ones of its order, and they are wired; an instance is
given only when all of them were made, with the public address that was called for. -/
theorem creation_wired (controllerId : Text) (config : ProviderConfig) (bootstrap : Bootstrap)
    (session : Session) :
    let run := create controllerId config bootstrap session
    let made := constructive run.events
    match admitted controllerId config bootstrap with
    | .error failure => run.outcome = .error (.failed failure) ∧ Event.requests run.events = []
    | .ok spec =>
      made.map Request.method <+: creationMethods spec ∧
        Wired spec session.script.answer made ∧
        ∀ runner, run.outcome = .ok runner →
          made.map Request.method = creationMethods spec ∧
            runner = instanceOf spec (listedAddresses
              (if asksForIp made then (session.script.answer .createPublicIp).field "ip_address"
                else .null)) := by
  dsimp only
  cases accepts : admitted controllerId config bootstrap with
  | error failure =>
      rw [create_of_refused accepts]
      exact ⟨rfl, rfl⟩
  | ok spec =>
      rw [create_of_admitted accepts]
      have course := createFrom_course config.location spec session
      obtain ⟨diskSizeGb, access, first⟩ := course.constructive_prefix
      refine ⟨(first.map Request.method).trans plan_methods, plan_wired first, ?_⟩
      intro runner gives
      obtain ⟨complete, same⟩ := course.constructive_of_ok gives
      refine ⟨complete, ?_⟩
      rw [same, asksForIp_of_complete complete]
      unfold grantedIp
      cases spec.allocatePublicIp <;> rfl

end Provision

end RunnerCloud
