import RunnerCloud.Cloud.Call
import RunnerCloud.Cloud.MachineRecord
import RunnerCloud.Cloud.Password
import RunnerCloud.Cloud.Sku

/-!
Contract: the actions on the cloud that the provider is built from.

Owns:
- one operation for each action, in the location of the provider where a location is needed;
- `guarded`, by which an error of a service is `reported` as the failure of the action, while
  everything else is passed on unchanged.

Does not own: the order of actions; `Provision` composes them.
-/

namespace RunnerCloud.Cloud

open Operation

variable {α : Type}

/-- What an action makes of a failure: an error of a service becomes a failure of the action. -/
def reported (action : CloudAction) : Failure → Failure
  | .fault (.service kind detail) => .cloud (.failed action kind detail)
  | failure => failure

/-- Performs an action, which reports its own failures. -/
def guarded (action : CloudAction) (operation : Operation α) : Operation α :=
  operation.recover fun failure => fail (reported action failure)

/-- Starts a long-running operation and waits for its result. -/
def complete (watched : Bool) (request : Request) : Operation Value := do
  let pending ← begin request
  await watched pending

def createGroup (location name : Text) (tags : Tags) : Operation Value :=
  guarded (.createGroup name) (submit (.createGroup name location tags))

/-- Deletes a group with everything in it; nothing stops the wait. -/
def deleteGroup (name : Text) (force : Bool) : Operation Unit :=
  guarded (.deleteGroup name) do
    let _ ← complete false (.deleteGroup name force)

def createNetwork (location : Text) (watched : Bool) (group cidr : Text) : Operation Value :=
  guarded (.createNetwork group) (complete watched (.createNetwork group location cidr))

def createSubnet (watched : Bool) (group cidr : Text) : Operation Value :=
  guarded (.createSubnet group) (complete watched (.createSubnet group cidr))

def createPublicIp (location : Text) (watched : Bool) (group : Text) : Operation Value :=
  guarded (.createPublicIp group) (complete watched (.createPublicIp group location))

def createSecurityGroup (location : Text) (watched : Bool) (group : Text)
    (rules : List SecurityRule) : Operation Value :=
  guarded (.createSecurityGroup group)
    (complete watched (.createSecurityGroup group location rules))

def createInterface (watched : Bool) (order : InterfaceOrder) : Operation Value :=
  guarded (.createInterface order.group) (complete watched (.createInterface order))

/-- Keys give access where there are any, else a fresh password. -/
def accessOf (spec : RunnerSpec) : Operation MachineAccess :=
  if spec.sshPublicKeys.isEmpty then do
    let draws ← drawNumbers Password.standardLength
    return .password (Password.ofDraws draws)
  else pure (.keys spec.sshPublicKeys)

/-- Creates the VM in the group that has its name. -/
def createMachine (location : Text) (watched : Bool) (spec : RunnerSpec) (interfaceId : Value)
    (tags : Tags) (diskSizeGb : Int) : Operation Value := do
  let access ← accessOf spec
  guarded (.createMachine spec.name)
    (complete watched
      (.createMachine (spec.machineOrder location interfaceId tags diskSizeGb access)))

def getMachine (group name : Text) : Operation Value :=
  guarded (.getMachine name) (submit (.getMachine group name))

/-- Whether an item of a listing belongs to a pool; missing items are kept for the caller to
refuse. -/
def isListedFor (poolId : Text) : Value → Except Misuse Bool
  | .null => .ok true
  | .dict entries => do
    let tags ← ((Value.dict entries).field "tags").givenEntries
    return (tags.get? Tags.poolId).bind Value.text? == some poolId
  | item => .error (item.lacks "tags")

/-- The items of a listing that are kept for a pool. -/
def listedFor (poolId : Text) : List Value → Except Misuse (List Value)
  | [] => .ok []
  | item :: rest => do
    let listed ← isListedFor poolId item
    let others ← listedFor poolId rest
    return if listed then item :: others else others

/-- The VMs of a pool; each item is looked at when it comes, before the listing goes on. -/
def listMachines (poolId : Text) : Operation (List Value) :=
  guarded (.listMachines poolId) do
    let listing ← list .listMachines
    let machines ← ofExcept .misused (listedFor poolId listing.items)
    raise .listMachines listing.fault
    return machines

/-- The first catalogue entry of a VM size, if there is one; a fault behind it is never met. -/
def listedSku (location vmSize : Text) : Operation (Option Sku) := do
  let listing ← list (.listSkus location)
  match (listing.items.map Sku.ofValue).find? (·.isFor vmSize) with
  | some sku => return some sku
  | none =>
    raise (.listSkus location) listing.fault
    return none

/-- The catalogue entry of a VM size, which the location has to offer. -/
def findSku (location vmSize : Text) : Operation Sku := do
  match ← guarded (.listSkus location) (listedSku location vmSize) with
  | some sku => return sku
  | none => fail (.cloud (.vmSizeMissing vmSize location))

/-- The largest ephemeral disk, in gigabytes, that VMs of a size can have. -/
def maxEphemeralGb (location vmSize : Text) : Operation Int := do
  let sku ← findSku location vmSize
  ofExcept id (sku.ephemeralGb vmSize)

def deallocateMachine (group name : Text) : Operation Unit :=
  guarded (.deallocateMachine name) do
    let _ ← complete false (.deallocateMachine group name)

def startMachine (group name : Text) : Operation Unit :=
  guarded (.startMachine name) do
    let _ ← complete false (.startMachine group name)

end RunnerCloud.Cloud
