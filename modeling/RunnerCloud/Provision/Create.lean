import RunnerCloud.Provision.CreateRun
import RunnerCloud.Instance

/-!
Contract: the creation of a runner.

Owns:
- `Provision.prepare`, which sizes the disk and creates the resource group of the instance;
- `Provision.resources`, everything that is created inside the group, each part attached to the
  parts before it;
- `Provision.create`, which refuses requests that cannot be served before any call, prepares the
  group, and fills it; once the group exists, every failure removes it.

Does not own: finding, stopping and deleting runners.
-/

namespace RunnerCloud.Provision

open Operation CreateRun

/-- The size of the OS disk, for which an ephemeral disk needs to know its VM size. -/
def diskSize (run : CreateRun) (location : Text) (spec : RunnerSpec) : Operation Int :=
  if spec.useEphemeralStorage then do
    let maximumGb ← run.step .ephemeralDiskSize (Cloud.maxEphemeralGb location spec.vmSize)
    ofExcept .ofCapacity (spec.diskDemand.resolve maximumGb)
  else pure spec.diskSizeGb

/-- A public address with the identifier of its resource. -/
structure PublicIp where
  address : Value
  identifier : Value
deriving DecidableEq, Repr

/-- The public address of an instance that asks for none. -/
def noPublicIp : PublicIp :=
  ⟨.null, .null⟩

def publicIp (run : CreateRun) (location : Text) (spec : RunnerSpec) : Operation PublicIp :=
  if spec.allocatePublicIp then do
    let resource ← run.step .publicIp (Cloud.createPublicIp location true run.name)
    let identifier ← resourceId .publicIp resource
    return ⟨resource.field "ip_address", identifier⟩
  else pure noPublicIp

/-- The network interface, attached to the subnet, the security group and the public address. -/
def interface (run : CreateRun) (location : Text) (spec : RunnerSpec)
    (subnet securityGroup publicIpId : Value) : Operation Value := do
  let subnetId ← resourceId .subnet subnet
  let securityGroupId ← resourceId .securityGroup securityGroup
  run.step .networkInterface
    (Cloud.createInterface true
      { group := run.name
        location := location
        subnetId := subnetId
        securityGroupId := securityGroupId
        publicIpId := publicIpId
        accelerated := spec.useAcceleratedNetworking })

/-- Creates everything inside the group; the result is the public address. -/
def resources (run : CreateRun) (location : Text) (spec : RunnerSpec) (diskSizeGb : Int) :
    Operation Value := do
  let _ ← run.step .virtualNetwork
    (Cloud.createNetwork location true run.name spec.virtualNetworkCidr)
  let subnet ← run.step .subnet (Cloud.createSubnet true run.name spec.virtualNetworkCidr)
  let publicIp ← publicIp run location spec
  let securityGroup ← run.step .securityGroup
    (Cloud.createSecurityGroup location true run.name spec.securityRules)
  let interface ← interface run location spec subnet securityGroup publicIp.identifier
  let interfaceId ← resourceId .networkInterface interface
  let _ ← run.step .virtualMachine
    (Cloud.createMachine location true spec interfaceId spec.tags diskSizeGb)
  run.checkCancelled .completion
  return publicIp.address

/-- The public addresses of an instance: one, unless the cloud gave none. -/
def addressesOf (publicAddress : Value) : Except Failure (List Address) :=
  if publicAddress.isEmptyLike then .ok []
  else
    match Address.ofValue (.dict [
        ("address", publicAddress), ("type", .text AddressKind.external.text)]) with
    | .accepted address => .ok [address]
    | .rejected issues => .error (.invalidModel Address.modelName issues)

/-- The instance of a spec, running since its creation. -/
def instanceOf (spec : RunnerSpec) (addresses : List Address) : RunnerInstance :=
  { providerId := spec.name
    name := spec.name
    osType := some spec.bootstrap.osType
    osArch := some spec.bootstrap.arch
    osName := spec.imageReference.sku
    osVersion := spec.imageReference.version
    status := .running
    addresses := addresses }

/-- What the log says about a finished creation, where the size of its disk can be written. -/
def createdMessage (spec : RunnerSpec) (diskSizeGb : Int) : Except Failure Text :=
  if Number.fits diskSizeGb then
    .ok ("created instance " ++ spec.name ++ " (" ++ spec.vmSize ++ ", " ++ diskSizeGb.repr ++
      " GB disk)")
  else .error .unwritableInteger

/-- What a creation ends with: the addresses of the instance, and the message about it. -/
def conclusion (spec : RunnerSpec) (diskSizeGb : Int) (publicAddress : Value) :
    Except Failure (List Address × Text) :=
  match addressesOf publicAddress with
  | .error failure => .error failure
  | .ok addresses => (createdMessage spec diskSizeGb).map fun message => (addresses, message)

/-- Tells what a creation has come to. -/
def conclude (run : CreateRun) (spec : RunnerSpec) (diskSizeGb : Int) (publicAddress : Value) :
    Operation RunnerInstance := do
  let (addresses, message) ← ofExcept id (conclusion spec diskSizeGb publicAddress)
  run.log LogLevel.info message none
  return instanceOf spec addresses

/-- Creates the group, once the size of the disk is known. -/
def prepare (run : CreateRun) (location : Text) (spec : RunnerSpec) : Operation Int := do
  let diskSizeGb ← diskSize run location spec
  let _ ← run.step .resourceGroup (Cloud.createGroup location run.name spec.tags)
  return diskSizeGb

/-- Creates the runner of a spec. -/
def createFrom (location : Text) (spec : RunnerSpec) : Operation RunnerInstance := do
  let run : CreateRun := ⟨spec.name, ← drawSerial⟩
  let diskSizeGb ← prepare run location spec
  let publicAddress ← run.rollingBack (resources run location spec diskSizeGb)
  conclude run spec diskSizeGb publicAddress

/-- The spec of a request for the one supported architecture. -/
def admitted (controllerId : Text) (config : ProviderConfig) (bootstrap : Bootstrap) :
    Except Failure RunnerSpec :=
  if bootstrap.arch != .supported then .error (.unsupportedArch bootstrap.arch)
  else
    match RunnerSpec.build bootstrap controllerId config with
    | .ok spec => .ok spec
    | .error problem => .error (.spec problem)

/-- Creates the runner that a request asks for. -/
def create (controllerId : Text) (config : ProviderConfig) (bootstrap : Bootstrap) :
    Operation RunnerInstance := do
  let spec ← ofExcept id (admitted controllerId config bootstrap)
  createFrom config.location spec

end RunnerCloud.Provision
