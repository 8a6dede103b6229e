import RunnerCloud.Config.ProviderConfig
import RunnerCloud.Payload.CloudInit
import RunnerCloud.Spec.DiskSize
import RunnerCloud.Spec.Image
import RunnerCloud.Spec.SecurityRule

/-!
Contract: everything that the steps of creating a runner read.

Owns:
- `RunnerSpec`, with its dump `toValue`;
- `RunnerSpec.build`, which lets the pool's overrides win over the request, and the request over the
  configuration, and refuses requests that cannot be served;
- the reserved tags of an instance, which no override replaces.

Does not own: the cloud operations; `Provision` makes them.
-/

namespace RunnerCloud

/-- Tags of a cloud resource. -/
abbrev Tags := List (Text × Text)

namespace Tags

def controllerId : Text := "garm-controller-id"

def poolId : Text := "garm-pool-id"

def osType : Text := "os-type"

def osArch : Text := "os-arch"

def osName : Text := "os-name"

def osVersion : Text := "os-version"

/-- Adds the tags of `extra` whose keys `tags` does not have. -/
def withDefaults (tags extra : Tags) : Tags :=
  tags ++ extra.filter fun tag => (tags.lookup tag.1).isNone

/-- The tags at hand win over the further ones. -/
theorem lookup_withDefaults {tags : Tags} {key value : Text} (extra : Tags)
    (tagged : tags.lookup key = some value) :
    (tags.withDefaults extra).lookup key = some value := by
  unfold withDefaults
  rw [List.lookup_append, tagged, Option.some_or]

def toValue (tags : Tags) : Value :=
  .dict (tags.map fun tag => (tag.1, .text tag.2))

end Tags

structure RunnerSpec where
  name : Text
  bootstrap : Bootstrap
  location : Text
  vmSize : Text
  image : Text
  imageReference : ImageReference
  diskSizeGb : Int
  storageAccountType : Text
  useEphemeralStorage : Bool
  confidential : Bool
  virtualNetworkCidr : Text
  allocatePublicIp : Bool
  useAcceleratedNetworking : Bool
  openInboundPorts : OpenPorts
  sshPublicKeys : List Text
  tags : Tags
  adminUsername : Text
  customData : String
deriving DecidableEq, Repr

namespace RunnerSpec

/-- The size of a managed disk for which no size was asked. -/
def defaultDiskSizeGb : Int := 127

def defaultStorageAccountType : Text := "Standard_LRS"

def adminAccount : Text := "garm"

/-- The first text that is not empty; the last one when all are. -/
def firstGiven : List Text → Text → Text
  | [], last => last
  | text :: rest, last => if text.isEmpty then firstGiven rest last else text

/-- The overrides of a request; a request without any has the empty ones. -/
def extraSpecsOf (bootstrap : Bootstrap) : Except SpecProblem ExtraSpecs :=
  match ExtraSpecs.ofFields (bootstrap.extraSpecs.getD []) with
  | .accepted extra => .ok extra
  | .rejected issues => .error (.invalidExtraSpecs issues)

/-- An unset disk size is zero for an ephemeral disk, which then takes all the local storage. -/
def diskSizeOf (extra : ExtraSpecs) (ephemeral : Bool) : Int :=
  extra.diskSizeGb.getD (if ephemeral then 0 else defaultDiskSizeGb)

/-- Ephemeral disks have one storage type only. -/
def storageTypeOf (extra : ExtraSpecs) (ephemeral : Bool) : Text :=
  if ephemeral then defaultStorageAccountType
  else firstGiven [extra.storageAccountType.getD ""] defaultStorageAccountType

/-- The trimmed network of the overrides or of the configuration. -/
def networkOf (extra : ExtraSpecs) (config : ProviderConfig) : Except SpecProblem Text :=
  let network := Text.trimmed
    (firstGiven [extra.virtualNetworkCidr.getD ""] config.virtualNetworkCidr)
  if network.isEmpty then .error .blankCidr else .ok network

/-- The tags by which the provider finds an instance again. -/
def reservedTags (bootstrap : Bootstrap) (controllerId : Text) (image : ImageReference) :
    Tags := [
  (Tags.controllerId, controllerId),
  (Tags.poolId, bootstrap.poolId),
  (Tags.osType, bootstrap.osType.text),
  (Tags.osArch, bootstrap.arch.text),
  (Tags.osName, image.sku),
  (Tags.osVersion, image.version)]

/-- The spec of a request, all parts of which were found valid. -/
def assemble (bootstrap : Bootstrap) (controllerId : Text) (config : ProviderConfig)
    (extra : ExtraSpecs) (image : Text) (reference : ImageReference) (network : Text)
    (userdata : String) :
    RunnerSpec :=
  let ephemeral := extra.useEphemeralStorage.getD config.useEphemeralStorage
  { name := bootstrap.name
    bootstrap := bootstrap
    location := config.location
    vmSize := firstGiven [extra.vmSize.getD "", bootstrap.flavor] config.vmSize
    image := image
    imageReference := reference
    diskSizeGb := diskSizeOf extra ephemeral
    storageAccountType := storageTypeOf extra ephemeral
    useEphemeralStorage := ephemeral
    confidential := extra.confidential
    virtualNetworkCidr := network
    allocatePublicIp := extra.allocatePublicIp
    useAcceleratedNetworking :=
      extra.useAcceleratedNetworking.getD config.useAcceleratedNetworking
    openInboundPorts := extra.openInboundPorts
    sshPublicKeys := bootstrap.sshKeys ++ extra.sshPublicKeys
    tags := (reservedTags bootstrap controllerId reference).withDefaults extra.extraTags
    adminUsername := adminAccount
    customData := Text.Base64.encode userdata }

/-- The spec of a request, or the first reason why it cannot be served. -/
def build (bootstrap : Bootstrap) (controllerId : Text) (config : ProviderConfig) :
    Except SpecProblem RunnerSpec := do
  if bootstrap.name.isEmpty then throw .missingName
  if controllerId.isEmpty then throw .missingController
  let extra ← extraSpecsOf bootstrap
  let image := firstGiven [extra.image.getD "", bootstrap.image] config.image
  let reference ← ImageReference.ofUrn image
  let network ← networkOf extra config
  let userdata ← bootstrap.userdata
  return assemble bootstrap controllerId config extra image reference network userdata

/-- What a part after another needs is a result of the first. -/
theorem exists_of_bind_eq_ok {ε α β : Type} {first : Except ε α} {next : α → Except ε β} {value : β}
    (gives : (first >>= next) = .ok value) :
    ∃ middle, first = .ok middle ∧ next middle = .ok value := by
  cases first with
  | error problem => cases gives
  | ok middle => exact ⟨middle, rfl, gives⟩

theorem build_ok {bootstrap : Bootstrap} {controllerId : Text} {config : ProviderConfig}
    {spec : RunnerSpec} (builds : build bootstrap controllerId config = .ok spec) :
    ∃ extra reference network userdata,
      let image := firstGiven [extra.image.getD "", bootstrap.image] config.image
      bootstrap.name.isEmpty = false ∧ controllerId.isEmpty = false ∧
      extraSpecsOf bootstrap = .ok extra ∧ ImageReference.ofUrn image = .ok reference ∧
      networkOf extra config = .ok network ∧ bootstrap.userdata = .ok userdata ∧
      spec = assemble bootstrap controllerId config extra image reference network userdata := by
  unfold build at builds
  cases named : bootstrap.name.isEmpty with
  | true =>
      rw [if_pos named] at builds
      cases builds
  | false =>
      rw [if_neg (by simp [named])] at builds
      cases controlled : controllerId.isEmpty with
      | true =>
          rw [if_pos controlled] at builds
          cases builds
      | false =>
          rw [if_neg (by simp [controlled])] at builds
          obtain ⟨extra, extras, builds⟩ := exists_of_bind_eq_ok builds
          obtain ⟨reference, refers, builds⟩ := exists_of_bind_eq_ok builds
          obtain ⟨network, networks, builds⟩ := exists_of_bind_eq_ok builds
          obtain ⟨userdata, renders, builds⟩ := exists_of_bind_eq_ok builds
          exact ⟨extra, reference, network, userdata, rfl, rfl, extras, refers, networks, renders,
            (Except.ok.inj builds).symm⟩

/-- What the spec says about the OS disk. -/
def diskDemand (spec : RunnerSpec) : DiskDemand :=
  ⟨spec.useEphemeralStorage, spec.confidential, spec.diskSizeGb, spec.vmSize⟩

/-- The inbound rules of the instance. -/
def securityRules (spec : RunnerSpec) : List SecurityRule :=
  SecurityRule.ofPorts spec.openInboundPorts

def toValue (spec : RunnerSpec) : Value :=
  .dict [
    ("name", .text spec.name),
    ("bootstrap", spec.bootstrap.toValue),
    ("location", .text spec.location),
    ("vm_size", .text spec.vmSize),
    ("image", .text spec.image),
    ("disk_size_gb", .int spec.diskSizeGb),
    ("storage_account_type", .text spec.storageAccountType),
    ("use_ephemeral_storage", .bool spec.useEphemeralStorage),
    ("confidential", .bool spec.confidential),
    ("virtual_network_cidr", .text spec.virtualNetworkCidr),
    ("allocate_public_ip", .bool spec.allocatePublicIp),
    ("use_accelerated_networking", .bool spec.useAcceleratedNetworking),
    ("open_inbound_ports", spec.openInboundPorts.toValue),
    ("ssh_public_keys", .list (spec.sshPublicKeys.map .text)),
    ("tags", spec.tags.toValue),
    ("admin_username", .text spec.adminUsername),
    ("custom_data", .text spec.customData)]

end RunnerSpec

end RunnerCloud
