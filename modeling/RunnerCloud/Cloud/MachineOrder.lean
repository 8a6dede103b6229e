import RunnerCloud.Spec.ResourceName
import RunnerCloud.Spec.RunnerSpec

/-!
Contract: the VM that is ordered for a runner.

Owns:
- `MachineAccess`, by which keys or password a person could sign in to the VM;
- `MachineOrder`, everything that the cloud is told about the VM, built from a spec by
  `RunnerSpec.machineOrder`, with its written form `toValue`.

Does not own: where passwords come from.
-/

namespace RunnerCloud

inductive MachineAccess where
  | keys (publicKeys : List Text)
  | password (secret : Text)
deriving DecidableEq, Repr

structure MachineOrder where
  name : Text
  location : Text
  tags : Tags
  vmSize : Text
  image : ImageReference
  diskSizeGb : Int
  storageAccountType : Text
  ephemeral : Bool
  confidential : Bool
  adminUsername : Text
  customData : String
  access : MachineAccess
  interfaceId : Value
deriving DecidableEq, Repr

/-- The order for the VM of a spec. -/
def RunnerSpec.machineOrder (spec : RunnerSpec) (location : Text) (interfaceId : Value)
    (tags : Tags) (diskSizeGb : Int) (access : MachineAccess) : MachineOrder :=
  { name := spec.name
    location := location
    tags := tags
    vmSize := spec.vmSize
    image := spec.imageReference
    diskSizeGb := diskSizeGb
    storageAccountType := spec.storageAccountType
    ephemeral := spec.useEphemeralStorage
    confidential := spec.confidential
    adminUsername := spec.adminUsername
    customData := spec.customData
    access := access
    interfaceId := interfaceId }

namespace MachineOrder

/-- An entry when a condition holds. -/
def entryIf (condition : Bool) (key : Text) (value : Value) : Fields :=
  if condition then [(key, value)] else []

def managedDisk (order : MachineOrder) : Value :=
  .dict (("storage_account_type", .text order.storageAccountType) ::
    entryIf order.confidential "security_profile"
      (.dict [("security_encryption_type", .text "VMGuestStateOnly")]))

/-- A size of zero is left to the cloud; an ephemeral disk lives on the local storage. -/
def osDisk (order : MachineOrder) : Value :=
  .dict (([
    ("name", .text (ResourceName.osDisk order.name)),
    ("create_option", .text "FromImage"),
    ("delete_option", .text "Delete"),
    ("caching", .text (if order.ephemeral then "ReadOnly" else "ReadWrite")),
    ("managed_disk", order.managedDisk)] : Fields) ++
    entryIf (order.diskSizeGb != 0) "disk_size_gb" (.int order.diskSizeGb) ++
    entryIf order.ephemeral "diff_disk_settings"
      (.dict [("option", .text "Local"), ("placement", .text "ResourceDisk")]))

def authorizedKey (adminUsername key : Text) : Value :=
  .dict [
    ("path", .text ("/home/" ++ adminUsername ++ "/.ssh/authorized_keys")),
    ("key_data", .text key)]

def accessEntry (order : MachineOrder) : Text × Value :=
  match order.access with
  | .password secret => ("admin_password", .text secret)
  | .keys publicKeys =>
    ("linux_configuration", .dict [
      ("disable_password_authentication", .bool true),
      ("ssh", .dict [
        ("public_keys", .list (publicKeys.map (authorizedKey order.adminUsername)))])])

def osProfile (order : MachineOrder) : Value :=
  .dict [
    ("computer_name", .text order.name),
    ("admin_username", .text order.adminUsername),
    ("custom_data", .text order.customData),
    order.accessEntry]

def securityProfile : Value :=
  .dict [
    ("security_type", .text "ConfidentialVM"),
    ("uefi_settings", .dict [
      ("secure_boot_enabled", .bool true),
      ("v_tpm_enabled", .bool true)])]

def toValue (order : MachineOrder) : Value :=
  .dict (([
    ("location", .text order.location),
    ("tags", order.tags.toValue),
    ("hardware_profile", .dict [("vm_size", .text order.vmSize)]),
    ("storage_profile", .dict [
      ("image_reference", order.image.toValue),
      ("os_disk", order.osDisk)]),
    ("os_profile", order.osProfile),
    ("network_profile", .dict [
      ("network_interfaces", .list [
        .dict [("id", order.interfaceId), ("primary", .bool true)]])])] : Fields) ++
    entryIf order.confidential "security_profile" securityProfile)

end MachineOrder

end RunnerCloud
