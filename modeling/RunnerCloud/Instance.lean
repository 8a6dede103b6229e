import RunnerCloud.Platform
import RunnerCloud.Validation.Record

/-!
Contract: the view of a runner that the provider reports to the host.

Owns:
- `Address` and `RunnerInstance`, each with its reader `ofValue` and its dump `toValue`.

Does not own: where the values come from.
-/

namespace RunnerCloud

open Validation

structure Address where
  address : Text
  kind : AddressKind
deriving DecidableEq, Repr

namespace Address

/-- The name by which reports call the model. -/
def modelName : Text := "Address"

def ofFields (fields : Fields) : Checked Address :=
  Address.mk <$> required fields (.plain "address") text
    <*> required fields (.plain "type") (choice AddressKind.texts AddressKind.ofText?)

def ofValue : Value → Checked Address :=
  record modelName ofFields

def toValue (address : Address) : Value :=
  .dict [("address", .text address.address), ("type", .text address.kind.text)]

end Address

structure RunnerInstance where
  providerId : Text
  name : Text
  osType : Option OsType
  osArch : Option Arch
  osName : Text
  osVersion : Text
  status : InstanceStatus
  addresses : List Address
deriving DecidableEq, Repr

namespace RunnerInstance

/-- The name by which reports call the model. -/
def modelName : Text := "ProviderInstance"

def ofFields (fields : Fields) : Checked RunnerInstance :=
  RunnerInstance.mk
    <$> required fields (.plain "provider_id") text
    <*> required fields (.plain "name") text
    <*> optional fields (.plain "os_type") none
      (nullable (choice OsType.texts OsType.ofText?))
    <*> optional fields (.plain "os_arch") none (nullable (choice Arch.texts Arch.ofText?))
    <*> optional fields (.plain "os_name") "" text
    <*> optional fields (.plain "os_version") "" text
    <*> optional fields (.plain "status") .unknown
      (choice InstanceStatus.texts InstanceStatus.ofText?)
    <*> optional fields (.plain "addresses") [] (list Address.ofValue)

/-- Reads an instance; keys that the model does not know are ignored. -/
def ofValue : Value → Checked RunnerInstance :=
  record modelName ofFields

def toValue (runner : RunnerInstance) : Value :=
  .dict [
    ("provider_id", .text runner.providerId),
    ("name", .text runner.name),
    ("os_type", .ofText? (runner.osType.map OsType.text)),
    ("os_arch", .ofText? (runner.osArch.map Arch.text)),
    ("os_name", .text runner.osName),
    ("os_version", .text runner.osVersion),
    ("status", .text runner.status.text),
    ("addresses", .list (runner.addresses.map Address.toValue))]

end RunnerInstance

end RunnerCloud
