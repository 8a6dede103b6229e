import RunnerCloud.Config.Credentials

/-!
Contract: the configuration of a provider.

Owns:
- `ProviderConfig`, with its defaults, its reader `ofValue`, which refuses unknown keys and a blank
  network, and its dump `toValue`.

Does not own: the file that holds the configuration; `Config.File` reads it.
-/

namespace RunnerCloud

open Validation

structure ProviderConfig where
  location : Text
  useEphemeralStorage : Bool
  useAcceleratedNetworking : Bool
  virtualNetworkCidr : Text
  vmSize : Text
  image : Text
  credentials : Credentials
deriving DecidableEq, Repr

namespace ProviderConfig

/-- The name by which reports call the model. -/
def modelName : Text := "AzureConfig"

def fieldNames : List Text := [
  "location", "use_ephemeral_storage", "use_accelerated_networking", "virtual_network_cidr",
  "vm_size", "image", "credentials"]

def defaultNetwork : Text := "10.10.0.0/24"

def defaultVmSize : Text := "Standard_F2s"

def defaultImage : Text := "Canonical:0001-com-ubuntu-server-jammy:22_04-lts-gen2:latest"

def checkNetwork (config : ProviderConfig) : Checked ProviderConfig :=
  if (Text.trimmed config.virtualNetworkCidr).isEmpty then
    .reject (.refused "virtual_network_cidr must not be empty")
  else .accepted config

/-- The credentials section; without one it counts as empty. -/
def credentialsOf (environment : Environment) (fields : Fields) : Checked Credentials :=
  (Credentials.ofValue environment ((fields.get? "credentials").getD (.dict []))).under
    (.key "credentials")

def ofFields (environment : Environment) (fields : Fields) : Checked ProviderConfig :=
  Checked.ensure
    (closed fieldNames fields <| ProviderConfig.mk
      <$> required fields (.plain "location") text
      <*> optional fields (.plain "use_ephemeral_storage") false bool
      <*> optional fields (.plain "use_accelerated_networking") false bool
      <*> optional fields (.plain "virtual_network_cidr") defaultNetwork text
      <*> optional fields (.plain "vm_size") defaultVmSize text
      <*> optional fields (.plain "image") defaultImage text
      <*> credentialsOf environment fields)
    checkNetwork

def ofValue (environment : Environment) : Value → Checked ProviderConfig :=
  record modelName (ofFields environment)

def toValue (config : ProviderConfig) : Value :=
  .dict [
    ("location", .text config.location),
    ("use_ephemeral_storage", .bool config.useEphemeralStorage),
    ("use_accelerated_networking", .bool config.useAcceleratedNetworking),
    ("virtual_network_cidr", .text config.virtualNetworkCidr),
    ("vm_size", .text config.vmSize),
    ("image", .text config.image),
    ("credentials", config.credentials.toValue)]

end ProviderConfig

end RunnerCloud
