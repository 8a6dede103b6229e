import RunnerCloud.Validation.Record

/-!
Contract: the overrides that a pool attaches to its requests.

Owns:
- `Protocol`, the transport protocols that a port may be opened for, read in any letter case;
- `ExtraSpecs`, with its reader `ofValue`, which refuses unknown keys, other protocols and ports
  outside 1 to 65535, and its dump `toValue`.

Does not own: how overrides combine with the request and the configuration; `RunnerSpec` does.
-/

namespace RunnerCloud

open Validation

inductive Protocol where
  | tcp
  | udp
deriving DecidableEq, Repr

namespace Protocol

/-- The protocol that a key names; no character outside ASCII has a lower case of these letters. -/
def ofText? (written : Text) : Option Protocol :=
  if written.toLower == "tcp" then some .tcp
  else if written.toLower == "udp" then some .udp
  else none

/-- The name in rule names. -/
def lowerName : Protocol → Text
  | .tcp => "tcp"
  | .udp => "udp"

/-- The name that the cloud gives the protocol. -/
def cloudName : Protocol → Text
  | .tcp => "Tcp"
  | .udp => "Udp"

end Protocol

/-- The ports to open, by the protocol key that the pool wrote. -/
abbrev OpenPorts := List (Text × List Int)

namespace OpenPorts

/-- Why a port list is refused, if it is: its protocol first, then its first bad port. -/
def refusal? (entry : Text × List Int) : Option Text :=
  match Protocol.ofText? entry.1 with
  | none => some ("unsupported protocol " ++ Text.quoted entry.1 ++ " (supported: tcp, udp)")
  | some _ =>
    (entry.2.find? fun port => !(0 < port && port < 65536)).map fun port =>
      if Number.fits port then "invalid port " ++ port.repr else Number.unwritableMessage

/-- Accepts port lists of known protocols with ports between 1 and 65535. -/
def check (ports : OpenPorts) : Checked OpenPorts :=
  match ports.findSome? refusal? with
  | some reason => .reject (.refused reason)
  | none => .accepted ports

def ofValue (value : Value) : Checked OpenPorts :=
  (dict (list int) value).ensure check

def toValue (ports : OpenPorts) : Value :=
  .dict (ports.map fun entry => (entry.1, .list (entry.2.map .int)))

end OpenPorts

structure ExtraSpecs where
  allocatePublicIp : Bool
  confidential : Bool
  openInboundPorts : OpenPorts
  storageAccountType : Option Text
  diskSizeGb : Option Int
  extraTags : List (Text × Text)
  sshPublicKeys : List Text
  useEphemeralStorage : Option Bool
  useAcceleratedNetworking : Option Bool
  virtualNetworkCidr : Option Text
  vmSize : Option Text
  image : Option Text
deriving DecidableEq, Repr

namespace ExtraSpecs

/-- The name by which reports call the model. -/
def modelName : Text := "ExtraSpecs"

def fieldNames : List Text := [
  "allocate_public_ip", "confidential", "open_inbound_ports", "storage_account_type",
  "disk_size_gb", "extra_tags", "ssh_public_keys", "use_ephemeral_storage",
  "use_accelerated_networking", "virtual_network_cidr", "vm_size", "image"]

def ofFields (fields : Fields) : Checked ExtraSpecs :=
  let words (name : Text) := optional fields (.plain name) none (nullable text)
  let switch (name : Text) := optional fields (.plain name) false bool
  let override (name : Text) := optional fields (.plain name) none (nullable bool)
  closed fieldNames fields <| ExtraSpecs.mk
    <$> switch "allocate_public_ip"
    <*> switch "confidential"
    <*> optional fields (.plain "open_inbound_ports") [] OpenPorts.ofValue
    <*> words "storage_account_type"
    <*> optional fields (.plain "disk_size_gb") none (nullable nonNegativeInt)
    <*> optional fields (.plain "extra_tags") [] (dict text)
    <*> optional fields (.plain "ssh_public_keys") [] (list text)
    <*> override "use_ephemeral_storage"
    <*> override "use_accelerated_networking"
    <*> words "virtual_network_cidr"
    <*> words "vm_size"
    <*> words "image"

def ofValue : Value → Checked ExtraSpecs :=
  record modelName ofFields

/-- A boolean or null. -/
def flagValue : Option Bool → Value
  | some flag => .bool flag
  | none => .null

def toValue (specs : ExtraSpecs) : Value :=
  .dict [
    ("allocate_public_ip", .bool specs.allocatePublicIp),
    ("confidential", .bool specs.confidential),
    ("open_inbound_ports", specs.openInboundPorts.toValue),
    ("storage_account_type", .ofText? specs.storageAccountType),
    ("disk_size_gb", (specs.diskSizeGb.map .int).getD .null),
    ("extra_tags", .dict (specs.extraTags.map fun tag => (tag.1, .text tag.2))),
    ("ssh_public_keys", .list (specs.sshPublicKeys.map .text)),
    ("use_ephemeral_storage", flagValue specs.useEphemeralStorage),
    ("use_accelerated_networking", flagValue specs.useAcceleratedNetworking),
    ("virtual_network_cidr", .ofText? specs.virtualNetworkCidr),
    ("vm_size", .ofText? specs.vmSize),
    ("image", .ofText? specs.image)]

end ExtraSpecs

end RunnerCloud
