import RunnerCloud.Failure
import RunnerCloud.Number.IntegerText

/-!
Contract: what the cloud says about the local storage of a VM size.

Owns:
- `Sku`, an entry of the cloud's catalogue, with its reader; its capabilities may have values of any
  kind, and the last one of a name counts;
- `Sku.ephemeralGb`, the gigabytes that an ephemeral disk of the size can have.

Does not own: which entry of the catalogue is meant.
-/

namespace RunnerCloud

/-- A named property of a catalogue entry. -/
structure Capability where
  name : Option Text
  value : Value
deriving DecidableEq, Repr

structure Sku where
  name : Option Text
  resourceType : Option Text
  capabilities : List Capability
deriving DecidableEq, Repr

namespace Sku

def capabilityOf (value : Value) : Capability :=
  ⟨(value.field "name").text?, value.field "value"⟩

def ofValue (value : Value) : Sku :=
  { name := (value.field "name").text?
    resourceType := (value.field "resource_type").text?
    capabilities := (value.field "capabilities").items.map capabilityOf }

/-- Whether the entry is about VMs of a size. -/
def isFor (sku : Sku) (vmSize : Text) : Bool :=
  sku.resourceType == some "virtualMachines" && sku.name == some vmSize

/-- The last capability of a name. -/
def capability? (sku : Sku) (name : Text) : Option Capability :=
  sku.capabilities.reverse.find? fun capability => capability.name == some name

/-- The capability that says whether ephemeral disks are supported at all. -/
def supportName : Text := "EphemeralOSDiskSupported"

/-- The capability that gives the local storage in megabytes. -/
def storageName : Text := "MaxResourceVolumeMB"

def megabytesPerGigabyte : Int := 1024

/-- What the entry says under a name; null when it does not say anything. -/
def property (sku : Sku) (name : Text) : Value :=
  ((sku.capability? name).map (·.value)).getD .null

/-- Ephemeral disks are supported unless the entry denies it, in any letter case. -/
def supportsEphemeral (sku : Sku) : Bool :=
  (sku.property supportName).inMessage.toLower != "false"

/-- The whole megabytes that a value gives, a fraction cut off; none when it is no number. -/
def wholeOf? : Value → Except Failure (Option Int)
  | .text written =>
    match Number.readInteger written with
    | .ok number => .ok (some number)
    | .error .malformed => .error (.unreadableInteger written)
    | .error (.oversized problem) => .error (.oversizedInteger problem)
  | .int number => .ok (some number)
  | .bool value => .ok (some (if value then 1 else 0))
  | .float value =>
    match value.truncated? with
    | some number => .ok (some number)
    | none => .error (.notFinite value)
  | _ => .ok none

/-- The local storage in megabytes, none when it is not given. -/
def storageMb? (sku : Sku) : Except Failure (Option Int) :=
  let written := sku.property storageName
  if written.isEmptyLike then .ok none else wholeOf? written

/-- The gigabytes, rounded down, of local storage that a VM size offers to an ephemeral disk. -/
def ephemeralGb (sku : Sku) (vmSize : Text) : Except Failure Int :=
  if !sku.supportsEphemeral then .error (.capacity (.ephemeralUnsupported vmSize))
  else
    match sku.storageMb? with
    | .error failure => .error failure
    | .ok none => .error (.capacity (.noLocalStorage vmSize))
    | .ok (some megabytes) =>
      if megabytes ≤ 0 then .error (.capacity (.noLocalStorage vmSize))
      else .ok (megabytes / megabytesPerGigabyte)

end Sku

end RunnerCloud
