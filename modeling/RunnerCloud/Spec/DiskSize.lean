import RunnerCloud.Spec.Problem

/-!
Contract: the size of the OS disk that is requested for a VM.

Owns:
- `DiskDemand`, what the spec says about the disk;
- `DiskDemand.resolve`, the size to request. An ephemeral disk has to fit the local storage of the
  VM size, of which a confidential VM keeps one gigabyte for its guest state; an unset size, zero,
  takes the whole of it. A managed disk has the size asked for.

Does not own: how much local storage a VM size has.
-/

namespace RunnerCloud

structure DiskDemand where
  ephemeral : Bool
  confidential : Bool
  requestedGb : Int
  vmSize : Text
deriving DecidableEq, Repr

namespace DiskDemand

/-- Gigabytes of local storage that a confidential VM keeps for its guest state. -/
def confidentialOverheadGb : Int := 1

/-- The part of the local storage that an ephemeral disk can take. -/
def usableGb (demand : DiskDemand) (maximumGb : Int) : Int :=
  if demand.confidential then maximumGb - confidentialOverheadGb else maximumGb

/-- The size to request where the VM size has `maximumGb` of local storage. -/
def resolve (demand : DiskDemand) (maximumGb : Int) : Except CapacityProblem Int :=
  let usable := demand.usableGb maximumGb
  if !demand.ephemeral then .ok demand.requestedGb
  else if usable < 1 then .error (.noUsableStorage demand.vmSize usable)
  else if demand.requestedGb == 0 then .ok usable
  else if usable < demand.requestedGb then
    .error (.exceedsMaximum demand.vmSize usable demand.requestedGb)
  else .ok demand.requestedGb

end DiskDemand

end RunnerCloud
