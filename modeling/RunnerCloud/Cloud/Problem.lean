import RunnerCloud.Cloud.Fault

/-!
Contract: what the cloud client reports when an action fails.

Owns:
- `CloudAction`, what the client was doing, and its description;
- `CloudProblem`, a failed action with the service's error, or a VM size that the location does not
  offer, and its message.

Does not own: faults that no service reported; the client passes them on unchanged.
-/

namespace RunnerCloud

inductive CloudAction where
  | createGroup (name : Text)
  | deleteGroup (name : Text)
  | createNetwork (group : Text)
  | createSubnet (group : Text)
  | createPublicIp (group : Text)
  | createSecurityGroup (group : Text)
  | createInterface (group : Text)
  | createMachine (name : Text)
  | getMachine (name : Text)
  | listMachines (poolId : Text)
  | listSkus (location : Text)
  | deallocateMachine (name : Text)
  | startMachine (name : Text)
deriving DecidableEq, Repr

namespace CloudAction

def description : CloudAction → Text
  | .createGroup name => "create resource group '" ++ name ++ "'"
  | .deleteGroup name => "delete resource group '" ++ name ++ "'"
  | .createNetwork group => "create virtual network in '" ++ group ++ "'"
  | .createSubnet group => "create subnet in '" ++ group ++ "'"
  | .createPublicIp group => "create public IP in '" ++ group ++ "'"
  | .createSecurityGroup group => "create network security group in '" ++ group ++ "'"
  | .createInterface group => "create network interface in '" ++ group ++ "'"
  | .createMachine name => "create virtual machine '" ++ name ++ "'"
  | .getMachine name => "get virtual machine '" ++ name ++ "'"
  | .listMachines poolId => "list virtual machines for pool '" ++ poolId ++ "'"
  | .listSkus location => "list resource SKUs in '" ++ location ++ "'"
  | .deallocateMachine name => "deallocate virtual machine '" ++ name ++ "'"
  | .startMachine name => "start virtual machine '" ++ name ++ "'"

end CloudAction

inductive CloudProblem where
  | failed (action : CloudAction) (kind : ServiceErrorKind) (detail : Text)
  | vmSizeMissing (vmSize location : Text)
deriving DecidableEq, Repr

namespace CloudProblem

def message : CloudProblem → Text
  | .failed action _ detail => "Failed to " ++ action.description ++ ": " ++ detail
  | .vmSizeMissing vmSize location => "VM size " ++ vmSize ++ " not found in " ++ location

/-- Whether the problem is that something does not exist. -/
def isNotFound : CloudProblem → Bool
  | .failed _ kind _ => kind == .notFound
  | .vmSizeMissing _ _ => true

/-- The service error behind the problem. -/
def serviceError? : CloudProblem → Option ServiceErrorKind
  | .failed _ kind _ => some kind
  | .vmSizeMissing _ _ => none

end CloudProblem

end RunnerCloud
