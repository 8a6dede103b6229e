import RunnerCloud.Text.Basic

/-!
Contract: the steps by which a runner is created.

Owns:
- `Step`, with the name under which failures and log records show it and the action it performs;
- `Boundary`, the points at which a creation looks for a cancellation.

Does not own: what a step does.
-/

namespace RunnerCloud

inductive Step where
  | ephemeralDiskSize
  | resourceGroup
  | virtualNetwork
  | subnet
  | publicIp
  | securityGroup
  | networkInterface
  | virtualMachine
deriving DecidableEq, Repr

namespace Step

def name : Step → Text
  | .ephemeralDiskSize => "ephemeral_disk_size"
  | .resourceGroup => "resource_group"
  | .virtualNetwork => "virtual_network"
  | .subnet => "subnet"
  | .publicIp => "public_ip"
  | .securityGroup => "network_security_group"
  | .networkInterface => "network_interface"
  | .virtualMachine => "virtual_machine"

def action : Step → Text
  | .ephemeralDiskSize => "get max ephemeral disk size"
  | .resourceGroup => "create resource group"
  | .virtualNetwork => "create virtual network"
  | .subnet => "create subnet"
  | .publicIp => "create public IP"
  | .securityGroup => "create network security group"
  | .networkInterface => "create NIC"
  | .virtualMachine => "create VM"

end Step

/-- A creation looks for a cancellation before each step and once more when all are done. -/
inductive Boundary where
  | before (step : Step)
  | completion
deriving DecidableEq, Repr

/-- What would have come next. -/
def Boundary.next : Boundary → Text
  | .before step => step.action
  | .completion => "completion"

end RunnerCloud
