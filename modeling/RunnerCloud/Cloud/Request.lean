import RunnerCloud.Cloud.MachineOrder

/-!
Contract: the calls that the provider makes to the cloud services.

Owns:
- `CloudMethod`, the methods of the services, and which of them start long-running operations;
- `Request`, one constructor for each call, with its method, its arguments and its named options.

Does not own: the answers.
-/

namespace RunnerCloud

inductive CloudMethod where
  | createGroup
  | deleteGroup
  | createNetwork
  | createSubnet
  | createPublicIp
  | createSecurityGroup
  | createInterface
  | createMachine
  | getMachine
  | listMachines
  | deallocateMachine
  | startMachine
  | listSkus
deriving DecidableEq, Repr

namespace CloudMethod

/-- The service that offers the method. -/
def service : CloudMethod → Text
  | .createGroup => "resource_groups"
  | .deleteGroup => "resource_groups"
  | .createNetwork => "virtual_networks"
  | .createSubnet => "subnets"
  | .createPublicIp => "public_ip_addresses"
  | .createSecurityGroup => "network_security_groups"
  | .createInterface => "network_interfaces"
  | .createMachine => "virtual_machines"
  | .getMachine => "virtual_machines"
  | .listMachines => "virtual_machines"
  | .deallocateMachine => "virtual_machines"
  | .startMachine => "virtual_machines"
  | .listSkus => "resource_skus"

/-- What the service calls the method. -/
def operation : CloudMethod → Text
  | .createGroup => "create_or_update"
  | .deleteGroup => "begin_delete"
  | .createNetwork => "begin_create_or_update"
  | .createSubnet => "begin_create_or_update"
  | .createPublicIp => "begin_create_or_update"
  | .createSecurityGroup => "begin_create_or_update"
  | .createInterface => "begin_create_or_update"
  | .createMachine => "begin_create_or_update"
  | .getMachine => "get"
  | .listMachines => "list_all"
  | .deallocateMachine => "begin_deallocate"
  | .startMachine => "begin_start"
  | .listSkus => "list"

def text (method : CloudMethod) : Text :=
  method.service ++ "." ++ method.operation

def all : List CloudMethod := [
  .createGroup, .deleteGroup, .createNetwork, .createSubnet, .createPublicIp, .createSecurityGroup,
  .createInterface, .createMachine, .getMachine, .listMachines, .deallocateMachine, .startMachine,
  .listSkus]

def ofText? (written : Text) : Option CloudMethod :=
  all.find? fun method => method.text == written

/-- Whether a call starts an operation that the caller has to wait for. -/
def isLongRunning : CloudMethod → Bool
  | .createGroup => false
  | .getMachine => false
  | .listMachines => false
  | .listSkus => false
  | _ => true

end CloudMethod

/-- A network interface with what it is attached to. -/
structure InterfaceOrder where
  group : Text
  location : Text
  subnetId : Value
  securityGroupId : Value
  publicIpId : Value
  accelerated : Bool
deriving DecidableEq, Repr

namespace InterfaceOrder

/-- The public address is left out when there is none. -/
def ipConfiguration (order : InterfaceOrder) : Value :=
  .dict (([
    ("name", .text (ResourceName.ipConfiguration order.group)),
    ("subnet", .dict [("id", order.subnetId)]),
    ("private_ip_allocation_method", .text "Dynamic")] : Fields) ++
    MachineOrder.entryIf (!order.publicIpId.isEmptyLike) "public_ip_address"
      (.dict [("id", order.publicIpId)]))

def toValue (order : InterfaceOrder) : Value :=
  .dict [
    ("location", .text order.location),
    ("enable_accelerated_networking", .bool order.accelerated),
    ("network_security_group", .dict [("id", order.securityGroupId)]),
    ("ip_configurations", .list [order.ipConfiguration])]

end InterfaceOrder

inductive Request where
  | createGroup (name location : Text) (tags : Tags)
  | deleteGroup (name : Text) (force : Bool)
  | createNetwork (group location cidr : Text)
  | createSubnet (group cidr : Text)
  | createPublicIp (group location : Text)
  | createSecurityGroup (group location : Text) (rules : List SecurityRule)
  | createInterface (order : InterfaceOrder)
  | createMachine (order : MachineOrder)
  | getMachine (group name : Text)
  | listMachines
  | deallocateMachine (group name : Text)
  | startMachine (group name : Text)
  | listSkus (location : Text)
deriving DecidableEq, Repr

namespace Request

def method : Request → CloudMethod
  | .createGroup _ _ _ => .createGroup
  | .deleteGroup _ _ => .deleteGroup
  | .createNetwork _ _ _ => .createNetwork
  | .createSubnet _ _ => .createSubnet
  | .createPublicIp _ _ => .createPublicIp
  | .createSecurityGroup _ _ _ => .createSecurityGroup
  | .createInterface _ => .createInterface
  | .createMachine _ => .createMachine
  | .getMachine _ _ => .getMachine
  | .listMachines => .listMachines
  | .deallocateMachine _ _ => .deallocateMachine
  | .startMachine _ _ => .startMachine
  | .listSkus _ => .listSkus

/-- The kinds of resource that a forced deletion of a group removes at once. -/
def forcedDeletionTypes : Text :=
  "Microsoft.Compute/virtualMachines,Microsoft.Compute/virtualMachineScaleSets"

def networkBody (location cidr : Text) : Value :=
  .dict [
    ("location", .text location),
    ("address_space", .dict [("address_prefixes", .list [.text cidr])])]

def publicIpBody (location : Text) : Value :=
  .dict [
    ("location", .text location),
    ("sku", .dict [("name", .text "Standard")]),
    ("public_ip_allocation_method", .text "Static"),
    ("public_ip_address_version", .text "IPv4")]

def securityGroupBody (location : Text) (rules : List SecurityRule) : Value :=
  .dict [
    ("location", .text location),
    ("security_rules", .list (rules.map SecurityRule.toValue))]

/-- The positional arguments of the call. -/
def arguments : Request → List Value
  | .createGroup name location tags =>
    [.text name, .dict [("location", .text location), ("tags", tags.toValue)]]
  | .deleteGroup name _ => [.text name]
  | .createNetwork group location cidr =>
    [.text group, .text (ResourceName.network group), networkBody location cidr]
  | .createSubnet group cidr =>
    [.text group, .text (ResourceName.network group), .text (ResourceName.subnet group),
      .dict [("address_prefix", .text cidr)]]
  | .createPublicIp group location =>
    [.text group, .text (ResourceName.publicIp group), publicIpBody location]
  | .createSecurityGroup group location rules =>
    [.text group, .text (ResourceName.securityGroup group), securityGroupBody location rules]
  | .createInterface order =>
    [.text order.group, .text (ResourceName.networkInterface order.group), order.toValue]
  | .createMachine order => [.text order.name, .text order.name, order.toValue]
  | .getMachine group name => [.text group, .text name]
  | .listMachines => []
  | .deallocateMachine group name => [.text group, .text name]
  | .startMachine group name => [.text group, .text name]
  | .listSkus _ => []

/-- The named options of the call. -/
def options : Request → Fields
  | .deleteGroup _ true => [("force_deletion_types", .text forcedDeletionTypes)]
  | .getMachine _ _ => [("expand", .text "instanceView")]
  | .listSkus location => [("filter", .text ("location eq '" ++ location ++ "'"))]
  | _ => []

/-- Whether the call asks for a new resource. -/
def creates (request : Request) : Bool :=
  match request.method with
  | .createGroup | .createNetwork | .createSubnet | .createPublicIp | .createSecurityGroup
  | .createInterface | .createMachine => true
  | _ => false

end Request

end RunnerCloud
