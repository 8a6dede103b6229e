import RunnerCloud.Text.Basic

/-!
Contract: the names of the resources that make up an instance.

Owns:
- one name for each resource, the instance's name with a suffix. The resource group itself has the
  instance's name.

Does not own: which characters the cloud allows in names.
-/

namespace RunnerCloud.ResourceName

def network (instanceName : Text) : Text := instanceName ++ "-vnet"

def subnet (instanceName : Text) : Text := instanceName ++ "-subnet"

def publicIp (instanceName : Text) : Text := instanceName ++ "-ip"

def securityGroup (instanceName : Text) : Text := instanceName ++ "-nsg"

def networkInterface (instanceName : Text) : Text := instanceName ++ "-nic"

def ipConfiguration (instanceName : Text) : Text := instanceName ++ "-ipconfig"

def osDisk (instanceName : Text) : Text := instanceName ++ "-disk"

end RunnerCloud.ResourceName
