import RunnerCloud.Json.Parser
import RunnerCloud.Provider

/-!
Contract: one operation of the provider, run as a command.

Owns:
- `Command`, with the names by which the host asks for it;
- `Host`, everything that the host hands over, and `CommandLine.run`, which finds the command,
  builds the provider and performs the operation;
- `CommandResult`, what a command gives.

Does not own: how results and failures are shown; `CommandLine.Report` does.
-/

namespace RunnerCloud

inductive Command where
  | createInstance
  | deleteInstance
  | getInstance
  | listInstances
  | removeAllInstances
  | stop
  | start
  | getVersion
deriving DecidableEq, Repr

namespace Command

def text : Command → Text
  | .createInstance => "CreateInstance"
  | .deleteInstance => "DeleteInstance"
  | .getInstance => "GetInstance"
  | .listInstances => "ListInstances"
  | .removeAllInstances => "RemoveAllInstances"
  | .stop => "Stop"
  | .start => "Start"
  | .getVersion => "GetVersion"

def all : List Command := [
  .createInstance, .deleteInstance, .getInstance, .listInstances, .removeAllInstances, .stop,
  .start, .getVersion]

def ofText? (written : Text) : Option Command :=
  all.find? fun command => command.text == written

end Command

inductive CommandResult where
  | nothing
  | version (written : Text)
  | single (runner : RunnerInstance)
  | several (runners : List RunnerInstance)
deriving DecidableEq, Repr

namespace CommandResult

def toValue : CommandResult → Value
  | .nothing => .null
  | .version written => .text written
  | .single runner => runner.toValue
  | .several runners => .list (runners.map RunnerInstance.toValue)

end CommandResult

/-- What the host hands over to a command. -/
structure Host where
  /-- The variables that say what to do. -/
  settings : Environment
  /-- The text of the request for a new runner. -/
  input : Text
  /-- What is in the file that a path names. -/
  fileContent : FilePath → Option FileContent
  /-- The variables that stand in for missing credentials. -/
  environment : Environment

namespace CommandLine

open Operation

/-- The version of the provider. -/
def version : Text := "0.1.0"

def commandVariable : Text := "GARM_COMMAND"

def configVariable : Text := "GARM_PROVIDER_CONFIG_FILE"

def controllerVariable : Text := "GARM_CONTROLLER_ID"

def poolVariable : Text := "GARM_POOL_ID"

def instanceVariable : Text := "GARM_INSTANCE_ID"

/-- The value of a variable, which may not be empty. -/
def require (host : Host) (name : Text) : Except Failure Text :=
  match (host.settings.get? name).filter (!·.isEmpty) with
  | some value => .ok value
  | none => .error (.usage (.missingVariable name))

/-- The command that the host asks for. -/
def commandOf (host : Host) : Except Failure Command := do
  let written ← require host commandVariable
  match Command.ofText? written with
  | some command => return command
  | none => throw (.usage (.unknownCommand written))

/-- The provider that the variables describe. -/
def providerOf (host : Host) : Except Failure Provider := do
  let path ← require host configVariable
  let controllerId ← require host controllerVariable
  Provider.build (.file path) controllerId none host.fileContent host.environment

/-- The request on the input; a request without a pool gets the one of the variables. -/
def requestOf (host : Host) : Except Failure Bootstrap :=
  match Json.parse host.input with
  | .error .malformed => .error (.usage .malformedRequest)
  | .error (.oversized problem) => .error (.oversizedInteger problem)
  | .ok written =>
    match Bootstrap.ofValue written with
    | .rejected issues => .error (.usage (.invalidRequest issues))
    | .accepted bootstrap =>
      if bootstrap.poolId.isEmpty then
        .ok { bootstrap with poolId := (host.settings.get? poolVariable).getD "" }
      else .ok bootstrap

/-- Performs a command of a provider. -/
def perform (host : Host) (provider : Provider) : Command → Operation CommandResult
  | .createInstance => do
    let bootstrap ← ofExcept id (requestOf host)
    return .single (← provider.createInstance bootstrap)
  | .deleteInstance => do
    let name ← ofExcept id (require host instanceVariable)
    provider.deleteInstance name
    return .nothing
  | .getInstance => do
    let name ← ofExcept id (require host instanceVariable)
    return .single (← provider.getInstance name)
  | .listInstances => do
    let poolId ← ofExcept id (require host poolVariable)
    return .several (← provider.listInstances poolId)
  | .removeAllInstances => do
    provider.removeAllInstances
    return .nothing
  | .stop => do
    let name ← ofExcept id (require host instanceVariable)
    provider.stopInstance name
    return .nothing
  | .start => do
    let name ← ofExcept id (require host instanceVariable)
    provider.startInstance name
    return .nothing
  | .getVersion => return .version version

/-- Runs the command that the host asks for; the version needs no provider. -/
def run (host : Host) : Operation CommandResult := do
  let command ← ofExcept id (commandOf host)
  if command == .getVersion then return .version version
  else
    let provider ← ofExcept id (providerOf host)
    perform host provider command

end CommandLine

end RunnerCloud
