import RunnerCloud.Provision.Create
import RunnerCloud.Provision.Lifecycle

/-!
Contract: a provider of runners, built from its configuration.

Owns:
- `ConfigSource`, where the configuration comes from;
- `Provider`, with `Provider.build`, which asks for a controller and a valid configuration, and
  `Provider.clients`, the clients that it opens, in order;
- the provider's operations under their names.

Does not own: the operations themselves; `Provision` does.
-/

namespace RunnerCloud

inductive ConfigSource where
  | document (written : Value)
  | file (path : Text)
  | ready (config : ProviderConfig)
deriving DecidableEq, Repr

namespace ConfigSource

def load (source : ConfigSource) (fileContent : FilePath → Option FileContent)
    (environment : Environment) :
    Except ConfigProblem ProviderConfig :=
  match source with
  | .document written => ProviderConfig.validate environment written
  | .file path => ProviderConfig.load fileContent environment path
  | .ready config => .ok config

end ConfigSource

/-- What a client signs in with. -/
inductive ClientCredential where
  | given (name : Text)
  | derived (signIn : SignIn)
deriving DecidableEq, Repr

inductive ClientKind where
  | resource
  | network
  | compute
deriving DecidableEq, Repr

namespace ClientKind

def text : ClientKind → Text
  | .resource => "resource"
  | .network => "network"
  | .compute => "compute"

def all : List ClientKind := [.resource, .network, .compute]

end ClientKind

/-- A client of one of the cloud's services. -/
structure ServiceClient where
  kind : ClientKind
  credential : ClientCredential
  subscriptionId : Option Text
deriving DecidableEq, Repr

structure Provider where
  controllerId : Text
  config : ProviderConfig
  credential : ClientCredential
deriving DecidableEq, Repr

namespace Provider

/-- Builds a provider; a credential given by the caller replaces the configured one. -/
def build (source : ConfigSource) (controllerId : Text) (credential : Option Text)
    (fileContent : FilePath → Option FileContent) (environment : Environment) :
    Except Failure Provider :=
  if controllerId.isEmpty then .error .missingController
  else
    match source.load fileContent environment with
    | .error problem => .error (.config problem)
    | .ok config =>
      .ok
        { controllerId := controllerId
          config := config
          credential :=
            match credential with
            | some name => .given name
            | none => .derived config.credentials.signIn }

/-- The clients that the provider opens. -/
def clients (provider : Provider) : List ServiceClient :=
  ClientKind.all.map fun kind =>
    ⟨kind, provider.credential, provider.config.credentials.subscriptionId⟩

def createInstance (provider : Provider) (bootstrap : Bootstrap) : Operation RunnerInstance :=
  Provision.create provider.controllerId provider.config bootstrap

def deleteInstance (_ : Provider) (name : Text) : Operation Unit :=
  Provision.delete name

def getInstance (_ : Provider) (name : Text) : Operation RunnerInstance :=
  Provision.get name

def listInstances (_ : Provider) (poolId : Text) : Operation (List RunnerInstance) :=
  Provision.listPool poolId

def removeAllInstances (_ : Provider) : Operation Unit :=
  Provision.removeAll

def stopInstance (_ : Provider) (name : Text) : Operation Unit :=
  Provision.stop name

def startInstance (_ : Provider) (name : Text) : Operation Unit :=
  Provision.start name

end Provider

end RunnerCloud
