import RunnerCloud.Config.FileTree
import RunnerCloud.Config.ProviderConfig
import RunnerCloud.Toml.Parser

/-!
Contract: a provider's configuration read from a file.

Owns:
- `ConfigProblem`, why there is no valid configuration, and its message;
- `ProviderConfig.load`, the configuration in a TOML file.

Does not own: the models of the configuration.
-/

namespace RunnerCloud

inductive ConfigProblem where
  | fileMissing (path : FilePath)
  | undecodable
  | unreadable (problem : Toml.Problem)
  | invalid (issues : List Issue)
deriving DecidableEq, Repr

namespace ProviderConfig

/-- Validates a configuration, as a result with a cause. -/
def validate (environment : Environment) (value : Value) : Except ConfigProblem ProviderConfig :=
  match ofValue environment value with
  | .accepted config => .ok config
  | .rejected issues => .error (.invalid issues)

/-- Reads and validates the TOML file at `path`. -/
def load (fileContent : FilePath → Option FileContent) (environment : Environment) (path : Text) :
    Except ConfigProblem ProviderConfig :=
  let path := FilePath.ofText path
  match fileContent path with
  | none => .error (.fileMissing path)
  | some .undecodable => .error .undecodable
  | some (.text written) =>
    match Toml.parse written with
    | .error problem => .error (.unreadable problem)
    | .ok fields => validate environment (.dict fields)

end ProviderConfig

end RunnerCloud
