import RunnerCloud.Bootstrap
import RunnerCloud.Text.Utf8

/-!
Contract: why a request for a runner is refused before any cloud operation.

Owns:
- `SpecProblem`, one constructor for each reason, and its text;
- `CapacityProblem`, why a disk does not fit the local storage of a VM size, and its message.

Does not own: the order in which the reasons are tested.
-/

namespace RunnerCloud

inductive SpecProblem where
  | missingName
  | missingController
  | invalidExtraSpecs (issues : List Issue)
  | malformedImage (urn : Text)
  | blankCidr
  | unsupportedOs (osType : OsType)
  | noTools (osType : OsType) (arch : Arch)
  | unencodable (place : Text.Unencodable)
deriving DecidableEq, Repr

namespace SpecProblem

def text (words : ErrorWords) : SpecProblem → Text
  | .missingName => "missing instance name"
  | .missingController => "missing controller ID"
  | .invalidExtraSpecs issues => "invalid extra specs: " ++ words.report "ExtraSpecs" issues
  | .malformedImage urn =>
    "invalid image URN " ++ Text.quoted urn ++ " (expected Publisher:Offer:Sku:Version)"
  | .blankCidr => "virtual network CIDR must not be empty"
  | .unsupportedOs osType => "unsupported OS type " ++ osType.text ++ " (supported: linux)"
  | .noTools osType arch =>
    "failed to find tools for OS " ++ osType.text ++ " and arch " ++ arch.text
  | .unencodable place => place.message

end SpecProblem

inductive CapacityProblem where
  | noUsableStorage (vmSize : Text) (maximumGb : Int)
  | exceedsMaximum (vmSize : Text) (maximumGb requestedGb : Int)
  | ephemeralUnsupported (vmSize : Text)
  | noLocalStorage (vmSize : Text)
deriving DecidableEq, Repr

namespace CapacityProblem

def message : CapacityProblem → Text
  | .noUsableStorage vmSize maximumGb =>
    vmSize ++ " has no usable local storage for an ephemeral OS disk (maximum " ++
      maximumGb.repr ++ " GB)"
  | .exceedsMaximum vmSize maximumGb requestedGb =>
    "maximum ephemeral disk size for " ++ vmSize ++ " is " ++ maximumGb.repr ++
      " GB (requested " ++ requestedGb.repr ++ ")"
  | .ephemeralUnsupported vmSize => vmSize ++ " does not support ephemeral OS disks"
  | .noLocalStorage vmSize => vmSize ++ " has no local storage for an ephemeral OS disk"

/-- The numbers that the message cites. -/
def numbers : CapacityProblem → List Int
  | .noUsableStorage _ maximumGb => [maximumGb]
  | .exceedsMaximum _ maximumGb requestedGb => [maximumGb, requestedGb]
  | .ephemeralUnsupported _ => []
  | .noLocalStorage _ => []

end CapacityProblem

end RunnerCloud
