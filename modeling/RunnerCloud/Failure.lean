import RunnerCloud.Cloud.Problem
import RunnerCloud.Config.File
import RunnerCloud.Data.Equality
import RunnerCloud.Data.Misuse
import RunnerCloud.Data.ValueText
import RunnerCloud.Instance
import RunnerCloud.Provision.Step
import RunnerCloud.Spec.Problem

/-!
Contract: every way in which an operation of the provider ends without a result.

Owns:
- `RecordProblem` and `UsageProblem`, why a VM record has no view and why a command is refused;
- `Failure`, one constructor for each cause, its text, which words of the libraries are part of, its
  message, in which they are abridged, and the issues of its validation report;
- `ErrorCategory`, the families of failures with their ancestry, `Failure.category`, the family of a
  failure, and `Failure.causes`, the families of the failures behind it, the nearest first.

Does not own: how a failure is shown to the caller.
-/

namespace RunnerCloud

inductive RecordProblem where
  | noRecord
  | noName
  | invalid (name : Value) (issues : List Issue)
deriving DecidableEq, Repr

namespace RecordProblem

def text (words : ErrorWords) : RecordProblem → Text
  | .noRecord => "nil vm object in response"
  | .noName => "vm object has no name"
  | .invalid name issues =>
    "failed to convert vm " ++ name.inMessage ++ ": " ++ words.report RunnerInstance.modelName issues

end RecordProblem

inductive UsageProblem where
  | missingVariable (name : Text)
  | unknownCommand (written : Text)
  | malformedRequest
  | invalidRequest (issues : List Issue)
deriving DecidableEq, Repr

namespace UsageProblem

def text (words : ErrorWords) : UsageProblem → Text
  | .missingVariable name => "missing " ++ name
  | .unknownCommand written => "unknown command " ++ Text.quoted written
  | .malformedRequest => "invalid bootstrap params: " ++ words.json
  | .invalidRequest issues =>
    "invalid bootstrap params: " ++ words.report Bootstrap.modelName issues

end UsageProblem

namespace ConfigProblem

def text (words : ErrorWords) : ConfigProblem → Text
  | .fileMissing path => "Config file not found: " ++ path.text
  | .undecodable => words.undecodable
  | .unreadable .malformed => words.toml
  | .unreadable .impossibleDate => words.toml
  | .unreadable (.oversized problem) => problem.message
  | .invalid issues => words.report ProviderConfig.modelName issues

end ConfigProblem

/-- The families of failures. -/
inductive ErrorCategory where
  | any
  | provider
  | spec
  | architecture
  | capacity
  | provisioning
  | unreadableRecord
  | cloud
  | notFound
  | cancelled
  | usage
  | badValue
  | unencodable
  | undecodable
  | validation
  | malformedJson
  | malformedToml
  | runtime
  | missingAttribute
  | wrongKind
  | overflow
  | interrupt
  | taskCancelled
  | service (kind : ServiceErrorKind)
deriving DecidableEq, Repr

namespace ErrorCategory

/-- The category itself and the wider ones it belongs to; interrupts and the cancellation of a task
are outside of `any`. -/
def ancestors : ErrorCategory → List ErrorCategory
  | .any => [.any]
  | .provider => [.provider, .any]
  | .spec => [.spec, .provider, .any]
  | .architecture => [.architecture, .spec, .provider, .any]
  | .capacity => [.capacity, .provider, .any]
  | .provisioning => [.provisioning, .provider, .any]
  | .unreadableRecord => [.unreadableRecord, .provider, .any]
  | .cloud => [.cloud, .provider, .any]
  | .notFound => [.notFound, .cloud, .provider, .any]
  | .cancelled => [.cancelled, .provider, .any]
  | .usage => [.usage, .any]
  | .badValue => [.badValue, .any]
  | .unencodable => [.unencodable, .badValue, .any]
  | .undecodable => [.undecodable, .badValue, .any]
  | .validation => [.validation, .badValue, .any]
  | .malformedJson => [.malformedJson, .badValue, .any]
  | .malformedToml => [.malformedToml, .badValue, .any]
  | .runtime => [.runtime, .any]
  | .missingAttribute => [.missingAttribute, .any]
  | .wrongKind => [.wrongKind, .any]
  | .overflow => [.overflow, .any]
  | .interrupt => [.interrupt]
  | .taskCancelled => [.taskCancelled]
  | .service .general => [.service .general, .any]
  | .service kind => [.service kind, .service .general, .any]

def isWithin (category wider : ErrorCategory) : Bool :=
  category.ancestors.contains wider

/-- The text of an error of a family that was raised by hand: nothing, its one argument, or the list
of its arguments. A provisioning error has its step as the first argument and shows the second. -/
def describe : ErrorCategory → List Value → Text
  | .provisioning, [_, message] => message.inMessage
  | _, [] => ""
  | _, [argument] => argument.inMessage
  | _, arguments => "(" ++ Text.intercalate ", " (arguments.map Value.cited) ++ ")"

end ErrorCategory

inductive Failure where
  | spec (problem : SpecProblem)
  | unsupportedArch (arch : Arch)
  | capacity (problem : CapacityProblem)
  | cloud (problem : CloudProblem)
  | stepFailed (step : Step) (problem : CloudProblem)
  | missingResourceId (step : Step)
  | unreadableRecord (problem : RecordProblem)
  | cancelledWaiting
  | cancelledBefore (name : Text) (boundary : Boundary)
  | usage (problem : UsageProblem)
  | missingController
  | config (problem : ConfigProblem)
  | invalidModel (model : Text) (issues : List Issue)
  | unreadableInteger (written : Text)
  | oversizedInteger (problem : Number.Oversized)
  | unwritableInteger
  | misused (misuse : Misuse)
  | notFinite (written : Number.Binary64)
  | fault (fault : Fault)
  | taskCancelled
deriving DecidableEq, Repr

namespace Failure

/-- The failure for a capacity problem, of which the message has to be writable. -/
def ofCapacity (problem : CapacityProblem) : Failure :=
  if problem.numbers.all Number.fits then .capacity problem else .unwritableInteger

/-- The longest part of an unreadable number that is shown. -/
def shownNumberLength : Nat := 200

def text (words : ErrorWords) : Failure → Text
  | .spec problem => problem.text words
  | .unsupportedArch arch =>
    "invalid architecture " ++ arch.text ++ " (supported: " ++ Arch.supported.text ++ ")"
  | .capacity problem => problem.message
  | .cloud problem => problem.message
  | .stepFailed step problem => "failed to " ++ step.action ++ ": " ++ problem.message
  | .missingResourceId step =>
    "failed to " ++ step.action ++ ": response carries no resource ID"
  | .unreadableRecord problem => problem.text words
  | .cancelledWaiting => "operation cancelled while waiting for Azure"
  | .cancelledBefore name boundary =>
    "creation of " ++ name ++ " cancelled before " ++ boundary.next
  | .usage problem => problem.text words
  | .missingController => "controller ID is required"
  | .config problem => problem.text words
  | .invalidModel model issues => words.report model issues
  | .unreadableInteger written =>
    "invalid literal for int() with base 10: " ++
      Text.ofPoints ((Text.quoted written).points.take shownNumberLength)
  | .oversizedInteger problem => problem.message
  | .unwritableInteger => Number.unwritableMessage
  | .misused misuse => misuse.message
  | .notFinite .notANumber => "cannot convert float NaN to integer"
  | .notFinite _ => "cannot convert float infinity to integer"
  | .fault cause => cause.message
  | .taskCancelled => ""

/-- The text in short words. -/
def message : Failure → Text :=
  text .abridged

/-- The family of a problem with the cloud. -/
def cloudCategory (problem : CloudProblem) : ErrorCategory :=
  if problem.isNotFound then .notFound else .cloud

def category : Failure → ErrorCategory
  | .spec (.unencodable _) => .unencodable
  | .spec _ => .spec
  | .unsupportedArch _ => .architecture
  | .capacity _ => .capacity
  | .cloud problem => cloudCategory problem
  | .stepFailed _ _ => .provisioning
  | .missingResourceId _ => .provisioning
  | .unreadableRecord _ => .unreadableRecord
  | .cancelledWaiting => .cancelled
  | .cancelledBefore _ _ => .cancelled
  | .usage _ => .usage
  | .missingController => .badValue
  | .config (.fileMissing _) => .badValue
  | .config .undecodable => .undecodable
  | .config (.unreadable .malformed) => .malformedToml
  | .config (.unreadable .impossibleDate) => .malformedToml
  | .config (.unreadable (.oversized _)) => .badValue
  | .config (.invalid _) => .validation
  | .invalidModel _ _ => .validation
  | .unreadableInteger _ => .badValue
  | .oversizedInteger _ => .badValue
  | .unwritableInteger => .badValue
  | .misused (.noAttribute _ _) => .missingAttribute
  | .misused (.noItems _) => .wrongKind
  | .notFinite .notANumber => .badValue
  | .notFinite _ => .overflow
  | .fault (.service kind _) => .service kind
  | .fault (.runtime _) => .runtime
  | .fault (.badValue _) => .badValue
  | .fault (.interrupt _) => .interrupt
  | .taskCancelled => .taskCancelled

/-- The service error behind a problem with the cloud. -/
def serviceCauses (problem : CloudProblem) : List ErrorCategory :=
  problem.serviceError?.toList.map .service

/-- The families of the failures behind a failure, the nearest first. -/
def causes : Failure → List ErrorCategory
  | .spec (.invalidExtraSpecs _) => [.validation]
  | .cloud problem => serviceCauses problem
  | .stepFailed _ problem => cloudCategory problem :: serviceCauses problem
  | .unreadableRecord (.invalid _ _) => [.validation]
  | .usage .malformedRequest => [.malformedJson]
  | .usage (.invalidRequest _) => [.validation]
  | .config (.unreadable .impossibleDate) => [.badValue]
  | _ => []

/-- The step that failed. -/
def step? : Failure → Option Step
  | .stepFailed step _ => some step
  | .missingResourceId step => some step
  | _ => none

/-- The validation report of the failure, or of the one behind it. -/
def issues? : Failure → Option (List Issue)
  | .spec (.invalidExtraSpecs issues) => some issues
  | .unreadableRecord (.invalid _ issues) => some issues
  | .usage (.invalidRequest issues) => some issues
  | .config (.invalid issues) => some issues
  | .invalidModel _ issues => some issues
  | _ => none

/-- Whether the failure is an error of the provider. -/
def isProviderError (failure : Failure) : Bool :=
  failure.category.isWithin .provider

/-- Whether the failure is a request to stop and not an error. -/
def isInterrupt (failure : Failure) : Bool :=
  !failure.category.isWithin .any

end Failure

end RunnerCloud
