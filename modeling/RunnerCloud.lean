import RunnerCloud.Text.Base64
import RunnerCloud.Text.Blank
import RunnerCloud.Text.Digit
import RunnerCloud.Text.Quoted
import RunnerCloud.Text.ShellWord
import RunnerCloud.Text.UpperCase
import RunnerCloud.Text.Utf8
import RunnerCloud.Number.Binary64
import RunnerCloud.Number.Decimal
import RunnerCloud.Number.IntegerText
import RunnerCloud.Data.Equality
import RunnerCloud.Json.Parser
import RunnerCloud.Json.Printer
import RunnerCloud.Toml.Parser
import RunnerCloud.Validation.Record
import RunnerCloud.Platform
import RunnerCloud.Bootstrap
import RunnerCloud.Instance
import RunnerCloud.ExtraSpecs
import RunnerCloud.Config.File
import RunnerCloud.Payload.CloudInit
import RunnerCloud.Spec.DiskSize
import RunnerCloud.Spec.Image
import RunnerCloud.Spec.ResourceName
import RunnerCloud.Spec.RunnerSpec
import RunnerCloud.Spec.SecurityRule
import RunnerCloud.Spec.Tools
import RunnerCloud.Log.Record
import RunnerCloud.Failure
import RunnerCloud.Cloud.Client
import RunnerCloud.Provision.Create
import RunnerCloud.Provision.Lifecycle
import RunnerCloud.Provider
import RunnerCloud.Background.Await
import RunnerCloud.Background.Variant
import RunnerCloud.CommandLine.Report
import RunnerCloud.Main
import RunnerCloud.Proofs.Run.Progress
import RunnerCloud.Proofs.Run.Calls
import RunnerCloud.Proofs.Provision.Steps
import RunnerCloud.Proofs.Provision.Plan
import RunnerCloud.Proofs.Run.Subjects
import RunnerCloud.Proofs.Run.Completion
import RunnerCloud.Proofs.Provision.Course
import RunnerCloud.Proofs.Provision.Wiring
import RunnerCloud.Proofs.Provision.Rollback
import RunnerCloud.Proofs.Provision.Cancellation
import RunnerCloud.Proofs.Provision.Groups
import RunnerCloud.Proofs.Provision.History
import RunnerCloud.Proofs.Spec.Overrides
import RunnerCloud.Proofs.Spec.SecurityRules
import RunnerCloud.Proofs.Spec.ToolSelection
import RunnerCloud.Proofs.Spec.RuleCoverage
import RunnerCloud.Proofs.Text.Trimming
import RunnerCloud.Proofs.Spec.Precedence
import RunnerCloud.Proofs.Provision.Admission
import RunnerCloud.Proofs.Provision.DiskSizing
import RunnerCloud.Proofs.Cloud.MachineViews
import RunnerCloud.Proofs.Provision.Reports
import RunnerCloud.Proofs.Text.Base64
import RunnerCloud.Proofs.Text.Joining
import RunnerCloud.Proofs.Json.Grammar
import RunnerCloud.Proofs.Json.Reading
import RunnerCloud.Proofs.Json.Writing
import RunnerCloud.Proofs.Payload.BootDocument
import RunnerCloud.Proofs.Payload.Expansion
import RunnerCloud.Proofs.Text.ShellWord
import RunnerCloud.Proofs.Payload.ScriptTexts
import RunnerCloud.Proofs.Provision.ErrorMapping
import RunnerCloud.Proofs.Provision.PoolListing
import RunnerCloud.Proofs.Run.Indifference
import RunnerCloud.Proofs.Provision.Parts
import RunnerCloud.Proofs.Provision.Masking
import RunnerCloud.Proofs.Run.Confinement
import RunnerCloud.Proofs.Provision.ProviderErrors
import RunnerCloud.Proofs.Background.Interleaving
import RunnerCloud.Proofs.Provision.LateCancellation
import RunnerCloud.Proofs.Background.Abandonment
import RunnerCloud.Proofs.Run.Likeness
import RunnerCloud.Proofs.Provision.Secrets
import RunnerCloud.Proofs.Run.Asking
import RunnerCloud.Proofs.Provision.RunLog
import RunnerCloud.Proofs.Log.Serials
import RunnerCloud.Proofs.Provision.SessionLog
import RunnerCloud.Proofs.Validation.RunnerForms
import RunnerCloud.Proofs.CommandLine.Invocation
import RunnerCloud.Proofs.CommandLine.Output
import RunnerCloud.Proofs.CommandLine.Listing
import RunnerCloud.Proofs.Run.WatchedWait
import RunnerCloud.Proofs.Config.CredentialSources
import RunnerCloud.Proofs.Validation.Spellings
import RunnerCloud.Proofs.Validation.WrittenForms
import RunnerCloud.Proofs.Number.IntegerText
import RunnerCloud.Proofs.Cloud.EphemeralMaximum
import RunnerCloud.Proofs.Validation.Reports
import RunnerCloud.Proofs.Config.MistypedCredentials
import RunnerCloud.Proofs.Spec.ImageParts
import RunnerCloud.Proofs.Provision.Images
import RunnerCloud.Proofs.Cloud.MachineStatus
import RunnerCloud.Proofs.Json.Lines
import RunnerCloud.Proofs.Log.Lines
import RunnerCloud.Proofs.Background.Inheritance
import RunnerCloud.Proofs.Background.Arguments
import RunnerCloud.Proofs.Background.AwaitedCall
import RunnerCloud.Proofs.Background.VariantCalls
