import RunnerCloud.Data.Equality
import RunnerCloud.Platform
import RunnerCloud.Validation.Record

/-!
Contract: the request by which the host asks for a new runner.

Owns:
- `ToolArchive`, a runner tools archive that the request offers;
- `Bootstrap`, the request, with its reader `ofValue` and its dump `toValue`.

Does not own: the pool's overrides inside `extraSpecs`, which stay free-form here; `ExtraSpecs`
reads them.
-/

namespace RunnerCloud

open Validation

structure ToolArchive where
  os : Option Text
  architecture : Option Text
  downloadUrl : Option Text
  filename : Option Text
  sha256Checksum : Option Text
  tempDownloadToken : Option Text
deriving DecidableEq, Repr

namespace ToolArchive

def ofFields (fields : Fields) : Checked ToolArchive :=
  let entry (name : Text) := optional fields (.plain name) none (nullable text)
  ToolArchive.mk <$> entry "os" <*> entry "architecture" <*> entry "download_url"
    <*> entry "filename" <*> entry "sha256_checksum" <*> entry "temp_download_token"

def ofValue : Value → Checked ToolArchive :=
  record "RunnerApplicationDownload" ofFields

def toValue (archive : ToolArchive) : Value :=
  .dict [
    ("os", .ofText? archive.os),
    ("architecture", .ofText? archive.architecture),
    ("download_url", .ofText? archive.downloadUrl),
    ("filename", .ofText? archive.filename),
    ("sha256_checksum", .ofText? archive.sha256Checksum),
    ("temp_download_token", .ofText? archive.tempDownloadToken)]

end ToolArchive

structure Bootstrap where
  name : Text
  tools : List ToolArchive
  repoUrl : Text
  callbackUrl : Text
  metadataUrl : Text
  instanceToken : Text
  sshKeys : List Text
  extraSpecs : Option Fields
  runnerGroup : Text
  caCertBundle : Option Text
  osType : OsType
  arch : Arch
  flavor : Text
  image : Text
  labels : List Text
  poolId : Text
  jitConfigEnabled : Bool
deriving DecidableEq, Repr

namespace Bootstrap

/-- The name by which reports call the model. -/
def modelName : Text := "BootstrapInstance"

def ofFields (fields : Fields) : Checked Bootstrap :=
  let words (name : FieldName) : Checked Text := optional fields name "" text
  Bootstrap.mk
    <$> required fields (.plain "name") text
    <*> optional fields (.plain "tools") [] (list ToolArchive.ofValue)
    <*> words (.plain "repo_url")
    <*> words (.aliased "callback_url" "callback-url")
    <*> words (.aliased "metadata_url" "metadata-url")
    <*> words (.aliased "instance_token" "instance-token")
    <*> optional fields (.aliased "ssh_keys" "ssh-keys") [] (list text)
    <*> optional fields (.plain "extra_specs") none (nullable anyDict)
    <*> words (.aliased "github_runner_group" "github-runner-group")
    <*> optional fields (.aliased "ca_cert_bundle" "ca-cert-bundle") none (nullable text)
    <*> optional fields (.plain "os_type") .linux (choice OsType.texts OsType.ofText?)
    <*> optional fields (.plain "arch") .amd64 (choice Arch.texts Arch.ofText?)
    <*> words (.plain "flavor")
    <*> words (.plain "image")
    <*> optional fields (.plain "labels") [] (list text)
    <*> words (.plain "pool_id")
    <*> optional fields (.plain "jit_config_enabled") false bool

/-- Reads a request; keys that the model does not know are ignored. -/
def ofValue : Value → Checked Bootstrap :=
  record modelName ofFields

/-- The request with every field under its own name. -/
def toValue (bootstrap : Bootstrap) : Value :=
  .dict [
    ("name", .text bootstrap.name),
    ("tools", .list (bootstrap.tools.map ToolArchive.toValue)),
    ("repo_url", .text bootstrap.repoUrl),
    ("callback_url", .text bootstrap.callbackUrl),
    ("metadata_url", .text bootstrap.metadataUrl),
    ("instance_token", .text bootstrap.instanceToken),
    ("ssh_keys", .list (bootstrap.sshKeys.map .text)),
    ("extra_specs", (bootstrap.extraSpecs.map .dict).getD .null),
    ("github_runner_group", .text bootstrap.runnerGroup),
    ("ca_cert_bundle", .ofText? bootstrap.caCertBundle),
    ("os_type", .text bootstrap.osType.text),
    ("arch", .text bootstrap.arch.text),
    ("flavor", .text bootstrap.flavor),
    ("image", .text bootstrap.image),
    ("labels", .list (bootstrap.labels.map .text)),
    ("pool_id", .text bootstrap.poolId),
    ("jit_config_enabled", .bool bootstrap.jitConfigEnabled)]

end Bootstrap

end RunnerCloud
