import RunnerCloud.Payload.InstallScript
import RunnerCloud.Text.Base64

/-!
Contract: the boot document of a runner VM.

Owns:
- `Payload.document`, which installs the script and the host's certificates and runs both;
- `Bootstrap.userdata`, the document under the line `#cloud-config`; requests for other systems than
  Linux are refused.

Does not own: how the cloud receives the text; `RunnerSpec` encodes it.
-/

namespace RunnerCloud

namespace Payload

/-- Where the install script is written. -/
def scriptPath : Text := "/usr/local/share/garm/install_runner.sh"

/-- Where the host's certificates are written. -/
def caBundlePath : Text := "/usr/local/share/ca-certificates/garm-ca.crt"

/-- A file that the document writes, its content in base64. -/
def writtenFile (path permissions content : Text) : Value :=
  .dict [
    ("path", .text path),
    ("permissions", .text permissions),
    ("owner", .text "root:root"),
    ("encoding", .text "b64"),
    ("content", .text content)]

/-- The certificates of the request, unless they are empty. -/
def caBundle? (bootstrap : Bootstrap) : Option Text :=
  bootstrap.caCertBundle.filter (!·.isEmpty)

def writtenFiles (bootstrap : Bootstrap) (script : String) : List Value :=
  writtenFile scriptPath "0755" (Text.Base64.encode script) ::
    ((caBundle? bootstrap).map fun bundle => writtenFile caBundlePath "0644" bundle).toList

def commands (bootstrap : Bootstrap) : List Value :=
  ((caBundle? bootstrap).map fun _ => Value.list [.text "update-ca-certificates"]).toList ++
    [.list [.text "/bin/bash", .text scriptPath]]

/-- The user that the runner runs as. -/
def runnerUser (bootstrap : Bootstrap) : Value :=
  .dict [
    ("name", .text "runner"),
    ("shell", .text "/bin/bash"),
    ("homedir", .text runnerHome),
    ("sudo", .text "ALL=(ALL) NOPASSWD:ALL"),
    ("ssh_authorized_keys", .list (bootstrap.sshKeys.map .text))]

def document (bootstrap : Bootstrap) (script : String) : Value :=
  .dict [
    ("package_upgrade", .bool false),
    ("packages", .list [.text "curl", .text "tar"]),
    ("users", .list [.text "default", runnerUser bootstrap]),
    ("write_files", .list (writtenFiles bootstrap script)),
    ("runcmd", .list (commands bootstrap))]

/-- The line that opens the document. -/
def documentHeader : String := "#cloud-config\n"

end Payload

/-- The script as it is written into the document, which takes UTF-8 only. -/
def Bootstrap.encodableScript (bootstrap : Bootstrap) : Except SpecProblem String := do
  let script ← bootstrap.installScript
  script.utf8?.mapError .unencodable

def Bootstrap.userdata (bootstrap : Bootstrap) : Except SpecProblem String :=
  if bootstrap.osType != .linux then .error (.unsupportedOs bootstrap.osType)
  else
    bootstrap.encodableScript.map fun script =>
      Payload.documentHeader ++ Json.indented (Payload.document bootstrap script)

end RunnerCloud
