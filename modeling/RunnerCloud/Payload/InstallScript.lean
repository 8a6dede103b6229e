import RunnerCloud.Payload.Template
import RunnerCloud.Spec.Tools
import RunnerCloud.Text.ShellWord

/-!
Contract: the shell script that installs and registers a runner on first boot.

Owns:
- the two templates, their slots, and the section for credentials prepared by the host;
- `Bootstrap.installScript`, the templates filled with shell words. The file name of the archive is
  the one text that is filled in as it is, inside double quotes.

Does not own: the document that carries the script; `Payload.CloudInit` writes it.
-/

namespace RunnerCloud.Payload

inductive InstallSlot where
  | callbackUrl
  | metadataUrl
  | bearerToken
  | runnerName
  | runnerHome
  | downloadUrl
  | filename
  | tempToken
  | checksum
  | configure
deriving DecidableEq, Repr

inductive TokenSlot where
  | repoUrl
  | labels
  | runnerGroup
deriving DecidableEq, Repr

/-- The home directory of the user that the runner runs as. -/
def runnerHome : Text := "/home/runner"

/-- The install script; `configure` is a whole section, the other slots stand inside lines. -/
def installTemplate : Template InstallSlot := [
  .text "#!/bin/bash\n",
  .text "set -e\n",
  .text "set -o pipefail\n",
  .text "\n",
  .text "CALLBACK_URL=",
  .slot .callbackUrl,
  .text "\n",
  .text "METADATA_URL=",
  .slot .metadataUrl,
  .text "\n",
  .text "BEARER_TOKEN=",
  .slot .bearerToken,
  .text "\n",
  .text "RUNNER_NAME=",
  .slot .runnerName,
  .text "\n",
  .text "RUNNER_HOME=",
  .slot .runnerHome,
  .text "\n",
  .text "\n",
  .text "function call() \x7b\n",
  .text "    PAYLOAD=\"$1\"\n",
  .text "    curl --retry 5 --retry-delay 5 --retry-connrefused --fail -s -X POST \\\n",
  .text "        -d \"$\x7bPAYLOAD\x7d\" -H 'Accept: application/json' \\\n",
  .text "        -H \"Authorization: Bearer $\x7bBEARER_TOKEN\x7d\" \"$\x7bCALLBACK_URL\x7d\" || echo \"failed to call home\"\n",
  .text "\x7d\n",
  .text "\n",
  .text "function sendStatus() \x7b\n",
  .text "    call \"\x7b\\\"status\\\": \\\"installing\\\", \\\"message\\\": \\\"$1\\\"\x7d\"\n",
  .text "\x7d\n",
  .text "\n",
  .text "function fail() \x7b\n",
  .text "    call \"\x7b\\\"status\\\": \\\"failed\\\", \\\"message\\\": \\\"$1\\\"\x7d\"\n",
  .text "    exit 1\n",
  .text "\x7d\n",
  .text "\n",
  .text "function getMetadata() \x7b\n",
  .text "    curl --retry 5 --retry-delay 5 --retry-connrefused --fail -s \\\n",
  .text "        -H 'Accept: application/json' -H \"Authorization: Bearer $\x7bBEARER_TOKEN\x7d\" \\\n",
  .text "        \"$\x7bMETADATA_URL\x7d/$1\"\n",
  .text "\x7d\n",
  .text "\n",
  .text "sendStatus \"downloading tools from ",
  .slot .downloadUrl,
  .text "\"\n",
  .text "TEMP_TOKEN=",
  .slot .tempToken,
  .text "\n",
  .text "if [ -n \"$\x7bTEMP_TOKEN\x7d\" ]; then\n",
  .text "    curl --retry 5 --retry-delay 5 --retry-connrefused --fail -L \\\n",
  .text "        -H \"Authorization: Bearer $\x7bTEMP_TOKEN\x7d\" -o \"/home/runner/",
  .slot .filename,
  .text "\" ",
  .slot .downloadUrl,
  .text " || fail \"failed to download tools\"\n",
  .text "else\n",
  .text "    curl --retry 5 --retry-delay 5 --retry-connrefused --fail -L \\\n",
  .text "        -o \"/home/runner/",
  .slot .filename,
  .text "\" ",
  .slot .downloadUrl,
  .text " || fail \"failed to download tools\"\n",
  .text "fi\n",
  .text "\n",
  .text "CHECKSUM=",
  .slot .checksum,
  .text "\n",
  .text "if [ -n \"$\x7bCHECKSUM\x7d\" ]; then\n",
  .text "    echo \"$\x7bCHECKSUM\x7d  /home/runner/",
  .slot .filename,
  .text "\" | sha256sum -c - || fail \"tools checksum mismatch\"\n",
  .text "fi\n",
  .text "\n",
  .text "mkdir -p \"$\x7bRUNNER_HOME\x7d/actions-runner\"\n",
  .text "sendStatus \"extracting runner\"\n",
  .text "tar xf \"/home/runner/",
  .slot .filename,
  .text "\" -C \"$\x7bRUNNER_HOME\x7d/actions-runner\" || fail \"failed to extract runner\"\n",
  .text "chown -R runner:runner \"$\x7bRUNNER_HOME\x7d/actions-runner\"\n",
  .text "cd \"$\x7bRUNNER_HOME\x7d/actions-runner\"\n",
  .text "\n",
  .text "sendStatus \"installing dependencies\"\n",
  .text "./bin/installdependencies.sh || fail \"failed to install dependencies\"\n",
  .text "\n",
  .slot .configure,
  .text "\n",
  .text "\n",
  .text "sendStatus \"installing runner service\"\n",
  .text "./svc.sh install runner || fail \"failed to install service\"\n",
  .text "./svc.sh start || fail \"failed to start service\"\n",
  .text "\n",
  .text "AGENT_ID=$(grep -oE '\"[aA]gent[iI][dD]\": *[0-9]+' .runner | grep -oE '[0-9]+' || true)\n",
  .text "call \"\x7b\\\"status\\\": \\\"idle\\\", \\\"message\\\": \\\"runner successfully installed\\\", \\\"agent_id\\\": $\x7bAGENT_ID:-0\x7d\x7d\"\n"]

/-- The section that registers the runner with a registration token. -/
def tokenTemplate : Template TokenSlot := [
  .text "sendStatus \"configuring runner\"\n",
  .text "REG_TOKEN=$(getMetadata \"runner-registration-token/\") || fail \"failed to get registration token\"\n",
  .text "sudo -u runner -- ./config.sh --unattended --url ",
  .slot .repoUrl,
  .text " --token \"$\x7bREG_TOKEN\x7d\" \\\n",
  .text "    --name \"$\x7bRUNNER_NAME\x7d\" --labels ",
  .slot .labels,
  .text " ",
  .slot .runnerGroup,
  .text " --ephemeral || fail \"failed to configure runner\"\n"]

/-- The section that fetches credentials prepared by the host. -/
def jitSection : Text :=
  "sendStatus \"fetching runner credentials\"\n" ++
  "getMetadata \"credentials/runner\" | base64 -d > .runner || fail \"failed to get runner file\"\n" ++
  "getMetadata \"credentials/credentials\" | base64 -d > .credentials || fail \"failed to get credentials file\"\n" ++
  "getMetadata \"credentials/credentials_rsaparams\" | base64 -d > .credentials_rsaparams || fail \"failed to get rsa params\"\n" ++
  "chown runner:runner .runner .credentials .credentials_rsaparams\n" ++
  "chmod 400 .credentials .credentials_rsaparams"

open Text.ShellWord (quote)

/-- The option that puts the runner into a group; without a group there is none. -/
def groupOption (bootstrap : Bootstrap) : Text :=
  if bootstrap.runnerGroup.isEmpty then ""
  else "--runnergroup " ++ quote bootstrap.runnerGroup

def tokenContent (bootstrap : Bootstrap) : TokenSlot → Text
  | .repoUrl => quote bootstrap.repoUrl
  | .labels => quote (Text.intercalate "," bootstrap.labels)
  | .runnerGroup => groupOption bootstrap

/-- The section that registers the runner. -/
def configureSection (bootstrap : Bootstrap) : Text :=
  if bootstrap.jitConfigEnabled then jitSection
  else Template.fill tokenTemplate (tokenContent bootstrap)

def installContent (bootstrap : Bootstrap) (archive : ToolArchive) : InstallSlot → Text
  | .callbackUrl => quote bootstrap.callbackUrl
  | .metadataUrl => quote bootstrap.metadataUrl
  | .bearerToken => quote bootstrap.instanceToken
  | .runnerName => quote bootstrap.name
  | .runnerHome => quote runnerHome
  | .downloadUrl => quote (archive.downloadUrl.getD "")
  | .filename => archive.filename.getD ""
  | .tempToken => quote (archive.tempDownloadToken.getD "")
  | .checksum => quote (archive.sha256Checksum.getD "")
  | .configure => configureSection bootstrap

/-- The script for a request and the archive chosen for it. -/
def installScriptWith (bootstrap : Bootstrap) (archive : ToolArchive) : Text :=
  Template.fill installTemplate (installContent bootstrap archive)

end RunnerCloud.Payload

namespace RunnerCloud

/-- The script for a request, if it has a suitable archive. -/
def Bootstrap.installScript (bootstrap : Bootstrap) : Except SpecProblem Text :=
  bootstrap.selectTools.map (Payload.installScriptWith bootstrap)

end RunnerCloud
