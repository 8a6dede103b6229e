import RunnerCloud.Spec.Problem

/-!
Contract: the choice of the runner tools archive for a request.

Owns:
- `ToolArchive.suits`, which archives are for the operating system and architecture of a request;
- `Bootstrap.selectTools`, the first archive that suits; the request is refused when there is none,
  or when that one lacks its URL or its file name.

Does not own: the archives themselves, which the host sends.
-/

namespace RunnerCloud

/-- An archive for the operating system and architecture of the request. -/
def ToolArchive.suits (archive : ToolArchive) (bootstrap : Bootstrap) : Bool :=
  archive.os == some bootstrap.osType.text &&
    archive.architecture == some bootstrap.arch.toolName

/-- An archive that can be downloaded: it has a URL and a file name. -/
def ToolArchive.isComplete (archive : ToolArchive) : Bool :=
  !(archive.downloadUrl.getD "").isEmpty && !(archive.filename.getD "").isEmpty

theorem ToolArchive.isComplete_iff {archive : ToolArchive} :
    archive.isComplete = true ↔
      ∃ url filename, archive.downloadUrl = some url ∧ url ≠ "" ∧
        archive.filename = some filename ∧ filename ≠ "" := by
  unfold isComplete
  cases archive.downloadUrl <;> cases archive.filename <;> simp

def Bootstrap.selectTools (bootstrap : Bootstrap) : Except SpecProblem ToolArchive :=
  match bootstrap.tools.find? (·.suits bootstrap) with
  | some archive =>
    if archive.isComplete then .ok archive
    else .error (.noTools bootstrap.osType bootstrap.arch)
  | none => .error (.noTools bootstrap.osType bootstrap.arch)

end RunnerCloud
