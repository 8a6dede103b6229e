import RunnerCloud.Proofs.Payload.Expansion
import RunnerCloud.Proofs.Provision.Course
import RunnerCloud.Proofs.Text.ShellWord

/-!
Contract: what the texts of a request denote in the install script.

Owns:
- `places`, the quotation in which every slot of a template stands, and `InstallSlot.field?`, the
  text of the request that a slot is for;
- `Literal` and `installScript_literal`: outside of quotes, what is filled in is one word that
  denotes its field;
- `double_quoted_places_iff`: inside double quotes this holds exactly for inert file names and safe
  URLs, and `double_quoted_places_expand`, a request that breaks it.

Does not own: the commands of the script.
-/

namespace RunnerCloud.Payload

open Text.ShellWord

/-! ## Places -/

/-- The slots of a template in order, each with the quotation in which it stands when the template
is read from `state` and what is filled in keeps the quotation. -/
def places {Slot : Type} : Quotation → Template Slot → List (Quotation × Slot)
  | _, [] => []
  | state, .text fixed :: rest => places (quotationAfter state fixed.points) rest
  | state, .slot name :: rest => (state, name) :: places state rest

section

variable {Slot : Type} {state later : Quotation} {rest : Template Slot}
  {found : List (Quotation × Slot)}

theorem places_nil : places state ([] : Template Slot) = [] := rfl

/-- A fixed text is taken apart as a list of characters: its own list is slow to compute. -/
theorem places_text {fixed : String} {chars : List Char} (spelled : fixed = String.ofList chars)
    (follows : places (quotationAfter state (chars.map .char)) rest = found) :
    places state (.text fixed :: rest) = found := by
  rw [places, spelled, Text.points_plain, String.toList_ofList, follows]

theorem places_slot {name : Slot} (stands : state = later) (follows : places later rest = found) :
    places state (.slot name :: rest) = (later, name) :: found := by
  rw [places, stands, follows]

end

seal places in
theorem installTemplate_places :
    places .unquoted installTemplate =
      [(.unquoted, .callbackUrl), (.unquoted, .metadataUrl), (.unquoted, .bearerToken),
        (.unquoted, .runnerName), (.unquoted, .runnerHome), (.double, .downloadUrl),
        (.unquoted, .tempToken), (.double, .filename), (.unquoted, .downloadUrl),
        (.double, .filename), (.unquoted, .downloadUrl), (.unquoted, .checksum),
        (.double, .filename), (.double, .filename), (.unquoted, .configure)] := by
  repeat' first
    | exact places_nil
    | refine places_slot (by decide +kernel) ?_
    | refine places_text rfl ?_

seal places in
theorem tokenTemplate_places :
    places .unquoted tokenTemplate =
      [(.unquoted, .repoUrl), (.unquoted, .labels), (.unquoted, .runnerGroup)] := by
  repeat' first
    | exact places_nil
    | refine places_slot (by decide +kernel) ?_
    | refine places_text rfl ?_

/-- The text that a slot is for, empty when the archive has none. The section that registers the
runner is a text of its own. -/
def InstallSlot.field? (bootstrap : Bootstrap) (archive : ToolArchive) : InstallSlot → Option Text
  | .callbackUrl => some bootstrap.callbackUrl
  | .metadataUrl => some bootstrap.metadataUrl
  | .bearerToken => some bootstrap.instanceToken
  | .runnerName => some bootstrap.name
  | .runnerHome => some "/home/runner"
  | .downloadUrl => some (archive.downloadUrl.getD "")
  | .filename => some (archive.filename.getD "")
  | .tempToken => some (archive.tempDownloadToken.getD "")
  | .checksum => some (archive.sha256Checksum.getD "")
  | .configure => none

theorem spells_quote (text : Text) : Spells .unquoted (quote text) text :=
  spells_unquoted_iff.2 (wordValue?_quote text)

variable {bootstrap : Bootstrap} {archive : ToolArchive}

/-- Outside of quotes every slot is filled with its field, quoted. -/
theorem spells_unquoted_place {slot : InstallSlot} {text : Text}
    (stands : (.unquoted, slot) ∈ places .unquoted installTemplate)
    (field : slot.field? bootstrap archive = some text) :
    Spells .unquoted (installContent bootstrap archive slot) text := by
  cases slot with
  | filename =>
      rw [installTemplate_places] at stands
      exact absurd stands (by decide)
  | configure => cases field
  | _ =>
      cases field
      exact spells_quote _

/-! ## Scripts -/

theorem selectTools_ok (selects : bootstrap.selectTools = .ok archive) :
    ∃ url filename, archive.downloadUrl = some url ∧ url ≠ "" ∧
      archive.filename = some filename ∧ filename ≠ "" := by
  refine ToolArchive.isComplete_iff.1 ?_
  unfold Bootstrap.selectTools at selects
  split at selects
  · split at selects
    · cases selects
      assumption
    · cases selects
  · cases selects

theorem installScript_ok {script : Text} (scripted : bootstrap.installScript = .ok script) :
    ∃ archive, bootstrap.selectTools = .ok archive ∧ installScriptWith bootstrap archive = script := by
  unfold Bootstrap.installScript at scripted
  cases selects : bootstrap.selectTools with
  | error problem =>
      rw [selects] at scripted
      cases scripted
  | ok archive =>
      rw [selects] at scripted
      cases scripted
      exact ⟨archive, rfl, rfl⟩

/-- What a script makes of the texts that stand outside of quotes. -/
structure Literal (bootstrap : Bootstrap) (archive : ToolArchive) (script : Text) : Prop where
  /-- The script is the template with one text in every slot. -/
  fills : script = Template.fill installTemplate (installContent bootstrap archive)
  /-- It is what one reading of the written template gives. -/
  expands : expand
    (valuesOf InstallSlot.all InstallSlot.placeholder (installContent bootstrap archive))
    (installTemplate.source InstallSlot.placeholder) = some script.points
  /-- Every slot outside of quotes is filled with one word that denotes its field. -/
  words : ∀ slot text, (.unquoted, slot) ∈ places .unquoted installTemplate →
    slot.field? bootstrap archive = some text →
    Spells .unquoted (installContent bootstrap archive slot) text
  /-- The section that registers the runner is a written template of its own, read once; what is
  filled in are words that denote their fields, and a group that is empty is left out. -/
  registers : bootstrap.jitConfigEnabled = false →
    installContent bootstrap archive .configure =
      Template.fill tokenTemplate (tokenContent bootstrap) ∧
    expand (valuesOf TokenSlot.all TokenSlot.placeholder (tokenContent bootstrap))
        (tokenTemplate.source TokenSlot.placeholder) =
      some (installContent bootstrap archive .configure).points ∧
    Spells .unquoted (tokenContent bootstrap .repoUrl) bootstrap.repoUrl ∧
    Spells .unquoted (tokenContent bootstrap .labels) (Text.intercalate "," bootstrap.labels) ∧
    (bootstrap.runnerGroup = "" → tokenContent bootstrap .runnerGroup = "") ∧
    (bootstrap.runnerGroup ≠ "" → ∃ word,
      tokenContent bootstrap .runnerGroup = "--runnergroup " ++ word ∧
      Spells .unquoted word bootstrap.runnerGroup)
  /-- With credentials prepared by the host, what a registration needs has no part in the script. -/
  independent : bootstrap.jitConfigEnabled = true → ∀ repoUrl labels runnerGroup,
    ({ bootstrap with repoUrl, labels, runnerGroup } : Bootstrap).installScript = .ok script

theorem groupOption_of_nonempty (given : bootstrap.runnerGroup ≠ "") :
    ∃ word, groupOption bootstrap = "--runnergroup " ++ word ∧
      Spells .unquoted word bootstrap.runnerGroup := by
  have nonempty : ¬ bootstrap.runnerGroup.isEmpty = true := by simpa using given
  refine ⟨quote bootstrap.runnerGroup, ?_, spells_quote _⟩
  rw [groupOption, if_neg nonempty]

/-- Credentials prepared by the host leave no use for what a registration needs. -/
theorem installScript_of_jit (prepared : bootstrap.jitConfigEnabled = true) (repoUrl : Text)
    (labels : List Text) (runnerGroup : Text) :
    ({ bootstrap with repoUrl, labels, runnerGroup } : Bootstrap).installScript =
      bootstrap.installScript := by
  have content : ∀ archive, installContent
      ({ bootstrap with repoUrl, labels, runnerGroup } : Bootstrap) archive =
        installContent bootstrap archive := by
    intro archive
    funext slot
    cases slot with
    | configure =>
        show configureSection _ = configureSection _
        rw [configureSection, configureSection, if_pos prepared, if_pos prepared]
    | _ => rfl
  have scripts : installScriptWith ({ bootstrap with repoUrl, labels, runnerGroup } : Bootstrap) =
      installScriptWith bootstrap := by
    funext archive
    rw [installScriptWith, installScriptWith, content]
  rw [Bootstrap.installScript, Bootstrap.installScript, scripts]
  rfl

/-- Outside of quotes every text in an install script is literal. -/
theorem installScript_literal {script : Text} (scripted : bootstrap.installScript = .ok script) :
    (∃ archive, bootstrap.selectTools = .ok archive ∧ Literal bootstrap archive script) ∧
      (∀ slot : InstallSlot, slot ≠ .filename →
        (.unquoted, slot) ∈ places .unquoted installTemplate) ∧
      ∀ slot : TokenSlot, (.unquoted, slot) ∈ places .unquoted tokenTemplate := by
  obtain ⟨archive, selects, rfl⟩ := installScript_ok scripted
  refine ⟨⟨archive, selects, ?_⟩, ?_, ?_⟩
  · exact
      { fills := rfl
        expands := expand_installTemplate _
        words := fun slot text => spells_unquoted_place
        registers := by
          intro unprepared
          have filled : installContent bootstrap archive .configure =
              Template.fill tokenTemplate (tokenContent bootstrap) := by
            show configureSection bootstrap = _
            rw [configureSection, if_neg (by simp [unprepared])]
          refine ⟨filled, ?_, spells_quote _, spells_quote _, ?_, groupOption_of_nonempty⟩
          · rw [filled]
            exact expand_tokenTemplate _
          · intro empty
            show groupOption bootstrap = ""
            rw [groupOption, if_pos (by simp [empty])]
        independent := by
          intro prepared repoUrl labels runnerGroup
          rw [installScript_of_jit prepared, scripted] }
  · rw [installTemplate_places]
    intro slot other
    cases slot with
    | filename => exact absurd rfl other
    | _ => decide
  · rw [tokenTemplate_places]
    intro slot
    cases slot <;> decide

open Provision in
/-- A request whose texts look like placeholders, quotes and expansions to a careless reader. -/
def trickyBootstrap : Bootstrap :=
  { sampleBootstrap with
    name := "$runner_name"
    repoUrl := "https://example.com/$labels $$"
    callbackUrl := "it's \"here\""
    instanceToken := "`id` $(id) ∑\n"
    runnerGroup := "a b"
    labels := ["$configure", "x"] }

theorem installScript_literal_of_tricky :
    ∃ script archive, trickyBootstrap.installScript = .ok script ∧
      Literal trickyBootstrap archive script ∧
      Spells .unquoted (installContent trickyBootstrap archive .callbackUrl) "it's \"here\"" := by
  obtain ⟨script, scripted⟩ : ∃ script, trickyBootstrap.installScript = .ok script :=
    Provision.exists_of_isSome (by decide +kernel)
  obtain ⟨⟨archive, _, literal⟩, stands, _⟩ := installScript_literal scripted
  exact ⟨script, archive, scripted, literal,
    literal.words .callbackUrl _ (stands .callbackUrl (by decide)) rfl⟩

/-! ## Inside double quotes -/

/-- Inside double quotes a file name denotes itself exactly when it is inert, and a URL exactly when
it needed no quotes: the file name is filled in as it is, the URL as a word of its own. -/
theorem double_quoted_places_iff {script : Text}
    (scripted : bootstrap.installScript = .ok script) :
    ∃ archive url filename, bootstrap.selectTools = .ok archive ∧ archive.downloadUrl = some url ∧
      archive.filename = some filename ∧
      script = Template.fill installTemplate (installContent bootstrap archive) ∧
      (∀ slot, (.double, slot) ∈ places .unquoted installTemplate ↔
        slot = .filename ∨ slot = .downloadUrl) ∧
      (Spells .double (installContent bootstrap archive .filename) filename ↔
        Inert filename.points) ∧
      (Spells .double (installContent bootstrap archive .downloadUrl) url ↔
        url.points.all isSafe = true) := by
  obtain ⟨archive, selects, rfl⟩ := installScript_ok scripted
  obtain ⟨url, filename, hasUrl, nonempty, hasName, _⟩ := selectTools_ok selects
  refine ⟨archive, url, filename, selects, hasUrl, hasName, rfl, ?_, ?_, ?_⟩
  · rw [installTemplate_places]
    intro slot
    cases slot <;> decide
  · have content : installContent bootstrap archive .filename = filename := by
      rw [installContent, hasName, Option.getD_some]
    rw [content, spells_double_iff, doubleQuotedValue?_eq_self_iff]
  · have content : installContent bootstrap archive .downloadUrl = quote url := by
      rw [installContent, hasUrl, Option.getD_some]
    rw [content, spells_double_iff, doubleQuotedValue?_quote_iff nonempty]

open Provision in
/-- A request whose archive has a file name with a command in it, and a URL with a query. -/
def hostileBootstrap : Bootstrap :=
  { sampleBootstrap with
    tools := [⟨some "linux", some "x64", some "https://example.com/runner.tar.gz?a=1&b=2",
      some "$(id).tar.gz", none, none⟩] }

theorem hostileBootstrap_scripted : ∃ script, hostileBootstrap.installScript = .ok script :=
  Provision.exists_of_isSome (by decide +kernel)

theorem double_quoted_places_iff_of_hostile :
    ∃ script archive, hostileBootstrap.installScript = .ok script ∧
      hostileBootstrap.selectTools = .ok archive ∧
      ¬ Spells .double (installContent hostileBootstrap archive .filename) "$(id).tar.gz" := by
  obtain ⟨script, scripted⟩ := hostileBootstrap_scripted
  obtain ⟨archive, _, filename, selects, _, hasName, _, _, inert, _⟩ :=
    double_quoted_places_iff scripted
  cases selects
  cases hasName
  refine ⟨script, _, scripted, rfl, fun spells => ?_⟩
  exact (inert.1 spells [] (.char '$') _ rfl).2.1 rfl

/-- Inside double quotes the file name starts a command, and the URL stands with quotes around it. -/
theorem double_quoted_places_expand :
    ∃ script archive, hostileBootstrap.installScript = .ok script ∧
      hostileBootstrap.selectTools = .ok archive ∧
      (.double, .filename) ∈ places .unquoted installTemplate ∧
      archive.filename = some "$(id).tar.gz" ∧
      doubleQuotedValue? (installContent hostileBootstrap archive .filename).points = none ∧
      (.double, .downloadUrl) ∈ places .unquoted installTemplate ∧
      archive.downloadUrl = some "https://example.com/runner.tar.gz?a=1&b=2" ∧
      doubleQuotedValue? (installContent hostileBootstrap archive .downloadUrl).points =
        some (Text.points "'https://example.com/runner.tar.gz?a=1&b=2'") := by
  obtain ⟨script, scripted⟩ := hostileBootstrap_scripted
  refine ⟨script, _, scripted, rfl, ?_, rfl, by decide +kernel, ?_, rfl, by decide +kernel⟩
  · rw [installTemplate_places]
    decide
  · rw [installTemplate_places]
    decide

end RunnerCloud.Payload
