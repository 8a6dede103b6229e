import RunnerCloud.Proofs.Config.CredentialSources

/-!
Contract: what becomes of credentials that are no texts.

Owns:
- `Value.Mistyped`, the values that are neither a text nor null;
- `ProviderConfig.Reports`, a validation that refuses a configuration for such a credential;
- `mistyped_reported_iff`: in every environment, a configuration is refused for it exactly when the
  value does not count as empty; one that does gives way to the environment, as if it were null;
- `false_secret_replaced`, a configuration whose secret is replaced in this way.

Does not own: where the other credentials come from.
-/

namespace RunnerCloud

open Validation

/-- A value that can be no credential: it is neither a text nor null. -/
def Value.Mistyped (value : Value) : Prop :=
  value ≠ .null ∧ ∀ written, value ≠ .text written

/-! ## The report on a credentials section -/

namespace Credentials

variable {environment : Environment} {written : Fields} {name variableName : Text}

theorem mem_issues_nullable_text_iff {value : Value} {issue : Issue} :
    issue ∈ (nullable text value).issues ↔ value.Mistyped ∧ issue = .atTop .notText := by
  unfold Value.Mistyped
  cases value with
  | null => simp [nullable, Checked.issues]
  | text written => simp [nullable, text, Checked.map, Checked.issues]
  | _ => simp [nullable, text, Checked.map, Checked.reject, Checked.issues]

/-- The environment only stands in for what is not given, so a wrong type is one that is written. -/
theorem mistyped_resolved_iff : (resolved environment written name variableName).Mistyped ↔
    ∃ value, written.get? name = some value ∧ value.Mistyped ∧ value.isEmptyLike = false := by
  have substitute : ¬ (Value.ofText? (environment.get? variableName)).Mistyped := by
    rintro ⟨present, noText⟩
    cases held : environment.get? variableName with
    | none => exact present (by rw [held]; rfl)
    | some value => exact noText value (by rw [held]; rfl)
  unfold resolved
  cases held : written.get? name with
  | none => simpa using substitute
  | some value =>
      cases empty : value.isEmptyLike with
      | true => simpa [empty] using substitute
      | false => simp [empty]

theorem mem_issues_entry_iff {key wanted : Text} {value : Value} :
    ⟨[.key wanted], .notText⟩ ∈ ((nullable text value).under (.key key)).issues ↔
      key = wanted ∧ value.Mistyped := by
  rw [Checked.issues_under, List.mem_map]
  constructor
  · rintro ⟨inner, listed, same⟩
    obtain ⟨mistyped, rfl⟩ := mem_issues_nullable_text_iff.1 listed
    have path : [PathStep.key key] = [.key wanted] := congrArg Issue.path same
    exact ⟨PathStep.key.inj (List.singleton_inj.1 path), mistyped⟩
  · rintro ⟨rfl, mistyped⟩
    exact ⟨_, mem_issues_nullable_text_iff.2 ⟨mistyped, rfl⟩, rfl⟩

theorem kind_of_mem_checkSubscription {credentials : Credentials} {issue : Issue}
    (listed : issue ∈ (checkSubscription credentials).issues) :
    issue.kind = .refused missingSubscription := by
  unfold checkSubscription at listed
  split at listed
  · rw [List.mem_singleton.1 listed]
    rfl
  · cases listed

/-- The report on a section lists a part of the wrong type exactly when that is what its value
comes to, unless a key with a half is all that it lists. -/
theorem mem_issues_ofFields_iff (part : CredentialPart) :
    ⟨[.key part.name], .notText⟩ ∈ (ofFields environment written).issues ↔
      written.areWhole = true ∧
        (resolved environment written part.name part.variableName).Mistyped := by
  have known : ⟨[.key part.name], .notText⟩ ∉ (unknownKeys fieldNames written).issues :=
    fun listed => Issue.Kind.noConfusion (kind_of_mem_unknownKeys listed)
  have subscribed : ∀ credentials,
      ⟨[.key part.name], .notText⟩ ∉ (checkSubscription credentials).issues :=
    fun credentials listed => Issue.Kind.noConfusion (kind_of_mem_checkSubscription listed)
  unfold ofFields
  simp only [Checked.mem_issues_ensure_iff, mem_issues_closed_iff, Checked.issues_seq,
    Checked.issues_map, List.mem_append, mem_issues_entry_iff, known, subscribed, and_false,
    exists_false, or_false]
  cases part <;> simp [CredentialPart.name, CredentialPart.variableName, Issue.atTop]

/-- What counts as empty is read like null. -/
theorem ofFields_insert_null {part : CredentialPart} {value : Value}
    (given : written.get? part.name = some value) (empty : value.isEmptyLike = true) :
    ofFields environment (written.insert part.name .null) = ofFields environment written := by
  have same : ∀ key variableName,
      resolved environment (written.insert part.name .null) key variableName =
        resolved environment written key variableName := by
    intro key variableName
    unfold resolved
    by_cases own : key = part.name
    · rw [own, Fields.get?_insert_self, given]
      show Value.ofText? _ = if value.isEmptyLike = true then _ else value
      rw [if_pos empty]
    · rw [Fields.get?_insert_of_ne own]
  have known : part.name ∈ fieldNames := by
    cases part <;> decide
  have whole : part.name.isPlain = true := by
    cases part <;> rfl
  unfold ofFields
  simp only [same, closed_insert known whole]

end Credentials

/-! ## The report on a configuration -/

namespace ProviderConfig

variable {environment : Environment} {fields written : Fields} {part : CredentialPart}

/-- A configuration is refused, and for a credential of the wrong type among other things. -/
def Reports (outcome : Except ConfigProblem ProviderConfig) (part : CredentialPart) : Prop :=
  ∃ issues, outcome = .error (.invalid issues) ∧
    ∃ issue ∈ issues, issue.path = [.key "credentials", .key part.name] ∧
      issue.kind.code = "string_type"

theorem kind_eq_notText_iff {kind : Issue.Kind} : kind.code = "string_type" ↔ kind = .notText := by
  cases kind <;> simp [Issue.Kind.code]

theorem reports_iff {value : Value} : Reports (validate environment value) part ↔
    ⟨[.key "credentials", .key part.name], .notText⟩ ∈ (ofValue environment value).issues := by
  unfold Reports validate
  cases outcome : ofValue environment value with
  | accepted config => simp [Checked.issues]
  | rejected issues =>
      simp only [Except.error.injEq, ConfigProblem.invalid.injEq, exists_eq_left', Checked.issues]
      constructor
      · rintro ⟨⟨path, kind⟩, listed, rfl, code⟩
        obtain rfl : kind = .notText := kind_eq_notText_iff.1 code
        exact listed
      · intro listed
        exact ⟨_, listed, rfl, rfl⟩

theorem path_of_mem_checkNetwork {config : ProviderConfig} {issue : Issue}
    (listed : issue ∈ (checkNetwork config).issues) : issue.path = [] := by
  unfold checkNetwork at listed
  split at listed
  · rw [List.mem_singleton.1 listed]
    rfl
  · cases listed

/-- Issues inside the credentials section come from nowhere else, and are listed unless a key with a
half is all that the report lists. -/
theorem mem_issues_ofFields_iff {inner : Issue} (noUnknown : inner.kind ≠ .unknownKey) :
    inner.under (.key "credentials") ∈ (ofFields environment fields).issues ↔
      fields.areWhole = true ∧ inner ∈ (Credentials.ofValue environment
        ((fields.get? "credentials").getD (.dict []))).issues := by
  have elsewhere : ∀ {key : Text} {other : Issue}, key ≠ "credentials" →
      other.under (.key key) ≠ inner.under (.key "credentials") := by
    intro key other differs same
    have path : PathStep.key key :: other.path = .key "credentials" :: inner.path :=
      congrArg Issue.path same
    exact differs (PathStep.key.inj (List.cons.inj path).1)
  have location : inner.under (.key "credentials") ∉
      (required fields (.plain "location") text).issues := fun listed =>
    let ⟨_, same⟩ := mem_issues_required listed
    elsewhere (by decide) same
  have optionals : ∀ {α : Type} {key : Text} (default : α) (check : Value → Checked α),
      key ≠ "credentials" → inner.under (.key "credentials") ∉
        (Validation.optional fields (.plain key) default check).issues := by
    intro α key default check differs listed
    obtain ⟨_, same⟩ := mem_issues_optional listed
    exact elsewhere differs same
  have known : inner.under (.key "credentials") ∉ (unknownKeys fieldNames fields).issues := by
    intro listed
    have kind := kind_of_mem_unknownKeys listed
    exact noUnknown kind
  have network : ∀ config, inner.under (.key "credentials") ∉ (checkNetwork config).issues :=
    fun config listed => List.cons_ne_nil _ _ (path_of_mem_checkNetwork listed)
  unfold ofFields credentialsOf
  have top : inner.under (.key "credentials") ≠ .atTop .brokenText := fun same =>
    List.cons_ne_nil _ _ (congrArg Issue.path same)
  simp only [Checked.mem_issues_ensure_iff, mem_issues_closed_iff, Checked.issues_seq,
    Checked.issues_map, List.mem_append, location, known, network, top, and_false, exists_false, or_false,
    false_or, optionals false bool (by decide : ("use_ephemeral_storage" : Text) ≠ "credentials"),
    optionals false bool (by decide : ("use_accelerated_networking" : Text) ≠ "credentials"),
    optionals defaultNetwork text (by decide : ("virtual_network_cidr" : Text) ≠ "credentials"),
    optionals defaultVmSize text (by decide : ("vm_size" : Text) ≠ "credentials"),
    optionals defaultImage text (by decide : ("image" : Text) ≠ "credentials"),
    Checked.mem_issues_under_iff]
  simp

/-- A credential that is neither a text nor null is reported, in every environment, exactly when it
does not count as empty: when it is not false, zero, or an empty list or document. A key with a half
of a surrogate pair, which no file can hold, is reported in its place. A credential that counts as
empty gives way to the environment: the configuration comes to the same as with null in its place, and
if it is accepted, then with what the credential's variable holds. The same goes for a configuration
that is read from a file. -/
theorem mistyped_reported_iff (environment : Environment) {fields written : Fields}
    {part : CredentialPart} {value : Value}
    (section? : fields.get? "credentials" = some (.dict written))
    (given : written.get? part.name = some value) (mistyped : value.Mistyped) :
    let outcome := validate environment (.dict fields)
    (Reports outcome part ↔
      value.isEmptyLike = false ∧ fields.areWhole = true ∧ written.areWhole = true) ∧
    (value.isEmptyLike = true →
      outcome = validate environment
        (.dict (fields.insert "credentials" (.dict (written.insert part.name .null)))) ∧
      ∀ config, outcome = .ok config →
        part.of config.credentials = environment.get? part.variableName) ∧
    ∀ (fileContent : FilePath → Option FileContent) (path : Text) (text : String),
      fileContent (.ofText path) = some (.text text) → Toml.parse text = .ok fields →
        load fileContent environment path = outcome := by
  refine ⟨?reported, fun empty => ⟨?likeNull, ?replaced⟩, ?file⟩
  case reported =>
    rw [reports_iff]
    show Issue.under (.key "credentials") ⟨[.key part.name], .notText⟩ ∈
      (ofFields environment fields).issues ↔ _
    rw [mem_issues_ofFields_iff (by simp), section?, Option.getD_some]
    show _ ∧ _ ∈ (Credentials.ofFields environment written).issues ↔ _
    rw [Credentials.mem_issues_ofFields_iff, Credentials.mistyped_resolved_iff, given]
    simp [mistyped, and_comm, and_assoc]
  case likeNull =>
    have same : ofValue environment
        (.dict (fields.insert "credentials" (.dict (written.insert part.name .null)))) =
          ofValue environment (.dict fields) := by
      apply ofFields_insert_section
      rw [section?, Option.getD_some]
      exact Credentials.ofFields_insert_null given empty
    unfold validate
    rw [same]
  case replaced =>
    intro config accepts
    have read := credentials_of_accepted (validate_eq_ok_iff.1 accepts)
    have entries : credentialsSection fields = written := by
      unfold credentialsSection
      rw [section?]
      rfl
    have nothing : part.given? (credentialsSection fields) = none := by
      unfold CredentialPart.given?
      rw [entries, given]
      exact Credentials.given?_text?_of_isEmptyLike empty
    rw [Credentials.part_of_accepted read, nothing, Option.none_or]
  case file =>
    intro fileContent path text holds parses
    unfold load
    simp only [holds, parses]

/-! ## A secret of the wrong type -/

/-- The credentials section of a service principal. -/
def principalWith (secret : Value) : Fields := [
  ("subscription_id", .text "subscription"),
  ("tenant_id", .text "tenant"),
  ("client_id", .text "client"),
  ("client_secret", secret)]

def configurationWith (secret : Value) : Fields :=
  [("location", .text "westeurope"), ("credentials", .dict (principalWith secret))]

/-- An environment that holds the secret of somebody else. -/
def otherSecret : Environment := [("AZURE_CLIENT_SECRET", "another secret")]

/-- A number is reported unless it is zero. -/
theorem mistyped_reported_iff_of_number :
    (Value.int 5).Mistyped ∧ (Value.int 0).Mistyped ∧
      Reports (validate otherSecret (.dict (configurationWith (.int 5)))) .secret ∧
      ¬ Reports (validate otherSecret (.dict (configurationWith (.int 0)))) .secret := by
  have mistyped : ∀ number, (Value.int number).Mistyped := fun number => by simp [Value.Mistyped]
  have given : ∀ secret, Fields.get? (principalWith secret) CredentialPart.secret.name = some secret :=
    fun _ => rfl
  refine ⟨mistyped 5, mistyped 0, ?_, ?_⟩
  · exact (mistyped_reported_iff otherSecret rfl (given _) (mistyped 5)).1.2 ⟨rfl, rfl, rfl⟩
  · intro reported
    have present := ((mistyped_reported_iff otherSecret rfl (given _) (mistyped 0)).1.1 reported).1
    cases present

/-- With false for its secret, a configuration is accepted without a word, and the provider signs in
with the secret of the environment. -/
theorem false_secret_replaced :
    let outcome := validate otherSecret (.dict (configurationWith (.bool false)))
    (Value.bool false).Mistyped ∧ ¬ Reports outcome .secret ∧
      outcome.map (·.credentials.signIn) =
        .ok (.servicePrincipal "tenant" "client" "another secret") := by
  refine ⟨by simp [Value.Mistyped], ?_, rfl⟩
  rintro ⟨issues, refused, -⟩
  cases refused

end ProviderConfig

end RunnerCloud
