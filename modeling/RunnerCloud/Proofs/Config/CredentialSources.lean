import RunnerCloud.Config.File
import RunnerCloud.Proofs.Validation.Reports

/-!
Contract: where the credentials of an accepted configuration come from.

Owns:
- `CredentialPart`, the four texts that credentials consist of, each with its field, the variable
  that stands in for it, and what a credentials section gives for it;
- `Credentials.part_of_accepted`: a part is what the section gives, or else what its own variable
  holds, and `Credentials.ofValue_toValue_of_sources`: read again, it is the same part;
- when the parts make a service principal;
- `ProviderConfig.credentials_resolved`: all of this for configurations, and that a section which is
  left out counts as an empty one.

Does not own: signing in.
-/

namespace RunnerCloud

open Validation

/-- One of the texts that credentials consist of. -/
inductive CredentialPart where
  | subscription
  | tenant
  | client
  | secret
deriving DecidableEq, Repr

namespace CredentialPart

def name : CredentialPart → Text
  | .subscription => "subscription_id"
  | .tenant => "tenant_id"
  | .client => "client_id"
  | .secret => "client_secret"

/-- The environment variable that stands in for the part. -/
def variableName : CredentialPart → Text
  | .subscription => "AZURE_SUBSCRIPTION_ID"
  | .tenant => "AZURE_TENANT_ID"
  | .client => "AZURE_CLIENT_ID"
  | .secret => "AZURE_CLIENT_SECRET"

def of (credentials : Credentials) : CredentialPart → Option Text
  | .subscription => credentials.subscriptionId
  | .tenant => credentials.tenantId
  | .client => credentials.clientId
  | .secret => credentials.clientSecret

/-- The text that a credentials section gives for the part, unless that is empty. -/
def given? (part : CredentialPart) (written : Fields) : Option Text :=
  Credentials.given? ((written.get? part.name).bind Value.text?)

end CredentialPart

/-! ## One part -/

namespace Credentials

variable {environment : Environment} {written : Fields} {name variableName : Text}
  {credentials : Credentials}

theorem nullable_text_ofText? (part : Option Text) :
    nullable text (.ofText? part) = .accepted part := by
  cases part <;> rfl

theorem given?_eq_some_iff {part : Option Text} {value : Text} :
    given? part = some value ↔ part = some value ∧ value ≠ "" := by
  unfold given?
  rw [Option.filter_eq_some_iff]
  simp

theorem given?_eq_none_iff {part : Option Text} :
    given? part = none ↔ part = none ∨ part = some "" := by
  unfold given?
  rw [Option.filter_eq_none_iff]
  cases part <;> simp

/-- What counts as not given is no text, or the empty one. -/
theorem given?_text?_of_isEmptyLike {value : Value} (empty : value.isEmptyLike = true) :
    given? value.text? = none := by
  cases value with
  | text value =>
      have nothing : value.isEmpty = true := empty
      simp [given?, Value.text?, Option.filter, nothing]
  | _ => rfl

theorem resolved_of_accepted {part : Option Text}
    (accepts : nullable text (resolved environment written name variableName) = .accepted part) :
    part = (given? ((written.get? name).bind Value.text?)).or (environment.get? variableName) := by
  unfold resolved at accepts
  have substituted : ∀ {value : Value}, value.isEmptyLike = true →
      nullable text (.ofText? (environment.get? variableName)) = .accepted part →
      part = (given? value.text?).or (environment.get? variableName) := by
    intro value empty accepts
    rw [nullable_text_ofText?] at accepts
    rw [given?_text?_of_isEmptyLike empty, Option.none_or]
    exact (Checked.accepted.inj accepts).symm
  cases found : written.get? name with
  | none =>
      rw [found] at accepts
      exact @substituted .null rfl accepts
  | some value =>
      rw [found] at accepts
      by_cases empty : value.isEmptyLike = true
      · simp only [if_pos empty] at accepts
        exact substituted empty accepts
      · simp only [if_neg empty] at accepts
        cases value with
        | text value =>
            have filled : given? (some value) = some value := by
              rw [given?_eq_some_iff]
              refine ⟨rfl, ?_⟩
              rintro rfl
              exact empty rfl
            have same : some value = part := Checked.accepted.inj accepts
            rw [Option.bind_some, Value.text?, filled, Option.some_or, same]
        | null => exact absurd rfl empty
        | _ => cases accepts

/-- A part that was resolved once is resolved to itself. -/
theorem resolved_of_source {part given : Option Text}
    (source : part = (Credentials.given? given).or (environment.get? variableName))
    (holds : written.get? name = some (.ofText? part)) :
    nullable text (resolved environment written name variableName) = .accepted part := by
  unfold resolved
  rw [holds]
  by_cases empty : (Value.ofText? part).isEmptyLike = true
  · -- Nothing non-empty was given, so the part is what the variable holds.
    have absent : Credentials.given? given = none := by
      cases found : Credentials.given? given with
      | none => rfl
      | some value =>
          rw [found, Option.some_or] at source
          rw [source] at empty
          have nothing : value = "" := by simpa [Value.isEmptyLike, Value.ofText?] using empty
          exact absurd nothing (given?_eq_some_iff.1 found).2
    rw [absent, Option.none_or] at source
    simp only [if_pos empty, ← source]
    exact nullable_text_ofText? part
  · simp only [if_neg empty]
    exact nullable_text_ofText? part

/-! ## Credentials -/

theorem checkSubscription_eq_accepted_iff {checked : Credentials} :
    checkSubscription credentials = .accepted checked ↔
      credentials = checked ∧ ∃ value, given? credentials.subscriptionId = some value := by
  unfold checkSubscription
  cases held : credentials.subscriptionId with
  | none => simp [given?, Checked.reject]
  | some value => by_cases empty : value = "" <;> simp [given?, Option.filter, empty, Checked.reject]

/-- The credentials that a section is read as, from one entry for each part. -/
theorem ofFields_eq_accepted_iff : ofFields environment written = .accepted credentials ↔
    (∀ part : CredentialPart, nullable text (resolved environment written part.name
        part.variableName) = .accepted (part.of credentials)) ∧
      unknownKeys fieldNames written = .accepted () ∧
      ∃ value, given? credentials.subscriptionId = some value := by
  have whole : fieldNames.all Text.isPlain = true := rfl
  unfold ofFields
  simp only [Checked.ensure_eq_accepted_iff, closed_eq_accepted_iff whole,
    Checked.seq_eq_accepted_iff, Checked.map_eq_accepted_iff, Checked.under_eq_accepted_iff,
    checkSubscription_eq_accepted_iff]
  constructor
  · rintro ⟨_, ⟨⟨_, secret, ⟨_, client, ⟨_, tenant, ⟨subscription, subscriptionRead, rfl⟩,
      tenantRead, rfl⟩, clientRead, rfl⟩, secretRead, rfl⟩, known⟩, rfl, filled⟩
    refine ⟨?_, known, filled⟩
    intro part
    cases part with
    | subscription => exact subscriptionRead
    | tenant => exact tenantRead
    | client => exact clientRead
    | secret => exact secretRead
  · rintro ⟨read, known, filled⟩
    exact ⟨_, ⟨⟨_, _, ⟨_, _, ⟨_, _, ⟨_, read .subscription, rfl⟩, read .tenant, rfl⟩,
      read .client, rfl⟩, read .secret, rfl⟩, known⟩, rfl, filled⟩

/-- A part is what the section gives for it, and else what its variable holds. -/
theorem part_of_accepted (accepts : ofFields environment written = .accepted credentials)
    (part : CredentialPart) : part.of credentials =
      (part.given? written).or (environment.get? part.variableName) :=
  resolved_of_accepted ((ofFields_eq_accepted_iff.1 accepts).1 part)

theorem subscription_of_accepted (accepts : ofFields environment written = .accepted credentials) :
    ∃ value, credentials.subscriptionId = some value ∧ value ≠ "" := by
  obtain ⟨value, filled⟩ := (ofFields_eq_accepted_iff.1 accepts).2.2
  exact ⟨value, given?_eq_some_iff.1 filled⟩

/-- In the environment that filled their gaps, written credentials are read as they were. -/
theorem ofValue_toValue_of_accepted
    (accepts : ofFields environment written = .accepted credentials) :
    ofValue environment credentials.toValue = .accepted credentials := by
  refine ofFields_eq_accepted_iff.2 ⟨?_, rfl, (ofFields_eq_accepted_iff.1 accepts).2.2⟩
  intro part
  apply resolved_of_source (part_of_accepted accepts part)
  cases part <;> rfl

/-! ## Signing in -/

theorem signIn_eq_servicePrincipal_iff {tenantId clientId clientSecret : Text} :
    credentials.signIn = .servicePrincipal tenantId clientId clientSecret ↔
      given? credentials.tenantId = some tenantId ∧ given? credentials.clientId = some clientId ∧
        given? credentials.clientSecret = some clientSecret := by
  unfold signIn
  cases given? credentials.tenantId <;> cases given? credentials.clientId <;>
    cases given? credentials.clientSecret <;> simp

theorem signIn_eq_ambient_iff : credentials.signIn = .ambient ↔
    given? credentials.tenantId = none ∨ given? credentials.clientId = none ∨
      given? credentials.clientSecret = none := by
  unfold signIn
  cases given? credentials.tenantId <;> cases given? credentials.clientId <;>
    cases given? credentials.clientSecret <;> simp

end Credentials

/-! ## Configurations -/

namespace ProviderConfig

variable {environment : Environment} {fields : Fields} {config : ProviderConfig}

/-- The credentials section of a configuration; without one it counts as empty. -/
def credentialsSection (fields : Fields) : Fields :=
  ((fields.get? "credentials").getD (.dict [])).entries

theorem validate_eq_ok_iff {value : Value} :
    validate environment value = .ok config ↔ ofValue environment value = .accepted config := by
  unfold validate
  cases ofValue environment value <;> simp

theorem eq_of_checkNetwork {checked : ProviderConfig}
    (passes : checkNetwork config = .accepted checked) : config = checked := by
  unfold checkNetwork at passes
  split at passes
  · cases passes
  · exact Checked.accepted.inj passes

theorem credentials_of_accepted (accepts : ofFields environment fields = .accepted config) :
    Credentials.ofFields environment (credentialsSection fields) = .accepted config.credentials := by
  obtain ⟨read, whole, checked⟩ := Checked.ensure_eq_accepted_iff.1 accepts
  obtain ⟨whole, _⟩ := (closed_eq_accepted_iff rfl).1 whole
  obtain ⟨make, credentials, made, credentialsRead, rfl⟩ := Checked.seq_eq_accepted_iff.1 whole
  have kept : (make credentials).credentials = credentials := by
    simp only [Checked.seq_eq_accepted_iff, Checked.map_eq_accepted_iff] at made
    obtain ⟨_, _, ⟨_, _, ⟨_, _, ⟨_, _, ⟨_, _, ⟨_, _, rfl⟩, _, rfl⟩, _, rfl⟩, _, rfl⟩, _, rfl⟩, _,
      rfl⟩ := made
    rfl
  have accepted := Checked.under_eq_accepted_iff.1 credentialsRead
  obtain ⟨entries, section?, entriesRead⟩ := record_eq_accepted_iff.1 accepted
  unfold credentialsSection
  rw [← eq_of_checkNetwork checked, kept, section?]
  exact entriesRead

/-- What matters of a credentials section is what it is read as. -/
theorem ofFields_insert_section {other : Value}
    (same : Credentials.ofValue environment other =
      Credentials.ofValue environment ((fields.get? "credentials").getD (.dict []))) :
    ofFields environment (fields.insert "credentials" other) = ofFields environment fields := by
  have read : credentialsOf environment (fields.insert "credentials" other) =
      credentialsOf environment fields := by
    unfold credentialsOf
    rw [Fields.get?_insert_self, Option.getD_some, same]
  unfold ofFields required Validation.optional
  rw [closed_insert (by decide) rfl, read, field_insert_of_ne (by decide), field_insert_of_ne (by decide),
    field_insert_of_ne (by decide), field_insert_of_ne (by decide), field_insert_of_ne (by decide),
    field_insert_of_ne (by decide)]

/-- A section that is left out counts as an empty one, whatever becomes of the configuration. -/
theorem ofFields_insert_credentials (absent : fields.get? "credentials" = none) :
    ofFields environment (fields.insert "credentials" (.dict [])) = ofFields environment fields :=
  ofFields_insert_section (by rw [absent, Option.getD_none])

/-- Every part of the credentials of an accepted configuration is the non-empty text that the
configuration gives, and else what the part's own variable holds; the environment changes no part
that is given, and only its own variable changes one that is not. There always is a subscription. The
provider signs in as a service principal, with just these parts, exactly when none of its three is
missing or empty. A configuration without a credentials section comes to the same as one in which
that section is empty. -/
theorem credentials_resolved (environment : Environment) (fields : Fields) :
    (∀ config, validate environment (.dict fields) = .ok config →
      let credentials := config.credentials
      let written := credentialsSection fields
      (∀ part : CredentialPart, part.of credentials =
        (part.given? written).or (environment.get? part.variableName)) ∧
      (∃ value, credentials.subscriptionId = some value ∧ value ≠ "") ∧
      (∀ tenantId clientId clientSecret,
        credentials.signIn = .servicePrincipal tenantId clientId clientSecret ↔
          (credentials.tenantId = some tenantId ∧ tenantId ≠ "") ∧
          (credentials.clientId = some clientId ∧ clientId ≠ "") ∧
          credentials.clientSecret = some clientSecret ∧ clientSecret ≠ "") ∧
      (credentials.signIn = .ambient ↔
        (credentials.tenantId = none ∨ credentials.tenantId = some "") ∨
        (credentials.clientId = none ∨ credentials.clientId = some "") ∨
        credentials.clientSecret = none ∨ credentials.clientSecret = some "") ∧
      ∀ other otherConfig (part : CredentialPart),
        validate other (.dict fields) = .ok otherConfig →
        (∃ value, part.given? written = some value) ∨
          other.get? part.variableName = environment.get? part.variableName →
        part.of otherConfig.credentials = part.of credentials) ∧
    (fields.get? "credentials" = none →
      validate environment (.dict (fields.insert "credentials" (.dict []))) =
        validate environment (.dict fields)) := by
  refine ⟨?accepted, ?without⟩
  case accepted =>
    intro config accepts
    have read := credentials_of_accepted (validate_eq_ok_iff.1 accepts)
    refine ⟨Credentials.part_of_accepted read, Credentials.subscription_of_accepted read, ?principal,
      ?ambient, ?elsewhere⟩
    case principal =>
      intro tenantId clientId clientSecret
      simp only [Credentials.signIn_eq_servicePrincipal_iff, Credentials.given?_eq_some_iff]
    case ambient => simp only [Credentials.signIn_eq_ambient_iff, Credentials.given?_eq_none_iff]
    case elsewhere =>
      intro other otherConfig part otherAccepts unaffected
      have otherRead := credentials_of_accepted (validate_eq_ok_iff.1 otherAccepts)
      rw [Credentials.part_of_accepted read, Credentials.part_of_accepted otherRead]
      rcases unaffected with ⟨value, given⟩ | same
      · rw [given, Option.some_or, Option.some_or]
      · rw [same]
  case without =>
    intro absent
    have same : ofValue environment (.dict (fields.insert "credentials" (.dict []))) =
        ofValue environment (.dict fields) := ofFields_insert_credentials absent
    unfold validate
    rw [same]

/-- A service principal of which the configuration gives two parts and the environment the third. -/
example : (validate [("AZURE_CLIENT_SECRET", "from outside"), ("AZURE_CLIENT_ID", "not used")]
    (.dict [("location", .text "westeurope"), ("credentials", .dict [
      ("subscription_id", .text "subscription"), ("tenant_id", .text "tenant"),
      ("client_id", .text "client"), ("client_secret", .text "")])])).map (·.credentials.signIn) =
    .ok (.servicePrincipal "tenant" "client" "from outside") :=
  rfl

end ProviderConfig

end RunnerCloud
