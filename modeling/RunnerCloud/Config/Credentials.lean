import RunnerCloud.Validation.Record

/-!
Contract: the credentials with which the provider signs in to the cloud.

Owns:
- `Environment`, the environment variables a lookup sees, and the four variables that stand in for
  credentials the configuration leaves out;
- `Credentials`, with its reader `ofValue`, which fills gaps from the environment and asks for a
  subscription, and its dump `toValue`;
- `SignIn`, a service principal when all three of its parts are known, else what the machine offers.

Does not own: signing in.
-/

namespace RunnerCloud

open Validation

/-- Environment variables with their values. -/
abbrev Environment := List (Text × Text)

namespace Environment

def get? (environment : Environment) (variableName : Text) : Option Text :=
  environment.lookup variableName

end Environment

structure Credentials where
  subscriptionId : Option Text
  tenantId : Option Text
  clientId : Option Text
  clientSecret : Option Text
deriving DecidableEq, Repr

/-- How the provider signs in. -/
inductive SignIn where
  | servicePrincipal (tenantId clientId clientSecret : Text)
  | ambient
deriving DecidableEq, Repr

namespace Credentials

/-- The name by which reports call the model. -/
def modelName : Text := "Credentials"

def fieldNames : List Text :=
  ["subscription_id", "tenant_id", "client_id", "client_secret"]

/-- The value of a field, or of the environment variable that stands in for it. -/
def resolved (environment : Environment) (fields : Fields) (name variableName : Text) : Value :=
  match fields.get? name with
  | some value =>
    if value.isEmptyLike then .ofText? (environment.get? variableName) else value
  | none => .ofText? (environment.get? variableName)

/-- Why credentials without a subscription are refused. -/
def missingSubscription : Text :=
  "Azure subscription_id is required. Set it in the config file " ++
    "or via the AZURE_SUBSCRIPTION_ID environment variable."

def checkSubscription (credentials : Credentials) : Checked Credentials :=
  if (credentials.subscriptionId.getD "").isEmpty then .reject (.refused missingSubscription)
  else .accepted credentials

def ofFields (environment : Environment) (fields : Fields) : Checked Credentials :=
  let entry (name variableName : Text) : Checked (Option Text) :=
    (nullable text (resolved environment fields name variableName)).under (.key name)
  Checked.ensure
    (closed fieldNames fields <| Credentials.mk
      <$> entry "subscription_id" "AZURE_SUBSCRIPTION_ID"
      <*> entry "tenant_id" "AZURE_TENANT_ID"
      <*> entry "client_id" "AZURE_CLIENT_ID"
      <*> entry "client_secret" "AZURE_CLIENT_SECRET")
    checkSubscription

def ofValue (environment : Environment) : Value → Checked Credentials :=
  record modelName (ofFields environment)

def toValue (credentials : Credentials) : Value :=
  .dict [
    ("subscription_id", .ofText? credentials.subscriptionId),
    ("tenant_id", .ofText? credentials.tenantId),
    ("client_id", .ofText? credentials.clientId),
    ("client_secret", .ofText? credentials.clientSecret)]

/-- A non-empty text, if it is one. -/
def given? (part : Option Text) : Option Text :=
  part.filter (!·.isEmpty)

/-- The way to sign in that the credentials allow. -/
def signIn (credentials : Credentials) : SignIn :=
  match given? credentials.tenantId, given? credentials.clientId,
      given? credentials.clientSecret with
  | some tenantId, some clientId, some clientSecret =>
    .servicePrincipal tenantId clientId clientSecret
  | _, _, _ => .ambient

def hasServicePrincipal (credentials : Credentials) : Bool :=
  credentials.signIn != .ambient

end Credentials

end RunnerCloud
