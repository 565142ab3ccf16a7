import Provisioner.Store.Basic

/-!
# Credentials

The credentials for a cloud are kept in a secret, as a document whose fields depend on the cloud.
Each cloud has its own names for the environment variables they are handed over in.
-/

namespace Provisioner

inductive Cloud
  | alibaba
  | aws
  | gcp
  | azure
  | custom
  | hashicups
  deriving DecidableEq, Repr

namespace Cloud

def all : List Cloud := [alibaba, aws, gcp, azure, custom, hashicups]

def name : Cloud → String
  | alibaba => "alibaba"
  | aws => "aws"
  | gcp => "gcp"
  | azure => "azure"
  | custom => "custom"
  | hashicups => "hashicups"

def ofName? (s : String) : Option Cloud := all.find? fun c => c.name = s

/-- The shape of the documents of a cloud: what a record of fields is called, its fields with the
variables they are handed over in, and the variable for the region. -/
structure Layout where
  record : String
  fields : List (Yaml.Field × String)
  region : Option String := none

/-- The layout of a cloud's documents; none where every entry is handed over as it is. -/
def layout? : Cloud → Option Layout
  | hashicups => some {
      record := "HashicupsCredentials"
      fields :=
        [(⟨"HashicupsUser", none⟩, "HASHICUPS_USERNAME"),
         (⟨"HashicupsPassword", none⟩, "HASHICUPS_PASSWORD"),
         (⟨"HashicupsHost", none⟩, "HASHICUPS_HOST")] }
  | alibaba => some {
      record := "AlibabaCredentials"
      fields :=
        [(⟨"accessKeyID", none⟩, "ALICLOUD_ACCESS_KEY"),
         (⟨"accessKeySecret", none⟩, "ALICLOUD_SECRET_KEY"),
         (⟨"securityToken", some ""⟩, "ALICLOUD_SECURITY_TOKEN")]
      region := some "ALICLOUD_REGION" }
  | aws => some {
      record := "AwsCredentials"
      fields :=
        [(⟨"awsAccessKeyID", none⟩, "AWS_ACCESS_KEY_ID"),
         (⟨"awsSecretAccessKey", none⟩, "AWS_SECRET_ACCESS_KEY"),
         (⟨"awsSessionToken", some ""⟩, "AWS_SESSION_TOKEN")]
      region := some "AWS_DEFAULT_REGION" }
  | gcp => some {
      record := "GcpCredentials"
      fields :=
        [(⟨"gcpCredentialsJSON", none⟩, "GOOGLE_CREDENTIALS"),
         (⟨"gcpProject", none⟩, "GOOGLE_PROJECT")]
      region := some "GOOGLE_REGION" }
  | azure => some {
      record := "AzureCredentials"
      fields :=
        [(⟨"armClientID", none⟩, "ARM_CLIENT_ID"),
         (⟨"armClientSecret", none⟩, "ARM_CLIENT_SECRET"),
         (⟨"armSubscriptionID", none⟩, "ARM_SUBSCRIPTION_ID"),
         (⟨"armTenantID", none⟩, "ARM_TENANT_ID")] }
  | custom => none

/-- The variables that a layout makes of a document. -/
def Layout.env (l : Layout) (document region : String) :
    Except Yaml.Fault (Dict String String) := do
  let values ← Yaml.record l.record (l.fields.map (·.1)) document
  let fields := (l.fields.map (·.2)).zip values
  return .ofList (fields ++ (l.region.map (·, region)).toList)

/-- The variables that hand over the credentials of a document. -/
def credentials (c : Cloud) (document region : String) :
    Except CredentialsFault (Dict String String) :=
  let env := match c.layout? with
    | some l => l.env document region
    | none => Yaml.dictionary document
  env.mapError .malformed

end Cloud

/-- How the credentials of a provider for a region are found in a store. -/
abbrev Resolver := Store → Provider → String → Except Error (Dict String String)

namespace Provider

/-- The document of credentials that a provider refers to. -/
def document (s : Store) (p : Provider) : Except Error String := do
  let credentials := p.spec.credentials
  if credentials.source ≠ .secret then
    throw (.credentials (.unsupportedSource credentials.source))
  match credentials.secretRef with
  | none => throw (.credentials .noReference)
  | some reference =>
    let ns := (reference.ns <|> p.metadata.ns).getD "default"
    match ← s.findNamed Secret ns reference.name with
    | none => throw (.credentials (.noSecret ns reference.name))
    | some secret =>
      match secret.text? reference.key with
      | some document => return document
      | none =>
        throw (.credentials (.noEntry p.metadata.anyName reference.key reference.name))

/-- The credentials that a provider refers to. -/
def resolve : Resolver := fun s p region => do
  let document ← p.document s
  match Cloud.ofName? p.spec.provider with
  | none => throw (.credentials (.unsupportedCloud p.spec.provider))
  | some cloud => (cloud.credentials document region).mapError .credentials

end Provider

end Provisioner
