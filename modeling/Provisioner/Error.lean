import Provisioner.Gzip.Member
import Provisioner.Json.Reader
import Provisioner.Object
import Provisioner.Url.Basic
import Provisioner.Yaml.Entries

/-!
# Errors

Every way in which an operation on the store or a pass over an object can fail, by its cause. The
wording of all of them is `Error.message`.
-/

namespace Provisioner

/-- What is wrong with the specification of a configuration. -/
inductive SpecFault
  | noSource
  | severalSources
  | terraformBlock
  | sourceNotObject
  | malformedSource (e : Json.ReadError)
  | malformedUrl (text : String) (e : Url.Fault)
  | nullValue
  | variablesNotObject
  | inVariable (name : String) (e : SpecFault)
  deriving DecidableEq

def SpecFault.message : SpecFault → String
  | .noSource => "Configuration is invalid: spec.hcl, spec.json or spec.remote should be set"
  | .severalSources =>
    "Configuration is invalid: only one of spec.hcl, spec.json or spec.remote can be set"
  | .terraformBlock =>
    "Configuration is invalid: spec.json terraform block must be an object or a list of objects"
  | .sourceNotObject => "Configuration is invalid: spec.json must be a JSON object"
  | .malformedSource e => "Configuration is invalid: spec.json is not valid JSON: " ++ e.message
  | .malformedUrl text e =>
    "Configuration is invalid: spec.remote " ++ Text.quoted text ++ " is not a valid URL: " ++
      e.message
  | .nullValue => "Configuration is invalid: null values can't be passed to Terraform"
  | .variablesNotObject => "Configuration is invalid: variable must be a JSON object"
  | .inVariable name e => "Configuration is invalid: variable " ++ name ++ ": " ++ e.message

/-- Why a provider cannot be used. -/
inductive ProviderFault
  | notFound (ns name : String)
  | notReady (message : String)
  deriving DecidableEq

def ProviderFault.message : ProviderFault → String
  | .notFound ns name => "provider not found " ++ ns ++ "/" ++ name
  | .notReady message => message

/-- Why there are no credentials. -/
inductive CredentialsFault
  | unsupportedCloud (name : String)
  | unsupportedSource (source : Provider.Source)
  | noReference
  | noSecret (ns name : String)
  | noEntry (provider entry secret : String)
  | malformed (e : Yaml.Fault)
  deriving DecidableEq

def CredentialsFault.message : CredentialsFault → String
  | .unsupportedCloud name => "unsupported provider " ++ Text.quoted name
  | .unsupportedSource source => "the credentials type " ++ source.name ++ " is not supported"
  | .noReference => "provider has no secretRef"
  | .noSecret ns name => "failed to get the Secret " ++ ns ++ "/" ++ name ++ " from Provider"
  | .noEntry provider entry secret =>
    "in the provider " ++ provider ++ ", the key " ++ entry ++
      " not found in the referenced secret " ++ secret
  | .malformed e => "failed to convert the credentials of Secret from Provider: " ++ e.message

/-- Why the stored state cannot be used. -/
inductive StateFault
  | notGenerated
  | noEntry (secret : String)
  | notEncoded (e : Base64.Fault)
  | notCompressed (e : Gzip.Fault)
  | output (name : String) (e : SpecFault)
  deriving DecidableEq

def StateFault.message : StateFault → String
  | .notGenerated => "terraform state file backend secret is not generated"
  | .noEntry secret => "failed to get tfstate from Terraform State secret " ++ secret
  | .notEncoded e => "state is neither gzip nor base64: " ++ e.message
  | .notCompressed e => "failed to decompress state secret data: " ++ e.message
  | .output name e =>
    "failed to convert value of terraform state output " ++ name ++ " to string: " ++ e.message

inductive Error
  /-- An object without a name has no key. -/
  | noName (kind : Kind)
  /-- The object under a key was asked for as one of another kind. -/
  | kindMismatch (key : ObjectKey) (expected : Kind)
  | invalid (e : SpecFault)
  | provider (e : ProviderFault)
  | credentials (e : CredentialsFault)
  | state (e : StateFault)
  /-- The secret for the outputs of `configuration` belongs to `owner`. -/
  | secretConflict (configuration secret owner : Request)
  | json (e : Json.ReadError)
  | applyPending
  | destroyPending
  deriving DecidableEq

def Error.message : Error → String
  | .noName kind => "couldn't create key for " ++ kind.name ++ " object: object has no name"
  | .kindMismatch key expected =>
    "object " ++ key.text ++ " is stored as " ++ key.kind.name ++ ", not " ++ expected.name
  | .invalid e => e.message
  | .provider e => "Provider error: " ++ e.message
  | .credentials e => "Credentials are not retrieved from referenced Provider: " ++ e.message
  | .state e => "Terraform state error: " ++ e.message
  | .secretConflict configuration secret owner =>
    "configuration " ++ configuration.text ++ " cannot update secret " ++ secret.text ++
      " owned by configuration " ++ owner.text
  | .json e => "JSON error: " ++ e.message
  | .applyPending => "configuration apply isn't completed"
  | .destroyPending => "configuration deletion isn't completed"

/-- Whether the error only says that a job is still running. -/
def Error.isPending : Error → Bool
  | .applyPending | .destroyPending => true
  | _ => false

end Provisioner
