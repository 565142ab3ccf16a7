import Provisioner.Metadata
import Provisioner.Resource.Reference

/-!
# Providers

A provider names a cloud, a region, and where the credentials for the cloud are kept. Its status
says whether those credentials could be used.
-/

namespace Provisioner

namespace Provider

/-- Where credentials are kept. -/
inductive Source
  | secret
  | none
  | injectedIdentity
  | environment
  | filesystem
  deriving DecidableEq, Repr, Inhabited

def Source.all : List Source := [secret, none, injectedIdentity, environment, filesystem]

def Source.name : Source → String
  | secret => "Secret"
  | none => "None"
  | injectedIdentity => "InjectedIdentity"
  | environment => "Environment"
  | filesystem => "Filesystem"

def Source.ofName? (s : String) : Option Source := all.find? fun x => x.name = s

inductive State
  | ready
  | notReady
  deriving DecidableEq, Repr

def State.all : List State := [ready, notReady]

def State.name : State → String
  | ready => "ready"
  | notReady => "ProviderNotReady"

def State.ofName? (s : String) : Option State := all.find? fun x => x.name = s

structure Credentials where
  source : Source
  secretRef : Option SecretKeyReference := .none
  deriving DecidableEq, Inhabited

structure Spec where
  provider : String
  region : Option String := .none
  credentials : Credentials
  deriving DecidableEq, Inhabited

structure Status where
  state : Option State := .none
  message : String := ""
  deriving DecidableEq, Inhabited

end Provider

structure Provider where
  metadata : Metadata := {}
  spec : Provider.Spec
  status : Option Provider.Status := none
  deriving DecidableEq, Inhabited

/-- The version under which the library's own kinds of object are written. -/
def resourceVersion : String := "terraform.core.oam.dev/v1beta1"

/-- A message that is left out when it is empty. -/
def Json.ofMessage (message : String) : Option Json :=
  if message = "" then none else some (.str message)

namespace Provider

def isReady (p : Provider) : Bool := p.status.any fun s => s.state = some .ready

def isNotReady (p : Provider) : Bool := p.status.any fun s => s.state = some .notReady

def statusMessage (p : Provider) : String := (p.status.map (·.message)).getD ""

namespace Credentials

def toJson (c : Credentials) : Json :=
  .ofPresent
    [("source", some (.str c.source.name)),
     ("secretRef", c.secretRef.map SecretKeyReference.toJson)]

def shape : Json.Shape := .record [("source", .any), ("secretRef", SecretKeyReference.shape)]

def ofJson? (v : Json) : Option Credentials := do
  match ← v.strictFields shape.names with
  | [source, secretRef] =>
    return ⟨← Json.required (Json.named? Source.ofName?) source,
      ← Json.optional SecretKeyReference.ofJson? secretRef⟩
  | _ => failure

end Credentials

namespace Spec

def toJson (s : Spec) : Json :=
  .ofPresent
    [("provider", some (.str s.provider)),
     ("region", s.region.map .str),
     ("credentials", some s.credentials.toJson)]

def shape : Json.Shape :=
  .record [("provider", .any), ("region", .any), ("credentials", Credentials.shape)]

def ofJson? (v : Json) : Option Spec := do
  match ← v.strictFields shape.names with
  | [provider, region, credentials] =>
    return ⟨← Json.required Json.text? provider, ← Json.optional Json.text? region,
      ← Json.required Credentials.ofJson? credentials⟩
  | _ => failure

end Spec

namespace Status

def toJson (s : Status) : Json :=
  .ofPresent [("state", s.state.map fun x => .str x.name), ("message", Json.ofMessage s.message)]

def shape : Json.Shape := .fields ["state", "message"]

def ofJson? (v : Json) : Option Status := do
  match ← v.strictFields shape.names with
  | [state, message] =>
    return ⟨← Json.optional (Json.named? State.ofName?) state,
      ← Json.defaulted Json.text? "" message⟩
  | _ => failure

end Status

def toJson (p : Provider) : Json :=
  .ofObject resourceVersion "Provider" p.metadata
    [("spec", some p.spec.toJson), ("status", p.status.map Status.toJson)]

def shape : Json.Shape :=
  .record [("metadata", Metadata.shape), ("spec", Spec.shape), ("status", Status.shape)]

def ofJson? (v : Json) : Option Provider := do
  match ← Json.strictFields shape.names v 3 with
  | [metadata, spec, status] =>
    return ⟨← Json.required Metadata.ofJson? metadata, ← Json.required Spec.ofJson? spec,
      ← Json.optional Status.ofJson? status⟩
  | _ => failure

end Provider

end Provisioner
