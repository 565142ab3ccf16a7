import Provisioner.Metadata
import Provisioner.Resource.Provider

/-!
# Configurations

A configuration says what to provision: a source, variables for it, the provider to use, and the
secret that receives the outputs. Its status tells apart how applying and how destroying went.
-/

namespace Provisioner

namespace Configuration

/-- Which kind of source a configuration has. -/
inductive SourceType
  | hcl
  | json
  | remote
  deriving DecidableEq, Repr

def SourceType.name : SourceType → String
  | hcl => "Hcl"
  | json => "Json"
  | remote => "Remote"

inductive State
  | authorizing
  | providerNotReady
  | staticCheckFailed
  | available
  | provisioningAndChecking
  | destroying
  | destroyFailed
  | destroyed
  | reloading
  | generatingOutputs
  | invalidRegion
  | initError
  | applyFailed
  deriving DecidableEq, Repr

namespace State

def all : List State :=
  [authorizing, providerNotReady, staticCheckFailed, available, provisioningAndChecking, destroying,
    destroyFailed, destroyed, reloading, generatingOutputs, invalidRegion, initError, applyFailed]

def name : State → String
  | authorizing => "Authorizing"
  | providerNotReady => "ProviderNotReady"
  | staticCheckFailed => "ConfigurationSpecNotValid"
  | available => "Available"
  | provisioningAndChecking => "ProvisioningAndChecking"
  | destroying => "Destroying"
  | destroyFailed => "DestroyFailed"
  | destroyed => "Destroyed"
  | reloading => "ConfigurationReloading"
  | generatingOutputs => "GeneratingTerraformOutputs"
  | invalidRegion => "InvalidRegion"
  | initError => "TerraformInitError"
  | applyFailed => "ApplyFailed"

def ofName? (s : String) : Option State := all.find? fun x => x.name = s

end State

structure Spec where
  hcl : Option String := none
  json : Option String := none
  remote : Option String := none
  path : Option String := none
  values : Option Json := none
  writeConnectionSecretToRef : Option Reference := none
  providerRef : Option Reference := none
  deleteResource : Bool := true
  customRegion : Option String := none
  deriving Inhabited

structure ApplyStatus where
  state : Option State := none
  message : String := ""
  outputs : Dict String String := ∅
  deriving DecidableEq, Inhabited

structure DestroyStatus where
  state : Option State := none
  message : String := ""
  deriving DecidableEq, Inhabited

structure Status where
  observedGeneration : Int := 0
  apply : ApplyStatus := {}
  destroy : DestroyStatus := {}
  deriving DecidableEq, Inhabited

end Configuration

structure Configuration where
  metadata : Metadata := {}
  spec : Configuration.Spec
  status : Option Configuration.Status := none
  deriving Inhabited

namespace Configuration

/-- Namespace and name of the provider, `default` where they are left open. -/
def providerReference (c : Configuration) : String × String :=
  match c.spec.providerRef with
  | some r => (r.nsOrDefault, r.name)
  | none => ("default", "default")

/-- Namespace and name of the secret that receives the outputs, if one is asked for. -/
def connectionSecret? (c : Configuration) : Option (String × String) :=
  (c.spec.writeConnectionSecretToRef.filter (·.name ≠ "")).map fun r => (r.nsOrDefault, r.name)

def applyState (c : Configuration) : Option State := c.status.bind (·.apply.state)

def destroyState (c : Configuration) : Option State := c.status.bind (·.destroy.state)

def statusOrDefault (c : Configuration) : Status := c.status.getD {}

def nsOrDefault (c : Configuration) : String := c.metadata.ns.getD "default"

namespace Spec

def toJson (s : Spec) : Json :=
  .ofPresent
    [("hcl", s.hcl.map .str),
     ("json", s.json.map .str),
     ("remote", s.remote.map .str),
     ("path", s.path.map .str),
     ("variable", s.values),
     ("writeConnectionSecretToRef", s.writeConnectionSecretToRef.map Reference.toJson),
     ("providerRef", s.providerRef.map Reference.toJson),
     ("deleteResource", some (.bool s.deleteResource)),
     ("customRegion", s.customRegion.map .str)]

def shape : Json.Shape :=
  .record
    [("hcl", .any),
     ("json", .any),
     ("remote", .any),
     ("path", .any),
     ("variable", .any),
     ("writeConnectionSecretToRef", Reference.shape),
     ("providerRef", Reference.shape),
     ("deleteResource", .any),
     ("customRegion", .any)]

def ofJson? (v : Json) : Option Spec := do
  match ← v.strictFields shape.names with
  | [hcl, json, remote, path, values, connection, provider, delete, region] =>
    return {
      hcl := ← Json.optional Json.text? hcl
      json := ← Json.optional Json.text? json
      remote := ← Json.optional Json.text? remote
      path := ← Json.optional Json.text? path
      values := ← Json.optional Json.any? values
      writeConnectionSecretToRef := ← Json.optional Reference.ofJson? connection
      providerRef := ← Json.optional Reference.ofJson? provider
      deleteResource := ← Json.defaulted Json.bool? true delete
      customRegion := ← Json.optional Json.text? region }
  | _ => failure

end Spec

/-- An output as an object of its value. -/
def outputJson (value : String) : Json := .ofMembers [("value", .str value)]

def outputShape : Json.Shape := .fields ["value"]

/-- The value of an output. -/
def output? (v : Json) : Option String := do
  match ← v.strictFields outputShape.names with
  | [value] => Json.required Json.text? value
  | _ => failure

namespace ApplyStatus

def toJson (s : ApplyStatus) : Json :=
  .ofPresent
    [("state", s.state.map fun x => .str x.name),
     ("message", Json.ofMessage s.message),
     ("outputs", if s.outputs.isEmpty then none else some (.obj (s.outputs.map outputJson).entries))]

def shape : Json.Shape :=
  .record [("state", .any), ("message", .any), ("outputs", .dict outputShape)]

def ofJson? (v : Json) : Option ApplyStatus := do
  match ← v.strictFields shape.names with
  | [state, message, outputs] =>
    return ⟨← Json.optional (Json.named? State.ofName?) state,
      ← Json.defaulted Json.text? "" message,
      ← Json.defaulted (Json.dict? output?) ∅ outputs⟩
  | _ => failure

end ApplyStatus

namespace DestroyStatus

def toJson (s : DestroyStatus) : Json :=
  .ofPresent [("state", s.state.map fun x => .str x.name), ("message", Json.ofMessage s.message)]

def shape : Json.Shape := .fields ["state", "message"]

def ofJson? (v : Json) : Option DestroyStatus := do
  match ← v.strictFields shape.names with
  | [state, message] =>
    return ⟨← Json.optional (Json.named? State.ofName?) state,
      ← Json.defaulted Json.text? "" message⟩
  | _ => failure

end DestroyStatus

namespace Status

def toJson (s : Status) : Json :=
  .ofMembers
    [("observedGeneration", .int s.observedGeneration),
     ("apply", s.apply.toJson),
     ("destroy", s.destroy.toJson)]

def shape : Json.Shape :=
  .record
    [("observedGeneration", .any),
     ("apply", ApplyStatus.shape),
     ("destroy", DestroyStatus.shape)]

def ofJson? (v : Json) : Option Status := do
  match ← v.strictFields shape.names with
  | [generation, apply, destroy] =>
    return ⟨← Json.defaulted (Json.signed? 64) 0 generation,
      ← Json.defaulted ApplyStatus.ofJson? {} apply,
      ← Json.defaulted DestroyStatus.ofJson? {} destroy⟩
  | _ => failure

end Status

def toJson (c : Configuration) : Json :=
  .ofObject resourceVersion "Configuration" c.metadata
    [("spec", some c.spec.toJson), ("status", c.status.map Status.toJson)]

def shape : Json.Shape :=
  .record [("metadata", Metadata.shape), ("spec", Spec.shape), ("status", Status.shape)]

def ofJson? (v : Json) : Option Configuration := do
  match ← Json.strictFields shape.names v 3 with
  | [metadata, spec, status] =>
    return ⟨← Json.required Metadata.ofJson? metadata, ← Json.required Spec.ofJson? spec,
      ← Json.optional Status.ofJson? status⟩
  | _ => failure

end Configuration

end Provisioner
