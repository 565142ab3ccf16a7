import Provisioner.Json.Decode
import Provisioner.Json.Shape

/-!
# References

References from one object to another, or to an entry of a secret.
-/

namespace Provisioner

/-- A reference by name, in a namespace that may be left open. -/
structure Reference where
  name : String
  ns : Option String := none
  deriving DecidableEq, Inhabited

/-- A reference to one entry of a secret. -/
structure SecretKeyReference where
  name : String
  ns : Option String := none
  key : String
  deriving DecidableEq, Inhabited

namespace Reference

/-- The namespace that is referred to; `default` if it is left open or empty. -/
def nsOrDefault (r : Reference) : String := (r.ns.filter (· ≠ "")).getD "default"

def toJson (r : Reference) : Json :=
  .ofPresent [("name", some (.str r.name)), ("namespace", r.ns.map .str)]

def shape : Json.Shape := .fields ["name", "namespace"]

def ofJson? (v : Json) : Option Reference := do
  match ← v.strictFields shape.names with
  | [name, ns] => return ⟨← Json.required Json.text? name, ← Json.optional Json.text? ns⟩
  | _ => failure

end Reference

namespace SecretKeyReference

def toJson (r : SecretKeyReference) : Json :=
  .ofPresent [("name", some (.str r.name)), ("namespace", r.ns.map .str), ("key", some (.str r.key))]

def shape : Json.Shape := .fields ["name", "namespace", "key"]

def ofJson? (v : Json) : Option SecretKeyReference := do
  match ← v.strictFields shape.names with
  | [name, ns, key] =>
    return ⟨← Json.required Json.text? name, ← Json.optional Json.text? ns,
      ← Json.required Json.text? key⟩
  | _ => failure

end SecretKeyReference

end Provisioner
