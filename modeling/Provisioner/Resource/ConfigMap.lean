import Provisioner.Metadata

/-!
# Configuration maps

A configuration map holds texts under names.
-/

namespace Provisioner

structure ConfigMap where
  metadata : Metadata := {}
  data : Option (Dict String String) := none
  deriving DecidableEq, Inhabited

namespace ConfigMap

def toJson (c : ConfigMap) : Json :=
  .ofObject "v1" "ConfigMap" c.metadata [("data", c.data.map .ofTexts)]

def shape : Json.Shape := .builtin [("data", .any)]

def ofJson? (v : Json) : Option ConfigMap := do
  let members ← v.builtinMembers? "v1" "ConfigMap"
  return {
    metadata := ← Json.builtinMetadata? members
    data := ← Json.lastField members "data" Json.texts? }

end ConfigMap

end Provisioner
