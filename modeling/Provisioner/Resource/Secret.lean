import Provisioner.Base64
import Provisioner.Metadata

/-!
# Secrets

A secret holds bytes under names, and texts that take precedence over bytes of the same name. It is
read as a dictionary of texts (`texts`) or one entry at a time (`bytes?`, `text?`).
-/

namespace Provisioner

open Text (Bytes)

structure Secret where
  metadata : Metadata := {}
  data : Option (Dict String Bytes) := none
  stringData : Option (Dict String String) := none
  type : Option String := none
  immutable : Option Bool := none
  deriving DecidableEq, Inhabited

namespace Secret

/-- A secret of texts. -/
def ofTexts (ns name : String) (data : Dict String String) (labels : Option (Dict String String)) :
    Secret :=
  { metadata := { name := some name, ns := some ns, labels := labels }
    stringData := some data }

/-- All entries as texts, those given as texts winning. -/
def texts (s : Secret) : Dict String String :=
  ((s.data.getD ∅).map Text.ofUtf8Lossy).overlay (s.stringData.getD ∅)

/-- The bytes of one entry, looked for among the texts first. -/
def bytes? (s : Secret) (name : String) : Option Bytes :=
  (s.stringData.bind fun d => (d.get? name).map Text.utf8) <|> s.data.bind fun d => d.get? name

/-- The text of one entry. -/
def text? (s : Secret) (name : String) : Option String := (s.bytes? name).map Text.ofUtf8Lossy

def toJson (s : Secret) : Json :=
  .ofObject "v1" "Secret" s.metadata
    [("data", s.data.map fun d => .ofTexts (d.map Base64.encodeText)),
     ("stringData", s.stringData.map .ofTexts),
     ("type", s.type.map .str),
     ("immutable", s.immutable.map .bool)]

/-- The bytes of an entry in base 64; null stands for none at all. -/
def entry? : Json → Option Bytes
  | .null => some []
  | .str s => (Base64.decodeText s).toOption
  | _ => none

def shape : Json.Shape :=
  .builtin [("data", .any), ("stringData", .any), ("type", .any), ("immutable", .any)]

def ofJson? (v : Json) : Option Secret := do
  let members ← v.builtinMembers? "v1" "Secret"
  return {
    metadata := ← Json.builtinMetadata? members
    data := ← Json.lastField members "data" (Json.dict? entry?)
    stringData := ← Json.lastField members "stringData" Json.texts?
    type := ← Json.lastField members "type" Json.text?
    immutable := ← Json.lastField members "immutable" Json.bool? }

end Secret

end Provisioner
