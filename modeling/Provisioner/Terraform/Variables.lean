import Provisioner.Error
import Provisioner.Json.Writer

/-!
# Variables

How values are handed to Terraform: as texts, in environment variables whose names start with
`TF_VAR_`. Two values that differ only in the case of ASCII letters count as the same.
-/

namespace Provisioner.Terraform

/-- A value as text: texts as they are, everything else in compact form. Null has no text. -/
def valueText : Json → Except SpecFault String
  | .null => .error .nullValue
  | .str s => .ok s
  | v => .ok v.compact

def variableName (name : String) : String := "TF_VAR_" ++ name

/-- The text of one member of a document of variables. -/
def variableEntry (member : String × Json) : Except SpecFault (String × String) :=
  match valueText member.2 with
  | .ok text => .ok (variableName member.1, text)
  | .error e => .error (.inVariable member.1 e)

/-- The environment that a document of variables makes; no document and null make none. -/
def variableEnv : Option Json → Except SpecFault (Dict String String)
  | none | some .null => .ok ∅
  | some (.obj members) => (members.mapM variableEntry).map Dict.ofList
  | some _ => .error .variablesNotObject

/-- A text with its ASCII letters in lower case. -/
def foldCase (s : String) : String := String.ofList (s.toList.map Char.toLower)

/-- Whether two sets of variables differ in more than the case of their values. -/
def variablesDiffer (stored desired : Dict String String) : Bool :=
  stored.size ≠ desired.size ||
    desired.entries.any fun e => !(stored.get? e.1).any fun s => foldCase s = foldCase e.2

end Provisioner.Terraform
