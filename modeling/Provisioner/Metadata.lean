import Provisioner.Json.Decode
import Provisioner.Json.Shape
import Provisioner.Timestamp

/-!
# Metadata of objects

What every object carries besides its own content: its name and namespace, labels, the finalizers
that hold it back from removal, the generation of its specification, and when it was created and
asked to be deleted. An absent field is not the same as an empty one.
-/

namespace Provisioner

structure Metadata where
  name : Option String := none
  ns : Option String := none
  generateName : Option String := none
  labels : Option (Dict String String) := none
  annotations : Option (Dict String String) := none
  finalizers : Option (List String) := none
  generation : Option Int := none
  creationTimestamp : Option Timestamp := none
  deletionTimestamp : Option Timestamp := none
  deriving DecidableEq, Inhabited

/-- Whether an object may be worked on or is only waiting to go. -/
inductive Lifecycle
  | active
  | terminating
  deriving DecidableEq, Repr

def Lifecycle.name : Lifecycle → String
  | .active => "Active"
  | .terminating => "Terminating"

namespace Metadata

def lifecycle (m : Metadata) : Lifecycle :=
  if m.deletionTimestamp.isSome then .terminating else .active

def finalizerList (m : Metadata) : List String := m.finalizers.getD []

def hasFinalizers (m : Metadata) : Bool := !m.finalizerList.isEmpty

/-- The name, or else what a name is generated from. -/
def anyName (m : Metadata) : String := (m.name <|> m.generateName).getD ""

def toJson (m : Metadata) : Json :=
  let texts (l : List String) : Json := .arr (l.map .str)
  .ofPresent
    [("name", m.name.map .str),
     ("namespace", m.ns.map .str),
     ("generateName", m.generateName.map .str),
     ("labels", m.labels.map .ofTexts),
     ("annotations", m.annotations.map .ofTexts),
     ("finalizers", m.finalizers.map texts),
     ("generation", m.generation.map .int),
     ("creationTimestamp", m.creationTimestamp.map fun t => .str t.text),
     ("deletionTimestamp", m.deletionTimestamp.map fun t => .str t.text)]

def shape : Json.Shape :=
  .fields
    ["name", "namespace", "generateName", "labels", "annotations", "finalizers", "generation",
      "creationTimestamp", "deletionTimestamp"]

def ofJson? (v : Json) : Option Metadata := do
  let members ← v.object?
  let time (v : Json) : Option Timestamp := v.text?.bind Timestamp.parse?
  return {
    name := ← Json.lastField members "name" Json.text?
    ns := ← Json.lastField members "namespace" Json.text?
    generateName := ← Json.lastField members "generateName" Json.text?
    labels := ← Json.lastField members "labels" Json.texts?
    annotations := ← Json.lastField members "annotations" Json.texts?
    finalizers := ← Json.lastField members "finalizers" (Json.list? Json.text?)
    generation := ← Json.lastField members "generation" (Json.signed? 64)
    creationTimestamp := ← Json.lastField members "creationTimestamp" time
    deletionTimestamp := ← Json.lastField members "deletionTimestamp" time }

end Metadata

/-- The shape of an object of a built-in kind that has some more fields. -/
def Json.Shape.builtin (fields : List (String × Json.Shape)) : Json.Shape :=
  .record ([("apiVersion", .any), ("kind", .any), ("metadata", Metadata.shape)] ++ fields)

/-- The members of an object of a built-in kind: its version and kind, if given, must be those
of the kind. -/
def Json.builtinMembers? (apiVersion kind : String) (v : Json) : Option (List (String × Json)) := do
  let members ← v.object?
  let agrees (name expected : String) : Bool :=
    members.all fun m => m.1 ≠ name || m.2.text? == some expected
  if agrees "apiVersion" apiVersion && agrees "kind" kind then return members else failure

/-- The metadata of an object of a built-in kind, empty if it is absent or null. -/
def Json.builtinMetadata? (members : List (String × Json)) : Option Metadata :=
  (Json.lastField members "metadata" Metadata.ofJson?).map fun m => m.getD {}

/-- The written form of an object: its version, kind and metadata, and its own members. -/
def Json.ofObject (apiVersion kind : String) (metadata : Metadata)
    (members : List (String × Option Json)) : Json :=
  .ofPresent (("apiVersion", some (.str apiVersion)) :: ("kind", some (.str kind)) ::
    ("metadata", some metadata.toJson) :: members)

end Provisioner
