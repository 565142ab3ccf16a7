import Provisioner.Metadata
import Provisioner.Resource.Access

/-!
# Pods

The template of what a job runs: containers with their commands, environment, mounts and compute
resources, and the volumes that the mounts name.
-/

namespace Provisioner

/-- The entry of a secret that a variable takes its value from. -/
structure SecretEntry where
  name : String := ""
  key : String := ""
  deriving DecidableEq, Inhabited

/-- An environment variable: with a value of its own, or one taken from a secret. -/
structure EnvVar where
  name : String := ""
  value : Option String := none
  valueFrom : Option (Option SecretEntry) := none
  deriving DecidableEq, Inhabited

structure VolumeMount where
  name : String := ""
  mountPath : String := ""
  deriving DecidableEq, Inhabited

/-- The greatest and the usual amounts of compute resources. -/
structure Resources where
  limits : Option (Dict String String) := none
  requests : Option (Dict String String) := none
  deriving DecidableEq, Inhabited

structure Container where
  name : String := ""
  image : Option String := none
  imagePullPolicy : Option String := none
  command : Option (List String) := none
  workingDir : Option String := none
  volumeMounts : Option (List VolumeMount) := none
  env : Option (List EnvVar) := none
  resources : Option Resources := none
  deriving DecidableEq, Inhabited

/-- A directory that pods mount: empty at first, or the files of a configuration map. -/
structure Volume where
  name : String := ""
  emptyDir : Bool := false
  configMap : Option String := none
  deriving DecidableEq, Inhabited

structure PodSpec where
  initContainers : Option (List Container) := none
  containers : List Container := []
  restartPolicy : Option String := none
  serviceAccountName : Option String := none
  volumes : Option (List Volume) := none
  deriving DecidableEq, Inhabited

structure PodTemplate where
  metadata : Option Metadata := none
  spec : Option PodSpec := none
  deriving DecidableEq, Inhabited

/-- The array of a list of values. -/
def Json.ofList {α : Type} (item : α → Json) (l : List α) : Json := .arr (l.map item)

/-- A text field of a lenient record that reads as empty if it is not given. -/
def Json.lastText (members : List (String × Json)) (name : String) : Option String :=
  (Json.lastField members name Json.text?).map (·.getD "")

namespace SecretEntry

def toJson (e : SecretEntry) : Json := .ofMembers [("name", .str e.name), ("key", .str e.key)]

def shape : Json.Shape := .fields ["name", "key"]

def ofJson? (v : Json) : Option SecretEntry := do
  let members ← v.object?
  return { name := ← Json.lastText members "name", key := ← Json.lastText members "key" }

end SecretEntry

namespace EnvVar

def toJson (e : EnvVar) : Json :=
  .ofPresent
    [("name", some (.str e.name)),
     ("value", e.value.map .str),
     ("valueFrom", e.valueFrom.map fun source =>
       .ofPresent [("secretKeyRef", source.map SecretEntry.toJson)])]

def shape : Json.Shape :=
  .record
    [("name", .any),
     ("value", .any),
     ("valueFrom", .record [("secretKeyRef", SecretEntry.shape)])]

def ofJson? (v : Json) : Option EnvVar := do
  let members ← v.object?
  let source (v : Json) : Option (Option SecretEntry) := do
    Json.lastField (← v.object?) "secretKeyRef" SecretEntry.ofJson?
  return {
    name := ← Json.lastText members "name"
    value := ← Json.lastField members "value" Json.text?
    valueFrom := ← Json.lastField members "valueFrom" source }

end EnvVar

namespace VolumeMount

def toJson (m : VolumeMount) : Json :=
  .ofMembers [("name", .str m.name), ("mountPath", .str m.mountPath)]

def shape : Json.Shape := .fields ["name", "mountPath"]

def ofJson? (v : Json) : Option VolumeMount := do
  let members ← v.object?
  return { name := ← Json.lastText members "name", mountPath := ← Json.lastText members "mountPath" }

end VolumeMount

namespace Resources

def toJson (r : Resources) : Json :=
  .ofPresent [("limits", r.limits.map .ofTexts), ("requests", r.requests.map .ofTexts)]

def shape : Json.Shape := .fields ["limits", "requests"]

def ofJson? (v : Json) : Option Resources := do
  let members ← v.object?
  return {
    limits := ← Json.lastField members "limits" Json.texts?
    requests := ← Json.lastField members "requests" Json.texts? }

end Resources

namespace Container

def toJson (c : Container) : Json :=
  .ofPresent
    [("name", some (.str c.name)),
     ("image", c.image.map .str),
     ("imagePullPolicy", c.imagePullPolicy.map .str),
     ("command", c.command.map .ofTextList),
     ("workingDir", c.workingDir.map .str),
     ("volumeMounts", c.volumeMounts.map (.ofList VolumeMount.toJson)),
     ("env", c.env.map (.ofList EnvVar.toJson)),
     ("resources", c.resources.map Resources.toJson)]

def shape : Json.Shape :=
  .record
    [("name", .any),
     ("image", .any),
     ("imagePullPolicy", .any),
     ("command", .any),
     ("workingDir", .any),
     ("volumeMounts", .list VolumeMount.shape),
     ("env", .list EnvVar.shape),
     ("resources", Resources.shape)]

def ofJson? (v : Json) : Option Container := do
  let members ← v.object?
  return {
    name := ← Json.lastText members "name"
    image := ← Json.lastField members "image" Json.text?
    imagePullPolicy := ← Json.lastField members "imagePullPolicy" Json.text?
    command := ← Json.lastField members "command" (Json.list? Json.text?)
    workingDir := ← Json.lastField members "workingDir" Json.text?
    volumeMounts := ← Json.lastField members "volumeMounts" (Json.list? VolumeMount.ofJson?)
    env := ← Json.lastField members "env" (Json.list? EnvVar.ofJson?)
    resources := ← Json.lastField members "resources" Resources.ofJson? }

end Container

namespace Volume

def toJson (v : Volume) : Json :=
  .ofPresent
    [("name", some (.str v.name)),
     ("emptyDir", if v.emptyDir then some (.obj []) else none),
     ("configMap", v.configMap.map fun name => .ofMembers [("name", .str name)])]

def shape : Json.Shape :=
  .record [("name", .any), ("emptyDir", .fields []), ("configMap", .fields ["name"])]

def ofJson? (v : Json) : Option Volume := do
  let members ← v.object?
  let mapName (v : Json) : Option String := do Json.lastText (← v.object?) "name"
  return {
    name := ← Json.lastText members "name"
    emptyDir := (← Json.lastField members "emptyDir" Json.object?).isSome
    configMap := ← Json.lastField members "configMap" mapName }

end Volume

namespace PodSpec

def toJson (s : PodSpec) : Json :=
  .ofPresent
    [("initContainers", s.initContainers.map (.ofList Container.toJson)),
     ("containers", some (.ofList Container.toJson s.containers)),
     ("restartPolicy", s.restartPolicy.map .str),
     ("serviceAccountName", s.serviceAccountName.map .str),
     ("volumes", s.volumes.map (.ofList Volume.toJson))]

def shape : Json.Shape :=
  .record
    [("initContainers", .list Container.shape),
     ("containers", .list Container.shape),
     ("restartPolicy", .any),
     ("serviceAccountName", .any),
     ("volumes", .list Volume.shape)]

def ofJson? (v : Json) : Option PodSpec := do
  let members ← v.object?
  return {
    initContainers := ← Json.lastField members "initContainers" (Json.list? Container.ofJson?)
    containers := (← Json.lastField members "containers" (Json.list? Container.ofJson?)).getD []
    restartPolicy := ← Json.lastField members "restartPolicy" Json.text?
    serviceAccountName := ← Json.lastField members "serviceAccountName" Json.text?
    volumes := ← Json.lastField members "volumes" (Json.list? Volume.ofJson?) }

end PodSpec

namespace PodTemplate

def toJson (t : PodTemplate) : Json :=
  .ofPresent [("metadata", t.metadata.map Metadata.toJson), ("spec", t.spec.map PodSpec.toJson)]

def shape : Json.Shape := .record [("metadata", Metadata.shape), ("spec", PodSpec.shape)]

def ofJson? (v : Json) : Option PodTemplate := do
  let members ← v.object?
  return {
    metadata := ← Json.lastField members "metadata" Metadata.ofJson?
    spec := ← Json.lastField members "spec" PodSpec.ofJson? }

end PodTemplate

end Provisioner
