import Provisioner.Metadata

/-!
# Access objects

Service accounts, the rules of cluster roles, and the bindings that give a role to accounts. A field
that these objects must have and that is not given reads as empty, and is written.
-/

namespace Provisioner

structure ServiceAccount where
  metadata : Metadata := {}
  deriving DecidableEq, Inhabited

/-- What may be done to which resources. -/
structure PolicyRule where
  apiGroups : Option (List String) := none
  nonResourceURLs : Option (List String) := none
  resourceNames : Option (List String) := none
  resources : Option (List String) := none
  verbs : List String := []
  deriving DecidableEq, Inhabited

structure ClusterRole where
  metadata : Metadata := {}
  rules : Option (List PolicyRule) := none
  deriving DecidableEq, Inhabited

/-- The role that a binding gives. -/
structure RoleRef where
  apiGroup : String := ""
  kind : String := ""
  name : String := ""
  deriving DecidableEq, Inhabited

/-- Who a binding gives its role to. -/
structure Subject where
  apiGroup : Option String := none
  kind : String := ""
  name : String := ""
  ns : Option String := none
  deriving DecidableEq, Inhabited

structure ClusterRoleBinding where
  metadata : Metadata := {}
  roleRef : RoleRef := {}
  subjects : Option (List Subject) := none
  deriving DecidableEq, Inhabited

/-- The version under which roles and bindings are written. -/
def accessVersion : String := "rbac.authorization.k8s.io/v1"

namespace ServiceAccount

def toJson (a : ServiceAccount) : Json := .ofObject "v1" "ServiceAccount" a.metadata []

def shape : Json.Shape := .builtin []

def ofJson? (v : Json) : Option ServiceAccount := do
  let members ← v.builtinMembers? "v1" "ServiceAccount"
  return { metadata := ← Json.builtinMetadata? members }

end ServiceAccount

/-- A list of texts as an array. -/
def Json.ofTextList (l : List String) : Json := .arr (l.map .str)

namespace PolicyRule

def toJson (r : PolicyRule) : Json :=
  .ofPresent
    [("apiGroups", r.apiGroups.map .ofTextList),
     ("nonResourceURLs", r.nonResourceURLs.map .ofTextList),
     ("resourceNames", r.resourceNames.map .ofTextList),
     ("resources", r.resources.map .ofTextList),
     ("verbs", some (.ofTextList r.verbs))]

def shape : Json.Shape :=
  .fields ["apiGroups", "nonResourceURLs", "resourceNames", "resources", "verbs"]

def ofJson? (v : Json) : Option PolicyRule := do
  let members ← v.object?
  let texts (name : String) := Json.lastField members name (Json.list? Json.text?)
  return {
    apiGroups := ← texts "apiGroups"
    nonResourceURLs := ← texts "nonResourceURLs"
    resourceNames := ← texts "resourceNames"
    resources := ← texts "resources"
    verbs := (← texts "verbs").getD [] }

end PolicyRule

namespace ClusterRole

def toJson (r : ClusterRole) : Json :=
  .ofObject accessVersion "ClusterRole" r.metadata
    [("rules", r.rules.map fun rules => .arr (rules.map PolicyRule.toJson))]

def shape : Json.Shape := .builtin [("rules", .list PolicyRule.shape)]

def ofJson? (v : Json) : Option ClusterRole := do
  let members ← v.builtinMembers? accessVersion "ClusterRole"
  return {
    metadata := ← Json.builtinMetadata? members
    rules := ← Json.lastField members "rules" (Json.list? PolicyRule.ofJson?) }

end ClusterRole

namespace RoleRef

def toJson (r : RoleRef) : Json :=
  .ofMembers [("apiGroup", .str r.apiGroup), ("kind", .str r.kind), ("name", .str r.name)]

def shape : Json.Shape := .fields ["apiGroup", "kind", "name"]

def ofJson? (v : Json) : Option RoleRef := do
  let members ← v.object?
  let text (name : String) := (Json.lastField members name Json.text?).map (·.getD "")
  return { apiGroup := ← text "apiGroup", kind := ← text "kind", name := ← text "name" }

end RoleRef

namespace Subject

def toJson (s : Subject) : Json :=
  .ofPresent
    [("apiGroup", s.apiGroup.map .str),
     ("kind", some (.str s.kind)),
     ("name", some (.str s.name)),
     ("namespace", s.ns.map .str)]

def shape : Json.Shape := .fields ["apiGroup", "kind", "name", "namespace"]

def ofJson? (v : Json) : Option Subject := do
  let members ← v.object?
  let text (name : String) := Json.lastField members name Json.text?
  return {
    apiGroup := ← text "apiGroup"
    kind := (← text "kind").getD ""
    name := (← text "name").getD ""
    ns := ← text "namespace" }

end Subject

namespace ClusterRoleBinding

def toJson (b : ClusterRoleBinding) : Json :=
  .ofObject accessVersion "ClusterRoleBinding" b.metadata
    [("roleRef", some b.roleRef.toJson),
     ("subjects", b.subjects.map fun subjects => .arr (subjects.map Subject.toJson))]

def shape : Json.Shape :=
  .builtin [("roleRef", RoleRef.shape), ("subjects", .list Subject.shape)]

def ofJson? (v : Json) : Option ClusterRoleBinding := do
  let members ← v.builtinMembers? accessVersion "ClusterRoleBinding"
  return {
    metadata := ← Json.builtinMetadata? members
    roleRef := (← Json.lastField members "roleRef" RoleRef.ofJson?).getD {}
    subjects := ← Json.lastField members "subjects" (Json.list? Subject.ofJson?) }

end ClusterRoleBinding

end Provisioner
