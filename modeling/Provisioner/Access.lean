import Provisioner.Names
import Provisioner.Store.Write

/-!
# Access of jobs

The service account that jobs run under, and the role that lets them keep state and locks. Each of
these objects is made once and left alone from then on.
-/

namespace Provisioner.Access

/-- Writes a resource unless there is one under its key. -/
def ensure {τ : Type} [Resource τ] (r : τ) : Pass Unit := do
  let key ← Pass.keyOf (Resource.wrap r)
  if (← Pass.find τ key).isNone then Pass.update r

def rule (group resource : String) (verbs : List String) : PolicyRule :=
  { apiGroups := some [group], resources := some [resource], verbs := verbs }

/-- The role that lets jobs keep state in secrets and take leases as locks. -/
def role (name : String) : ClusterRole where
  metadata := { name := some name }
  rules := some
    [rule "" "secrets" ["get", "list", "create", "update", "delete"],
     rule "coordination.k8s.io" "leases" ["get", "create", "update", "delete"]]

/-- The binding that gives a role to a service account of a namespace. -/
def binding (ns role account : String) : ClusterRoleBinding where
  metadata := { name := some (Names.clusterRoleBinding ns) }
  roleRef := ⟨"rbac.authorization.k8s.io", "ClusterRole", role⟩
  subjects := some [{ kind := "ServiceAccount", name := account, ns := some ns }]

def account (ns name : String) : ServiceAccount where
  metadata := { name := some name, ns := some ns }

def ensureRole (name : String) : Pass Unit := ensure (role name)

def ensureBinding (ns role account : String) : Pass Unit := ensure (binding ns role account)

def ensureAccount (ns name : String) : Pass Unit := ensure (account ns name)

end Provisioner.Access
