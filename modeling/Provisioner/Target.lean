import Provisioner.Names
import Provisioner.Resource.Configuration
import Provisioner.Settings
import Provisioner.Terraform.Replacement

/-!
# Targets

What a pass over a configuration works on: the configuration's name and namespace, where its source
and its state are, and the keys of everything that is generated for it.
-/

namespace Provisioner

/-- What a job does with the cloud resources of a configuration. -/
inductive Execution
  | apply
  | destroy
  deriving DecidableEq, Repr

def Execution.word : Execution → String
  | .apply => "apply"
  | .destroy => "destroy"

structure Target where
  name : String
  ns : String
  /-- The namespace of the state secret. -/
  stateNs : String
  /-- The repository of the source, if it is in one. -/
  remote : Option String
  /-- The path inside the repository. -/
  path : String
  deleteResource : Bool
  deriving DecidableEq, Repr, Inhabited

namespace Target

def of (settings : Settings) (c : Configuration) : Target where
  name := c.metadata.anyName
  ns := c.metadata.ns.getD ""
  stateNs := settings.stateNs
  remote := (c.spec.remote.filter (· ≠ "")).map fun r =>
    Terraform.replaceSource r settings.githubBlocked
  path := (c.spec.path.filter (· ≠ "")).getD "."
  deleteResource := c.spec.deleteResource

def inputBundle (t : Target) : String := Names.inputBundle t.name

def variableSecret (t : Target) : String := Names.variableSecret t.name

def stateSecret (t : Target) : String := Names.stateSecret t.name

def jobName (t : Target) (e : Execution) : String := t.name ++ "-" ++ e.word

def key (t : Target) : ObjectKey := ⟨.configuration, t.ns, t.name⟩

def inputBundleKey (t : Target) : ObjectKey := ⟨.configMap, t.ns, t.inputBundle⟩

def variableSecretKey (t : Target) : ObjectKey := ⟨.secret, t.ns, t.variableSecret⟩

def stateSecretKey (t : Target) : ObjectKey := ⟨.secret, t.stateNs, t.stateSecret⟩

def jobKey (t : Target) (e : Execution) : ObjectKey := ⟨.job, t.ns, t.jobName e⟩

/-- The labels of what is generated for the target. -/
def labels (t : Target) : Dict String String :=
  .ofList
    [(Names.createdByLabel, Names.creator),
     (Names.ownedByLabel, t.name),
     (Names.ownedNamespaceLabel, t.ns)]

end Target

end Provisioner
