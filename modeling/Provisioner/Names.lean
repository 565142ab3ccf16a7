import Provisioner.ObjectKey

/-!
# Names of generated objects

The names of the objects that are generated for a configuration or for a namespace, and the labels
and annotations they carry.
-/

namespace Provisioner.Names

/-- The configuration map that holds the rendered source. -/
def inputBundle (configuration : String) : String := "tf-" ++ configuration

/-- The secret that holds variables and credentials. -/
def variableSecret (configuration : String) : String := "variable-" ++ configuration

/-- The secret that holds the state of what was provisioned. -/
def stateSecret (configuration : String) : String := "tfstate-default-" ++ configuration

def clusterRole (ns : String) : String := ns ++ "-tf-executor-clusterrole"

def clusterRoleBinding (ns : String) : String := ns ++ "-tf-executor-clusterrole-binding"

/-- The service account that jobs run under. -/
def serviceAccount : String := "tf-executor-service-account"

/-- The finalizer that holds a configuration until what was generated for it is gone. -/
def finalizer : String := "configuration.finalizers.terraform-controller"

/-- The entry of a state secret that holds the state. -/
def stateEntry : String := "tfstate"

def createdByLabel : String := "terraform.core.oam.dev/created-by"

def ownedByLabel : String := "terraform.core.oam.dev/owned-by"

def ownedNamespaceLabel : String := "terraform.core.oam.dev/owned-namespace"

/-- What generated objects are created by. -/
def creator : String := "terraform-controller"

/-- The annotation of a job that tells the inputs it was made from. -/
def fingerprintAnnotation : String := "terraform.core.oam.dev/input-fingerprint"

def sidecarAnnotation : String := "sidecar.istio.io/inject"

end Provisioner.Names
