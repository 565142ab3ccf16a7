import Provisioner.Dict
import Provisioner.Quantity
import Provisioner.Text.Quoted

/-!
# Settings

What the environment of the program sets: the images that jobs run, the namespace of the stored
state, whether sources on GitHub are replaced, and the compute resources of a job. A variable that
is empty counts as not set.
-/

namespace Provisioner

/-- Compute resources of the container that runs the command of a job. -/
structure ComputeResources where
  limitsCpu : Option String := none
  limitsMemory : Option String := none
  requestsCpu : Option String := none
  requestsMemory : Option String := none
  deriving DecidableEq, Repr, Inhabited

structure Settings where
  terraformImage : String := "oamdev/docker-terraform:1.1.2"
  busyboxImage : String := "busybox:latest"
  gitImage : String := "alpine/git:latest"
  /-- The namespace of the secrets that hold the state of what was provisioned. -/
  stateNs : String := "vela-system"
  githubBlocked : Bool := false
  resources : ComputeResources := {}
  bootstrapDemo : Bool := false
  deriving DecidableEq, Repr, Inhabited

namespace Settings

/-- A variable whose value cannot be used. -/
inductive Fault
  | flag (name value : String)
  | quantity (name value : String)
  deriving DecidableEq, Repr

def Fault.message : Fault → String
  | .flag name value =>
    name ++ " must be true or false, got " ++ Text.quoted value ++
      ": provided string was not `true` or `false`"
  | .quantity name value =>
    "failed to parse " ++ name ++ "=" ++ Text.quoted value ++ " as a resource quantity"

/-- The value of a variable that is set. -/
def value? (env : Dict String String) (name : String) : Option String :=
  (env.get? name).filter (· ≠ "")

def flag (env : Dict String String) (name : String) : Except Fault Bool :=
  match value? env name with
  | none | some "false" => .ok false
  | some "true" => .ok true
  | some value => .error (.flag name value)

def quantity (env : Dict String String) (name : String) : Except Fault (Option String) :=
  match value? env name with
  | none => .ok none
  | some value =>
    if Quantity.isWritten value then .ok (some value) else .error (.quantity name value)

/-- The settings that an environment makes. -/
def load (env : Dict String String) : Except Fault Settings := do
  let defaults : Settings := {}
  let textOr (name default : String) : String := (value? env name).getD default
  return {
    terraformImage := textOr "TERRAFORM_IMAGE" defaults.terraformImage
    busyboxImage := textOr "BUSYBOX_IMAGE" defaults.busyboxImage
    gitImage := textOr "GIT_IMAGE" defaults.gitImage
    stateNs := textOr "TERRAFORM_BACKEND_NAMESPACE" defaults.stateNs
    githubBlocked := ← flag env "GITHUB_BLOCKED"
    resources := {
      limitsCpu := ← quantity env "RESOURCES_LIMITS_CPU"
      limitsMemory := ← quantity env "RESOURCES_LIMITS_MEMORY"
      requestsCpu := ← quantity env "RESOURCES_REQUESTS_CPU"
      requestsMemory := ← quantity env "RESOURCES_REQUESTS_MEMORY" }
    bootstrapDemo := ← flag env "BOOTSTRAP_DEMO" }

end Settings

end Provisioner
