import Provisioner.Executor.Inputs
import Provisioner.Resource.Job

/-!
# Jobs of the executor

The job that applies or destroys what a configuration describes, and whether a job that is there
already has to make way for it. Three volumes are mounted: the working directory, the rendered
source, and the repository that a source is cloned from.
-/

namespace Provisioner.Executor

def workingDirectory : String := "/data"

def inputVolume : String := "tf-input-configuration"

def inputDirectory : String := "/opt/tf-configuration"

def backendVolume : String := "tf-backend"

def backendDirectory : String := "/opt/tf-backend"

/-- The limits or requests of a container; none if nothing is set. -/
def amounts (cpu memory : Option String) : Option (Dict String String) :=
  let set := [("cpu", cpu), ("memory", memory)].filterMap fun e => e.2.map (e.1, ·)
  if set.isEmpty then none else some (.ofList set)

def resources (r : ComputeResources) : Option Resources :=
  let limits := amounts r.limitsCpu r.limitsMemory
  let requests := amounts r.requestsCpu r.requestsMemory
  if limits.isNone && requests.isNone then none else some ⟨limits, requests⟩

/-- Every variable, read from the variable secret. -/
def environment (t : Target) (i : Inputs) : List EnvVar :=
  i.env.keys.map fun key =>
    { name := key, valueFrom := some (some ⟨t.variableSecret, key⟩) }

/-- A container that runs a command in a shell and mounts the working directory first. -/
def container (t : Target) (name image shell command : String) (mounts : List VolumeMount) :
    Container where
  name := name
  image := some image
  imagePullPolicy := some "IfNotPresent"
  command := some [shell, "-c", command]
  volumeMounts := some (⟨t.name, workingDirectory⟩ :: mounts)

/-- Copies the rendered source into the working directory. -/
def prepareContainer (settings : Settings) (t : Target) : Container :=
  container t "prepare-input-terraform-configurations" settings.busyboxImage "sh"
    ("cp " ++ inputDirectory ++ "/* " ++ workingDirectory) [⟨inputVolume, inputDirectory⟩]

/-- Clones a repository and copies a path of it into the working directory. -/
def cloneContainer (settings : Settings) (t : Target) (remote path : String) : Container :=
  container t "git-configuration" settings.gitImage "sh"
    ("git clone " ++ remote ++ " " ++ backendDirectory ++ " && cp -r " ++ backendDirectory ++ "/" ++
      path ++ "/* " ++ workingDirectory)
    [⟨backendVolume, backendDirectory⟩]

/-- A container that runs Terraform in the working directory. -/
def terraformContainer (settings : Settings) (t : Target) (i : Inputs)
    (name shell command : String) : Container :=
  { container t name settings.terraformImage shell command [] with
    workingDir := some workingDirectory
    env := some (environment t i) }

def initContainers (settings : Settings) (t : Target) (i : Inputs) : List Container :=
  prepareContainer settings t ::
    (i.remote.map fun remote => cloneContainer settings t remote i.path).toList ++
    [terraformContainer settings t i "terraform-init" "sh" "terraform init"]

def mainContainer (settings : Settings) (t : Target) (i : Inputs) (e : Execution) : Container :=
  { terraformContainer settings t i "terraform-executor" "bash"
      ("terraform " ++ e.word ++ " -lock=false -auto-approve") with
    resources := resources settings.resources }

def volumes (t : Target) : List Volume :=
  [{ name := t.name, emptyDir := true },
   { name := inputVolume, configMap := some t.inputBundle },
   { name := backendVolume, emptyDir := true }]

def podSpec (settings : Settings) (t : Target) (i : Inputs) (e : Execution) : PodSpec where
  initContainers := some (initContainers settings t i)
  containers := [mainContainer settings t i e]
  restartPolicy := some "OnFailure"
  serviceAccountName := some Names.serviceAccount
  volumes := some (volumes t)

/-- The job for a target and its inputs. -/
def job (settings : Settings) (t : Target) (i : Inputs) (e : Execution) : Job where
  metadata :=
    { name := some (t.jobName e)
      ns := some t.ns
      labels := some t.labels
      annotations := some (.singleton Names.fingerprintAnnotation i.fingerprint) }
  spec := some
    { parallelism := some 1
      completions := some 1
      backoffLimit := some 0x7FFFFFFF
      template :=
        { metadata := some { annotations := some (.singleton Names.sidecarAnnotation "false") }
          spec := some (podSpec settings t i e) } }

/-- What to do about a job. -/
inductive JobPlan
  | trigger
  | recreate
  | unchanged
  deriving DecidableEq, Repr

def JobPlan.name : JobPlan → String
  | .trigger => "Trigger"
  | .recreate => "Recreate"
  | .unchanged => "Unchanged"

/-- The fingerprint of the inputs that a job was made from. -/
def fingerprint? (j : Job) : Option String :=
  j.metadata.annotations.bind fun a => a.get? Names.fingerprintAnnotation

/-- What to do to have `desired`; `changed` if the source or the variables are known to differ. -/
def plan (changed : Bool) (existing : Option Job) (desired : Job) : JobPlan :=
  match existing with
  | none => .trigger
  | some j =>
    if changed || fingerprint? j ≠ fingerprint? desired then .recreate else .unchanged

end Provisioner.Executor
