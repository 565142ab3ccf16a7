import Provisioner.Resource.Configuration
import Provisioner.Resource.Job

/-!
# Progress of jobs

How far a job has come, read off its status: it has succeeded once a pod has, and it has failed when
a condition says so, whose reason tells kinds of failure apart.
-/

namespace Provisioner.Executor

inductive Progress
  | provisioning
  | initError
  | applyError
  | invalidRegion
  | succeeded
  deriving DecidableEq, Repr

def Progress.name : Progress → String
  | .provisioning => "Provisioning"
  | .initError => "InitError"
  | .applyError => "ApplyError"
  | .invalidRegion => "InvalidRegion"
  | .succeeded => "Succeeded"

/-- The state in which a failure leaves a configuration. -/
def Progress.failureState : Progress → Option Configuration.State
  | .initError => some .initError
  | .applyError => some .applyFailed
  | .invalidRegion => some .invalidRegion
  | .provisioning | .succeeded => none

structure Report where
  progress : Progress
  message : String := ""
  deriving DecidableEq, Repr

/-- The kind of failure that a condition reports. -/
def failure (c : Job.Condition) : Report :=
  let progress :=
    if c.reason = some "InvalidRegion" then Progress.invalidRegion
    else if c.reason = some "InitError" then .initError
    else .applyError
  ⟨progress, c.message.getD ""⟩

def report (j : Job) : Report :=
  match j.status with
  | none => ⟨.provisioning, ""⟩
  | some status =>
    if status.succeeded.any (0 < ·) then ⟨.succeeded, ""⟩
    else
      match (status.conditions.getD []).find? fun c => c.type = "Failed" && c.status = "True" with
      | some c => failure c
      | none => ⟨.provisioning, ""⟩

end Provisioner.Executor
