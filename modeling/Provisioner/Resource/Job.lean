import Provisioner.Resource.Pod

/-!
# Jobs

A job runs pods from a template until one succeeds; its status counts how they fared and lists the
conditions that the job has met.
-/

namespace Provisioner

namespace Job

structure Spec where
  parallelism : Option Int := none
  completions : Option Int := none
  backoffLimit : Option Int := none
  template : PodTemplate := {}
  deriving DecidableEq, Inhabited

structure Condition where
  type : String := ""
  status : String := ""
  reason : Option String := none
  message : Option String := none
  deriving DecidableEq, Inhabited

structure Status where
  active : Option Int := none
  failed : Option Int := none
  succeeded : Option Int := none
  conditions : Option (List Condition) := none
  deriving DecidableEq, Inhabited

end Job

structure Job where
  metadata : Metadata := {}
  spec : Option Job.Spec := none
  status : Option Job.Status := none
  deriving DecidableEq, Inhabited

namespace Job

namespace Spec

def toJson (s : Spec) : Json :=
  .ofPresent
    [("parallelism", s.parallelism.map .int),
     ("completions", s.completions.map .int),
     ("backoffLimit", s.backoffLimit.map .int),
     ("template", some s.template.toJson)]

def shape : Json.Shape :=
  .record
    [("parallelism", .any),
     ("completions", .any),
     ("backoffLimit", .any),
     ("template", PodTemplate.shape)]

def ofJson? (v : Json) : Option Spec := do
  let members ← v.object?
  let count (name : String) := Json.lastField members name (Json.signed? 32)
  return {
    parallelism := ← count "parallelism"
    completions := ← count "completions"
    backoffLimit := ← count "backoffLimit"
    template := (← Json.lastField members "template" PodTemplate.ofJson?).getD {} }

end Spec

namespace Condition

def toJson (c : Condition) : Json :=
  .ofPresent
    [("type", some (.str c.type)),
     ("status", some (.str c.status)),
     ("reason", c.reason.map .str),
     ("message", c.message.map .str)]

def shape : Json.Shape := .fields ["type", "status", "reason", "message"]

def ofJson? (v : Json) : Option Condition := do
  let members ← v.object?
  return {
    type := ← Json.lastText members "type"
    status := ← Json.lastText members "status"
    reason := ← Json.lastField members "reason" Json.text?
    message := ← Json.lastField members "message" Json.text? }

end Condition

namespace Status

def toJson (s : Status) : Json :=
  .ofPresent
    [("active", s.active.map .int),
     ("failed", s.failed.map .int),
     ("succeeded", s.succeeded.map .int),
     ("conditions", s.conditions.map (.ofList Condition.toJson))]

def shape : Json.Shape :=
  .record
    [("active", .any),
     ("failed", .any),
     ("succeeded", .any),
     ("conditions", .list Condition.shape)]

def ofJson? (v : Json) : Option Status := do
  let members ← v.object?
  let count (name : String) := Json.lastField members name (Json.signed? 32)
  return {
    active := ← count "active"
    failed := ← count "failed"
    succeeded := ← count "succeeded"
    conditions := ← Json.lastField members "conditions" (Json.list? Condition.ofJson?) }

end Status

/-- The written form of the specification; null if there is none. -/
def specJson (j : Job) : Json := (j.spec.map Spec.toJson).getD .null

def toJson (j : Job) : Json :=
  .ofObject "batch/v1" "Job" j.metadata
    [("spec", j.spec.map Spec.toJson), ("status", j.status.map Status.toJson)]

def shape : Json.Shape := .builtin [("spec", Spec.shape), ("status", Status.shape)]

def ofJson? (v : Json) : Option Job := do
  let members ← v.builtinMembers? "batch/v1" "Job"
  return {
    metadata := ← Json.builtinMetadata? members
    spec := ← Json.lastField members "spec" Spec.ofJson?
    status := ← Json.lastField members "status" Status.ofJson? }

end Job

end Provisioner
