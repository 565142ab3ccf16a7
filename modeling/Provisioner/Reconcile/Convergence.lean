import Provisioner.Access
import Provisioner.Credentials
import Provisioner.Executor.Job
import Provisioner.Executor.Progress
import Provisioner.Terraform.Source

/-!
# Convergence of jobs

What applying and destroying have in common: the source is rendered and kept, credentials are
resolved, variables are compared with those of the variable secret, and the job is brought in line
with all of that.
-/

namespace Provisioner.Reconcile

open Provisioner.Configuration (SourceType)
open Executor (Inputs Report)

/-- The text to run, and the file that it is kept in. -/
structure Bundle where
  type : SourceType
  text : String
  deriving DecidableEq

def Bundle.data (b : Bundle) : Dict String String :=
  .singleton (Terraform.fileName (some b.type)) b.text

/-- The text to run for a configuration. -/
def bundle (t : Target) (c : Configuration) : Except Error Bundle := do
  let type ← (Terraform.validate c.spec).mapError .invalid
  let text ← Terraform.render c.spec type t.name t.stateNs
  return ⟨type, text⟩

/-- Whether a kept bundle has another text in the file of `b`. Repositories are not compared. -/
def bundleDiffers (t : Target) (kept : Option ConfigMap) (b : Bundle) : Bool :=
  t.remote.isNone &&
    ((kept.bind (·.data)).bind fun d => d.get? (Terraform.fileName (some b.type))).any (· ≠ b.text)

def bundleMap (t : Target) (b : Bundle) : ConfigMap where
  metadata := { name := some t.inputBundle, ns := some t.ns, labels := some t.labels }
  data := some b.data

/-- Renders the source and keeps it; whether it differs from what was kept before. -/
def renderInputs (t : Target) (c : Configuration) : Pass (Bundle × Bool) := do
  let b ← Pass.ask fun _ => bundle t c
  let kept ← Pass.findNamed ConfigMap t.ns t.inputBundle
  Pass.update (bundleMap t b)
  return (b, bundleDiffers t kept b)

/-- The region that credentials are asked for. -/
def region (c : Configuration) (p : Provider) : String :=
  ((c.spec.customRegion.filter (· ≠ "")) <|> p.spec.region).getD ""

/-- The credentials of the provider that a configuration refers to. -/
def resolveCredentials (resolve : Resolver) (c : Configuration) (s : Store) :
    Except Error (Dict String String) := do
  let (ns, name) := c.providerReference
  match ← s.findNamed Provider ns name with
  | none => throw (.provider (.notFound ns name))
  | some p =>
    if p.isNotReady then throw (.provider (.notReady p.statusMessage))
    else resolve s p (region c p)

def writeVariableSecret (t : Target) (env : Dict String String) : Pass Unit :=
  Pass.update (Secret.ofTexts t.ns t.variableSecret env (some t.labels))

/-- The environment that a configuration asks for, credentials included. -/
def environment (c : Configuration) (credentials : Dict String String) :
    Except Error (Dict String String) :=
  ((Terraform.variableEnv c.spec.values).mapError .invalid).map (·.overlay credentials)

/-- Computes the variables and writes their secret if there is none; whether they differ from those
of the secret. -/
def syncVariables (t : Target) (c : Configuration) (credentials : Dict String String) :
    Pass (Dict String String × Bool) := do
  let desired ← Pass.ask fun _ => environment c credentials
  match ← Pass.findNamed Secret t.ns t.variableSecret with
  | none =>
    writeVariableSecret t desired
    return (desired, false)
  | some secret => return (desired, Terraform.variablesDiffer secret.texts desired)

/-- Hands a job over to whatever runs it. -/
def triggerJob (j : Job) : Pass Request := do
  let key ← Pass.add j
  modifyThe Session fun s => { s with triggered := s.triggered ++ [key] }
  return ⟨j.metadata.ns.getD "", j.metadata.anyName⟩

/-- Makes everything that a job needs, and then the job. -/
def startJob (t : Target) (i : Inputs) (desired : Job) : Pass Unit := do
  writeVariableSecret t i.env
  Access.ensureAccount t.ns Names.serviceAccount
  Access.ensureBinding t.ns (Names.clusterRole t.ns) Names.serviceAccount
  let _ ← triggerJob desired

/-- Brings the job of a target in line with its inputs. -/
def convergeJob (settings : Settings) (t : Target) (i : Inputs) (changed : Bool) (e : Execution) :
    Pass Unit := do
  let desired := Executor.job settings t i e
  match Executor.plan changed (← Pass.find Job (t.jobKey e)) desired with
  | .unchanged => return
  | .recreate =>
    let _ ← Pass.delete (t.jobKey e)
    let _ ← Pass.delete t.variableSecretKey
    startJob t i desired
  | .trigger => startJob t i desired

/-- How far the job under a key has come. -/
def jobReport (key : ObjectKey) (s : Store) : Except Error Report := do
  match ← s.find Job key with
  | some j => return Executor.report j
  | none => return ⟨.provisioning, "job not observed yet"⟩

end Provisioner.Reconcile
