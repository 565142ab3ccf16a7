import Provisioner.Outputs
import Provisioner.Reconcile.Convergence
import Provisioner.Reconcile.Outcome
import Provisioner.Reconcile.Status

/-!
# Destroying a configuration

A pass over a configuration that is waiting to go runs the job that destroys its cloud resources,
unless they are to be kept or there are none. Once the job has succeeded, everything generated for
the configuration is removed and then the configuration itself.
-/

namespace Provisioner.Reconcile

open Executor (Inputs)

/-- The states that a configuration has only once something may have been provisioned for it. -/
def isProvisioned (state : Option Configuration.State) : Bool :=
  match state with
  | some .provisioningAndChecking | some .available | some .generatingOutputs | some .applyFailed
  | some .reloading => true
  | _ => false

/-- Whether a configuration can go without destroying anything. -/
def isDeletable (c : Configuration) (s : Store) : Except Error Bool := do
  let (ns, name) := c.providerReference
  let provider ← s.findNamed Provider ns name
  return !(provider.any (·.isReady)) || !isProvisioned c.applyState

/-- Everything that the job that destroys consumes, and whether it is known to differ from before. -/
def prepare (resolve : Resolver) (t : Target) (c : Configuration) : Pass (Inputs × Bool) := do
  let (b, differs) ← renderInputs t c
  let credentials ← Pass.ask (resolveCredentials resolve c)
  let (env, differ) ← syncVariables t c credentials
  Access.ensureRole (Names.clusterRole t.ns)
  return (.of t b.text env, differs || differ)

/-- Runs the job that destroys the cloud resources; succeeds once the job has. -/
def destroyResources (settings : Settings) (resolve : Resolver) (t : Target) (c : Configuration) :
    Pass Unit := do
  let (inputs, changed) ←
    tryCatchThe Error (prepare resolve t c) fun e => do
      setDestroyStatus t.key .destroyFailed e.message
      throw e
  convergeJob settings t inputs changed .destroy
  setDestroyStatus t.key .destroying "Cloud resources are being destroyed..."
  let report ← Pass.ask (jobReport (t.jobKey .destroy))
  match report.progress with
  | .succeeded => return
  | .provisioning => throw .destroyPending
  | _ =>
    setDestroyStatus t.key .destroyFailed report.message
    throw .destroyPending

/-- The keys of everything generated for a target. -/
def generatedKeys (t : Target) : List ObjectKey :=
  [t.inputBundleKey, t.variableSecretKey, t.stateSecretKey, t.jobKey .apply, t.jobKey .destroy]

/-- The key of the secret that received the outputs, unless it belongs to another configuration. -/
def ownConnectionKey? (t : Target) (c : Configuration) (s : Store) : Option ObjectKey :=
  c.connectionSecret?.bind fun (ns, name) =>
    match s.findNamed Secret ns name with
    | .ok (some secret) =>
      if (Outputs.otherOwner? secret t).isNone then some ⟨.secret, ns, name⟩ else none
    | _ => none

/-- Removes what was generated for a target; what is not there is passed over. -/
def cleanup (t : Target) (c : Configuration) : Pass Unit := do
  let connection := ownConnectionKey? t c (← getThe Session).store
  (generatedKeys t ++ connection.toList).forM fun key => discard (Pass.delete key)

/-- A pass over a configuration that is waiting to go. -/
def destroy (settings : Settings) (resolve : Resolver) (t : Target) (c : Configuration) :
    Pass Outcome := do
  if !hasOwnFinalizer c then return .done
  let deletable ← Pass.ask (isDeletable c)
  if t.deleteResource && !deletable then destroyResources settings resolve t c
  setDestroyStatus t.key .destroyed "Cloud resources are destroyed"
  cleanup t c
  let _ ← Pass.updateWith t.key withoutOwnFinalizer
  let _ ← Pass.delete t.key
  return .done

end Provisioner.Reconcile
