import Provisioner.Outputs
import Provisioner.Reconcile.Convergence
import Provisioner.Reconcile.Outcome
import Provisioner.Reconcile.Status

/-!
# Applying a configuration

A pass over an active configuration holds it by a finalizer, renders its source, resolves
credentials and variables, brings the job that applies it in line, and records how far that job has
come. A source that has changed is only kept by the pass that sees the change; the next pass runs it.
-/

namespace Provisioner.Reconcile

open Executor (Inputs Report)

/-- Records that outputs were published, or why not. -/
def recordSuccess (t : Target) (c : Configuration) : Pass Outcome := do
  let outputs ←
    tryCatchThe Error (Outputs.generate c t) fun e => do
      setApplyStatus t.key .generatingOutputs ("failed to generate outputs: " ++ e.message)
      throw e
  setApplyStatus t.key .available "Cloud resources are deployed and ready to use" outputs
  return .done

/-- Whether a configuration in this state is already known to be waiting for its job. -/
def isWaiting (state : Option Configuration.State) : Bool :=
  state = some .provisioningAndChecking || state = some .invalidRegion

/-- Records that the job is still running. -/
def recordRunning (t : Target) : Pass Outcome := do
  let current ← Pass.find Configuration t.key
  if !isWaiting (current.bind (·.applyState)) then
    setApplyStatus t.key .provisioningAndChecking
      "Cloud resources are being provisioned and provisioning status is checking..."
  throw .applyPending

/-- Records how far the job has come. -/
def recordProgress (t : Target) (c : Configuration) (r : Report) : Pass Outcome := do
  match r.progress with
  | .succeeded => recordSuccess t c
  | .provisioning => recordRunning t
  | failed =>
    setApplyStatus t.key (failed.failureState.getD .applyFailed) r.message
    return .done

/-- Resolves credentials, or records that the configuration waits for its provider. -/
def authorize (resolve : Resolver) (t : Target) (c : Configuration) :
    Pass (Dict String String) :=
  tryCatchThe Error (Pass.ask (resolveCredentials resolve c)) fun e => do
    setApplyStatus t.key .authorizing e.message
    throw e

/-- Runs the rendered source. -/
def run (settings : Settings) (resolve : Resolver) (t : Target) (c : Configuration) (b : Bundle) :
    Pass Outcome := do
  let credentials ← authorize resolve t c
  let (env, differ) ← syncVariables t c credentials
  if differ then
    setApplyStatus t.key .reloading "Configuration's variable has changed, and starts reloading"
  Access.ensureRole (Names.clusterRole t.ns)
  convergeJob settings t (.of t b.text env) differ .apply
  recordProgress t c (← Pass.ask (jobReport (t.jobKey .apply)))

/-- A pass over an active configuration. -/
def apply (settings : Settings) (resolve : Resolver) (t : Target) (c : Configuration) :
    Pass Outcome := do
  ensureFinalizer c
  match ← (observing (renderInputs t c)) with
  | .error (.invalid e) =>
    setApplyStatus t.key .staticCheckFailed e.message
    return .done
  | .error e => throw e
  | .ok (b, differs) =>
    if differs then
      setApplyStatus t.key .reloading "Configuration's HCL has changed, and starts reloading"
      return .after Outcome.delay
    else run settings resolve t c b
where
  /-- The result of a pass as a value. -/
  observing {α : Type} (p : Pass α) : Pass (Except Error α) :=
    tryCatchThe Error (.ok <$> p) fun e => pure (.error e)

end Provisioner.Reconcile
