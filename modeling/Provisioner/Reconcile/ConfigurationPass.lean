import Provisioner.Reconcile.Apply
import Provisioner.Reconcile.Destroy

/-!
# Passes over configurations

A pass applies a configuration that is active and destroys one that is waiting to go. A job that is
still running is looked at again after a fixed delay.
-/

namespace Provisioner.Reconcile

/-- The pass that the lifecycle of a configuration calls for. -/
def pursue (settings : Settings) (resolve : Resolver) (c : Configuration) : Pass Outcome :=
  match c.metadata.lifecycle with
  | .active => apply settings resolve (.of settings c) c
  | .terminating => destroy settings resolve (.of settings c) c

def configurationPass (settings : Settings) (resolve : Resolver) (request : Request) :
    Pass Outcome := do
  match ← Pass.find Configuration (request.key .configuration) with
  | none => return .done
  | some c =>
    tryCatchThe Error (pursue settings resolve c) fun e =>
      if e.isPending then pure (.after Outcome.delay) else throw e

end Provisioner.Reconcile
