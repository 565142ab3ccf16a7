import Provisioner.Credentials
import Provisioner.Reconcile.Outcome
import Provisioner.Store.Write

/-!
# Passes over providers

A provider is ready when its credentials can be resolved; otherwise its status says why not.
-/

namespace Provisioner.Reconcile

def setProviderStatus (key : ObjectKey) (state : Provider.State) (message : String) : Pass Unit :=
  Pass.attempt (Pass.updateWith key fun p : Provider => { p with status := some ⟨state, message⟩ })

def providerPass (resolve : Resolver) (request : Request) : Pass Outcome := do
  let key := request.key .provider
  match ← Pass.find Provider key with
  | none => return .done
  | some provider =>
    match resolve (← getThe Session).store provider (provider.spec.region.getD "") with
    | .ok _ =>
      setProviderStatus key .ready ""
      return .done
    | .error e =>
      setProviderStatus key .notReady e.message
      throw e

end Provisioner.Reconcile
