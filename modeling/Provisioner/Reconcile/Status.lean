import Provisioner.Names
import Provisioner.Store.Write

/-!
# Status of configurations

How passes record what they found. The status of applying is replaced as a whole, together with the
generation it was observed for; the status of destroying stands apart from it.
-/

namespace Provisioner.Reconcile

open Provisioner.Configuration (State)

def withApplyStatus (state : State) (message : String) (outputs : Dict String String)
    (c : Configuration) : Configuration :=
  { c with
    status := some
      { c.statusOrDefault with
        observedGeneration := c.metadata.generation.getD 0
        apply := ⟨some state, message, outputs⟩ } }

def withDestroyStatus (state : State) (message : String) (c : Configuration) : Configuration :=
  { c with status := some { c.statusOrDefault with destroy := ⟨some state, message⟩ } }

def setApplyStatus (key : ObjectKey) (state : State) (message : String)
    (outputs : Dict String String := ∅) : Pass Unit :=
  Pass.attempt (Pass.updateWith key (withApplyStatus state message outputs))

def setDestroyStatus (key : ObjectKey) (state : State) (message : String) : Pass Unit :=
  Pass.attempt (Pass.updateWith key (withDestroyStatus state message))

/-- Whether the finalizer of this library is among a configuration's. -/
def hasOwnFinalizer (c : Configuration) : Bool := c.metadata.finalizerList.contains Names.finalizer

def withOwnFinalizer (c : Configuration) : Configuration :=
  if hasOwnFinalizer c then c
  else
    { c with
      metadata :=
        { c.metadata with finalizers := some (c.metadata.finalizerList ++ [Names.finalizer]) } }

def withoutOwnFinalizer (c : Configuration) : Configuration :=
  { c with
    metadata :=
      { c.metadata with
        finalizers := some (c.metadata.finalizerList.filter (· ≠ Names.finalizer)) } }

/-- Adds the finalizer to the stored configuration, unless the one at hand carries it. -/
def ensureFinalizer (c : Configuration) : Pass Unit := do
  if !hasOwnFinalizer c then
    let key ← Pass.keyOf (.configuration c)
    let _ ← Pass.updateWith key withOwnFinalizer

end Provisioner.Reconcile
