import Provisioner.Store.Write
import Provisioner.Target
import Provisioner.Terraform.State

/-!
# Outputs

The outputs of what was provisioned are read from the state secret and published in the secret that
the configuration asks for, unless the labels of that secret say that it belongs to another
configuration.
-/

namespace Provisioner.Outputs

/-- The outputs in the state of a target. -/
def read (s : Store) (t : Target) : Except Error (Dict String String) := do
  match ← s.findNamed Secret t.stateNs t.stateSecret with
  | none => throw (.state .notGenerated)
  | some secret =>
    match secret.bytes? Names.stateEntry with
    | none => throw (.state (.noEntry t.stateSecret))
    | some raw =>
      let document ← (Terraform.stateDocument raw).mapError .state
      Terraform.outputs document

/-- The configuration that a secret belongs to, if it is not the target: each label tells against
the target only if it is set. -/
def otherOwner? (secret : Secret) (t : Target) : Option Request :=
  secret.metadata.labels.bind fun labels =>
    let label (name : String) : String := (labels.get? name).getD ""
    let owner : Request := ⟨label Names.ownedNamespaceLabel, label Names.ownedByLabel⟩
    let foreignName := owner.name ≠ "" && owner.name ≠ t.name
    let foreignNs := owner.ns ≠ "" && owner.ns ≠ t.ns
    if foreignName || foreignNs then some owner else none

/-- The secret with the outputs as all its content. -/
def refreshed (secret : Secret) (outputs : Dict String String) : Secret :=
  { secret with data := none, stringData := some outputs }

/-- Writes the outputs of a target to the secret of a namespace and name. -/
def publish (t : Target) (ns name : String) (outputs : Dict String String) : Pass Unit := do
  match ← Pass.findNamed Secret ns name with
  | none => Pass.update (Secret.ofTexts ns name outputs (some t.labels))
  | some secret =>
    match otherOwner? secret t with
    | some owner => throw (.secretConflict ⟨t.ns, t.name⟩ ⟨ns, name⟩ owner)
    | none => Pass.update (refreshed secret outputs)

/-- Reads the outputs of a configuration and publishes them if it asks for that. -/
def generate (c : Configuration) (t : Target) : Pass (Dict String String) := do
  let outputs ← Pass.ask fun s => read s t
  match c.connectionSecret? with
  | none => return outputs
  | some (ns, name) =>
    publish t ns name outputs
    return outputs

end Provisioner.Outputs
