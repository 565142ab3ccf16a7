import Provisioner.Proofs.Endurance
import Provisioner.Proofs.Remit

/-!
Sessions that can come about. From an empty store on anything may be done to it in any order, also
edits that rename, so that objects need not be under their own keys. What single operations preserve
holds in all of them; one such property is that the generation of every stored object is told.
-/

namespace Provisioner

open Reconcile

variable {s : Session} {c : Configuration} {key : ObjectKey}

/-! ### Histories -/

/-- The sessions that come about from an empty store by whatever is done to it. -/
inductive Session.Reachable : Session → Prop
  | empty (now : Timestamp) : Reachable { store := {}, now := now }
  | add {s : Session} (before : Reachable s) (o : Object) : Reachable ((Pass.addObject o).on s).2
  | edit {s : Session} (before : Reachable s) (τ : Type) [Resource τ] (key : ObjectKey)
    (f : τ → τ) : Reachable ((Pass.updateWith key f).on s).2
  | delete {s : Session} (before : Reachable s) (key : ObjectKey) :
    Reachable ((Pass.delete key).on s).2
  | register {s : Session} (before : Reachable s) (kind : Kind) (listener : Nat) :
    Reachable { s with store := s.store.register kind listener }
  | clock {s : Session} (before : Reachable s) (now : Timestamp) : Reachable { s with now := now }
  | pass {s : Session} (before : Reachable s) (settings : Settings) (resolve : Resolver)
    (request : Request) : Reachable ((configurationPass settings resolve request).on s).2
  | providerPass {s : Session} (before : Reachable s) (resolve : Resolver) (request : Request) :
    Reachable ((Reconcile.providerPass resolve request).on s).2

/-- What passes preserve, and other edits too, holds in every session that can come about. -/
theorem Session.Reachable.abides {holds : Session → Prop} (reachable : s.Reachable)
    (abiding : Session.Abiding holds) (empty : ∀ now, holds { store := {}, now := now })
    (edit : ∀ (τ : Type) [Resource τ] s key (f : τ → τ), holds s → holds (s.edit key f))
    (register : ∀ s kind listener,
      holds s → holds { s with store := s.store.register kind listener })
    (clock : ∀ s now, holds s → holds { s with now := now }) : holds s := by
  induction reachable with
  | empty now => exact empty now
  | add before o ih =>
    rcases Pass.snd_addObject_cases _ o with same | ⟨key, named, written⟩
    · rw [same]
      exact ih
    · rw [written]
      exact abiding.write _ key o named ih
  | edit before τ key f ih =>
    rcases Pass.snd_updateWith_cases _ key f with same | edited
    · rw [same]
      exact ih
    · rw [edited]
      exact edit τ _ key f ih
  | delete before key ih => exact abiding.delete _ key ih
  | register before kind listener ih => exact register _ kind listener ih
  | clock before now ih => exact clock _ now ih
  | pass before settings resolve request ih =>
    exact abiding.configurationPass settings resolve request _ ih
  | providerPass before resolve request ih => exact abiding.providerPass resolve request _ ih

/-! ### Generations -/

/-- The generation of every stored object is told. -/
def Session.Counts (s : Session) : Prop :=
  ∀ key o, s.store.get? key = some o → o.metadata.generation.isSome

namespace Session

theorem generation_remains {o p : Object} (left : s.remains o = some p) :
    p.metadata.generation = o.metadata.generation := by
  unfold remains at left
  split at left
  · cases left
    unfold marked
    rw [Object.metadata_withMetadata]
  · cases left

/-- A write tells the generation of what it stores, and a deletion leaves it. -/
theorem enduring_counts : Enduring Counts where
  write s key o counts k p held := by
    rw [get?_write] at held
    split at held
    · cases held
      exact Object.generation_stored _ _ _
    · exact counts k p held
  delete s key counts k p held := by
    by_cases here : k = key
    · subst here
      rw [get?_delete_self] at held
      obtain ⟨o, before, left⟩ := Option.bind_eq_some_iff.mp held
      rw [generation_remains left]
      exact counts k o before
    · rw [get?_delete_of_ne s here] at held
      exact counts k p held
  handOver _ _ counts := counts

/-- In every session that can come about the generations are told. -/
theorem Reachable.counts (reachable : s.Reachable) : s.Counts :=
  reachable.abides enduring_counts.abiding (fun _ _ _ held => nomatch held)
    (fun _ _ _ key f counts => enduring_counts.edit counts key f) (fun _ _ _ counts => counts)
    fun _ _ counts => counts

/-- The generation of a configuration that has come about is told. -/
theorem Reachable.told (reachable : s.Reachable)
    (held : s.store.read Configuration key = some c) : c.metadata.generation.isSome :=
  reachable.counts key _ (Store.read_eq_some_iff.mp held)

end Session

end Provisioner
