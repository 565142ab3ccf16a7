import Provisioner.Proofs.Separation

/-!
What single operations of the store preserve, every pass preserves, whatever it answers and whatever
is in the store. A pass is followed through its parts here once and for all; what a property has to
show is that writing an object under its own key, editing a resource without renaming it, deleting
and handing over each keep it.
-/

namespace Provisioner

open Reconcile

variable {α β τ : Type} [Resource τ] {s s' : Session} {t : Target} {touched : ObjectKey → Prop}
  {holds : Session → Prop}

/-! ### Passes that keep a property -/

namespace Pass

/-- What holds of a session holds of the one that the pass leaves. -/
def Keeps (holds : Session → Prop) (p : Pass α) : Prop := ∀ s, holds s → holds (p.on s).2

namespace Keeps

theorem of_unchanged {p : Pass α} (unchanged : ∀ s, (p.on s).2 = s) : Keeps holds p := by
  intro s before
  rw [unchanged s]
  exact before

theorem bind {p : Pass α} {f : α → Pass β} (first : Keeps holds p)
    (next : ∀ a, Keeps holds (f a)) : Keeps holds (p >>= f) := by
  intro s before
  have between := first s before
  rw [on_bind]
  split <;> rename_i ran <;> rw [ran] at between
  · exact next _ _ between
  · exact between

theorem tryCatch {p : Pass α} {handle : Error → Pass α} (body : Keeps holds p)
    (handler : ∀ e, Keeps holds (handle e)) : Keeps holds (tryCatchThe Error p handle) := by
  intro s before
  have between := body s before
  rw [on_tryCatch]
  split <;> rename_i ran <;> rw [ran] at between
  · exact between
  · exact handler _ _ between

end Keeps

end Pass

/-! ### What operations preserve -/

/-- In every store there is somewhere to publish outputs. -/
theorem Reconcile.admits_all (s : Store) (t : Target) (c : Configuration) :
    s.Admits t c fun _ => True :=
  fun _ _ _ => ⟨fun _ => trivial, fun _ _ _ _ _ => trivial⟩

/-- A property of sessions that is preserved by what passes do: objects are written under their own
keys, resources are edited but not renamed, objects are deleted and jobs handed over. -/
structure Session.Abiding (holds : Session → Prop) : Prop where
  write : ∀ s key (o : Object), o.key? = some key → holds s → holds (s.write key o)
  edit : ∀ (τ : Type) [Resource τ] s key (f : τ → τ), KeepsKey f → holds s → holds (s.edit key f)
  delete : ∀ s key, holds s → holds (s.delete key).2
  handOver : ∀ s key, holds s → holds (s.handOver key)

namespace Session.Abiding

variable (abiding : Session.Abiding holds)
include abiding

theorem deleteAll (before : holds s) (keys : List ObjectKey) : holds (s.deleteAll keys) := by
  induction keys generalizing s with
  | nil => exact before
  | cons key rest ih => exact ih (abiding.delete s key before)

theorem changes (changes : Changes t touched s s') (before : holds s) : holds s' := by
  induction changes with
  | refl => exact before
  | step _ last ih =>
    cases last with
    | write _ named => exact abiding.write _ _ _ named ih
    | delete => exact abiding.delete _ _ ih
    | note note => exact abiding.edit _ _ _ _ note.gentle.keepsKey ih
    | handOver => exact abiding.handOver _ _ ih

theorem note {key : ObjectKey} {f : τ → τ} (kind : key.kind = Resource.kind τ) (gentle : Gentle f) :
    Pass.Keeps holds (Pass.attempt (Pass.updateWith key f)) := by
  intro s before
  rw [Pass.on_attempt_updateWith kind]
  exact abiding.edit τ s key f gentle.keepsKey before

theorem release (t : Target) (c : Configuration) : Pass.Keeps holds (Reconcile.release t c) := by
  intro s before
  have noted := abiding.edit Configuration s t.key
    (withDestroyStatus .destroyed "Cloud resources are destroyed")
    (note_withDestroyStatus _ _).gentle.keepsKey before
  have released := abiding.edit Configuration _ t.key withoutOwnFinalizer
    gentle_withoutOwnFinalizer.keepsKey (abiding.deleteAll noted (generatedKeys t ++
      (ownConnectionKey? t c (s.edit t.key (withDestroyStatus .destroyed
        "Cloud resources are destroyed")).store).toList))
  rcases snd_release t c s with same | same <;> rw [same]
  · exact abiding.delete _ _ released
  · exact released

theorem pursue (settings : Settings) (resolve : Resolver) (c : Configuration) :
    Pass.Keeps holds (Reconcile.pursue settings resolve c) := by
  intro s before
  unfold Reconcile.pursue
  split
  · exact abiding.changes (confined_apply (fun _ _ => trivial)
      (fun _ placed => (Target.key_of placed).symm) s (admits_all _ _ _)) before
  · have job : holds ((destroyResources settings resolve (.of settings c) c).on s).2 :=
      abiding.changes (confined_destroyResources (fun _ _ => trivial) s (admits_all _ _ c)) before
    rcases destroy_leaves settings resolve (.of settings c) c s with
      same | same | ⟨-, same | same⟩ <;> rw [same]
    · exact before
    · exact job
    · exact abiding.release _ _ _ before
    · exact abiding.release _ _ _ job

theorem configurationPass (settings : Settings) (resolve : Resolver) (request : Request) :
    Pass.Keeps holds (Reconcile.configurationPass settings resolve request) := by
  unfold Reconcile.configurationPass
  refine .bind (.of_unchanged fun _ => by rw [Pass.on_find]) fun found => ?_
  cases found with
  | none => exact .of_unchanged fun _ => rfl
  | some c =>
    refine (abiding.pursue settings resolve c).tryCatch fun e => ?_
    split <;> exact .of_unchanged fun _ => rfl

theorem providerPass (resolve : Resolver) (request : Request) :
    Pass.Keeps holds (Reconcile.providerPass resolve request) := by
  unfold Reconcile.providerPass
  refine .bind (.of_unchanged fun _ => by rw [Pass.on_find]) fun found => ?_
  cases found with
  | none => exact .of_unchanged fun _ => rfl
  | some p =>
    refine .bind (.of_unchanged fun _ => rfl) fun s => ?_
    split <;>
      exact (abiding.note rfl (gentle_withProviderStatus _ _)).bind fun _ =>
        .of_unchanged fun _ => rfl

end Session.Abiding

/-- A property of sessions that single operations preserve, whatever they write. -/
structure Session.Enduring (holds : Session → Prop) : Prop where
  write : ∀ s key o, holds s → holds (s.write key o)
  delete : ∀ s key, holds s → holds (s.delete key).2
  handOver : ∀ s key, holds s → holds (s.handOver key)

namespace Session.Enduring

variable (enduring : Session.Enduring holds)
include enduring

theorem edit (before : holds s) (key : ObjectKey) (f : τ → τ) : holds (s.edit key f) := by
  unfold Session.edit
  split
  · exact before
  · exact enduring.write _ _ _ before

theorem abiding : Session.Abiding holds where
  write s key o _ := enduring.write s key o
  edit _ _ _ key f _ before := enduring.edit before key f
  delete := enduring.delete
  handOver := enduring.handOver

end Session.Enduring

end Provisioner
