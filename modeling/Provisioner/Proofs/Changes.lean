import Provisioner.Proofs.PassRuns
import Provisioner.Reconcile.ConfigurationPass
import Provisioner.Reconcile.ProviderPass

/-!
What passes change. On its way a pass over a configuration writes and removes a few generated
objects, notes on the configuration itself how it went, and hands over jobs; up to the cleanup after
a destroy job it does nothing else. What one such change preserves, a whole pass preserves: objects
stay under their own keys, everything else is as it was, and the configuration keeps what it asks
for and the finalizer that holds it.
-/

namespace Provisioner

open Reconcile

variable {α β : Type} {s s' : Session} {t : Target} {c : Configuration} {key : ObjectKey}
  {touched : ObjectKey → Prop}

namespace Target

def roleKey (t : Target) : ObjectKey := ⟨.clusterRole, "", Names.clusterRole t.ns⟩

def bindingKey (t : Target) : ObjectKey := ⟨.clusterRoleBinding, "", Names.clusterRoleBinding t.ns⟩

def accountKey (t : Target) : ObjectKey := ⟨.serviceAccount, t.ns, Names.serviceAccount⟩

/-- The key of the secret that a configuration publishes its outputs in. -/
def Publishes (c : Configuration) (key : ObjectKey) : Prop :=
  ∃ ns name, c.connectionSecret? = some (ns, name) ∧ key = ⟨.secret, ns, name⟩

/-- The keys that a pass writes to on its way, besides that of the configuration. -/
inductive Touches (t : Target) (c : Configuration) : ObjectKey → Prop
  | inputBundle : Touches t c t.inputBundleKey
  | variableSecret : Touches t c t.variableSecretKey
  | job (e : Execution) : Touches t c (t.jobKey e)
  | role : Touches t c t.roleKey
  | binding : Touches t c t.bindingKey
  | account : Touches t c t.accountKey
  | connection {key : ObjectKey} (published : Publishes c key) : Touches t c key

theorem Publishes.kind (published : Publishes c key) : key.kind = .secret := by
  obtain ⟨ns, name, -, rfl⟩ := published
  rfl

theorem Touches.not_configuration (touched : t.Touches c key) : key.kind ≠ .configuration := by
  cases touched with
  | connection published =>
    rw [published.kind]
    nofun
  | _ => nofun

theorem Touches.not_provider (touched : t.Touches c key) : key.kind ≠ .provider := by
  cases touched with
  | connection published =>
    rw [published.kind]
    nofun
  | _ => nofun

theorem Touches.apart : ¬ t.Touches c t.key := fun touched => touched.not_configuration rfl

end Target

/-! ### Single changes -/

/-- The states that a pass notes for applying. -/
def Configuration.State.ofApplying : List State :=
  [authorizing, staticCheckFailed, reloading, provisioningAndChecking, invalidRegion, initError,
    applyFailed, generatingOutputs, available]

/-- A note on a configuration: what it asks for and the finalizer that holds it stay, and what is
noted for applying is one of the states of applying. -/
structure Note (f : Configuration → Configuration) : Prop where
  metadata : ∀ c, (f c).metadata = { c.metadata with finalizers := (f c).metadata.finalizers }
  spec : ∀ c, (f c).spec = c.spec
  finalizers : ∀ c, hasOwnFinalizer c = true →
    (f c).metadata.finalizers = c.metadata.finalizers
  applyState : ∀ c, (f c).applyState = c.applyState ∨
    ∃ state ∈ Configuration.State.ofApplying, (f c).applyState = some state

theorem Note.gentle {f : Configuration → Configuration} (note : Note f) : Gentle f where
  metadata := note.metadata
  spec c := by
    show some (f c).spec.toJson = some c.spec.toJson
    rw [note.spec]

theorem gentle_withApplyStatus (state : Configuration.State) (message : String)
    (outputs : Dict String String) : Gentle (withApplyStatus state message outputs) :=
  ⟨fun _ => rfl, fun _ => rfl⟩

theorem note_withApplyStatus {state : Configuration.State}
    (listed : state ∈ Configuration.State.ofApplying) (message : String)
    (outputs : Dict String String) : Note (withApplyStatus state message outputs) :=
  ⟨fun _ => rfl, fun _ => rfl, fun _ _ => rfl, fun _ => .inr ⟨state, listed, rfl⟩⟩

theorem note_withDestroyStatus (state : Configuration.State) (message : String) :
    Note (withDestroyStatus state message) where
  metadata _ := rfl
  spec _ := rfl
  finalizers _ _ := rfl
  applyState c := by
    cases noted : c.status <;>
      simp [withDestroyStatus, Configuration.applyState, Configuration.statusOrDefault, noted]

theorem note_withOwnFinalizer : Note withOwnFinalizer where
  metadata c := by
    unfold withOwnFinalizer
    split <;> rfl
  spec c := by
    unfold withOwnFinalizer
    split <;> rfl
  finalizers c held := by
    unfold withOwnFinalizer
    rw [if_pos held]
  applyState c := by
    unfold withOwnFinalizer
    split <;> exact .inl rfl

/-- One change that a pass makes on its way. -/
inductive Change (t : Target) (touched : ObjectKey → Prop) : Session → Session → Prop
  | write {s : Session} {key : ObjectKey} {o : Object} (here : touched key)
    (named : o.key? = some key) : Change t touched s (s.write key o)
  | delete {s : Session} {key : ObjectKey} (here : touched key)
    (stale : key = t.variableSecretKey ∨ ∃ e, key = t.jobKey e) :
    Change t touched s (s.delete key).2
  | note {s : Session} {f : Configuration → Configuration} (note : Note f) :
    Change t touched s (s.edit t.key f)
  | handOver {s : Session} {e : Execution} (here : touched (t.jobKey e)) :
    Change t touched s (s.handOver (t.jobKey e))

/-- The changes that a pass makes on its way. -/
inductive Changes (t : Target) (touched : ObjectKey → Prop) : Session → Session → Prop
  | refl {s : Session} : Changes t touched s s
  | step {s s' s'' : Session} (before : Changes t touched s s') (last : Change t touched s' s'') :
    Changes t touched s s''

namespace Changes

theorem single (change : Change t touched s s') : Changes t touched s s' := .step .refl change

theorem trans {s'' : Session} (first : Changes t touched s s')
    (second : Changes t touched s' s'') : Changes t touched s s'' := by
  induction second with
  | refl => exact first
  | step _ last ih => exact .step ih last

theorem wellKeyed (changes : Changes t touched s s') (keyed : s.store.WellKeyed) :
    s'.store.WellKeyed := by
  induction changes with
  | refl => exact keyed
  | step _ last ih =>
    cases last with
    | write _ named => exact Session.wellKeyed_write ih named
    | delete => exact Session.wellKeyed_delete ih _
    | note note => exact Session.wellKeyed_edit ih _ note.gentle.keepsKey
    | handOver => exact ih

theorem now (changes : Changes t touched s s') : s'.now = s.now := by
  induction changes with
  | refl => rfl
  | step _ last ih =>
    cases last with
    | write => rw [Session.now_write, ih]
    | delete => rw [Session.now_delete, ih]
    | note => rw [Session.now_edit, ih]
    | handOver => exact ih

/-- Without a job among the keys nothing is handed over. -/
theorem triggered (changes : Changes t touched s s') (no : ∀ e, ¬ touched (t.jobKey e)) :
    s'.triggered = s.triggered := by
  induction changes with
  | refl => rfl
  | step _ last ih =>
    cases last with
    | write => rw [Session.triggered_write, ih]
    | delete => rw [Session.triggered_delete, ih]
    | note => rw [Session.triggered_edit, ih]
    | handOver here => exact absurd here (no _)

/-- What a pass does not touch on its way stays as it is. -/
theorem get? (changes : Changes t touched s s') (other : key ≠ t.key) (untouched : ¬ touched key) :
    s'.store.get? key = s.store.get? key := by
  induction changes with
  | refl => rfl
  | step _ last ih =>
    cases last with
    | write here =>
      rw [Session.get?_write_of_ne, ih]
      rintro rfl
      exact untouched here
    | delete here =>
      rw [Session.get?_delete_of_ne, ih]
      rintro rfl
      exact untouched here
    | note => rw [Session.get?_edit_of_ne _ _ other, ih]
    | handOver => exact ih

/-- On its way a pass removes nothing but jobs and the variable secret. -/
theorem isSome (changes : Changes t touched s s') (held : (s.store.get? key).isSome)
    (values : key ≠ t.variableSecretKey) (jobs : ∀ e, key ≠ t.jobKey e) :
    (s'.store.get? key).isSome := by
  induction changes with
  | refl => exact held
  | step _ last ih =>
    cases last with
    | write => exact Session.isSome_get?_write _ ih
    | delete _ stale =>
      have other : ∀ k, k = t.variableSecretKey ∨ (∃ e, k = t.jobKey e) → key ≠ k := by
        rintro k (rfl | ⟨e, rfl⟩)
        · exact values
        · exact jobs e
      rwa [Session.get?_delete_of_ne _ (other _ stale)]
    | note => exact Session.isSome_get?_edit _ ih
    | handOver => exact ih

end Changes

/-- The same configuration later on: only its status, its generation and finalizers differ, and
those not while it is held by the finalizer of this library. -/
structure Configuration.Continues (c c' : Configuration) : Prop where
  metadata : c'.metadata =
    { c.metadata with
      generation := c'.metadata.generation
      finalizers := c'.metadata.finalizers }
  spec : c'.spec = c.spec
  finalizers : hasOwnFinalizer c = true → c'.metadata.finalizers = c.metadata.finalizers

/-- The parts of a configuration that its inputs depend on. -/
structure Configuration.Alike (c c' : Configuration) : Prop where
  spec : c'.spec = c.spec
  ns : c'.metadata.ns = c.metadata.ns
  name : c'.metadata.anyName = c.metadata.anyName

namespace Configuration

theorem Alike.refl (c : Configuration) : c.Alike c := ⟨rfl, rfl, rfl⟩

theorem Alike.trans {c' c'' : Configuration} (first : c.Alike c') (second : c'.Alike c'') :
    c.Alike c'' :=
  ⟨second.spec.trans first.spec, second.ns.trans first.ns, second.name.trans first.name⟩

theorem Continues.refl (c : Configuration) : c.Continues c := ⟨rfl, rfl, fun _ => rfl⟩

theorem Continues.held {c' : Configuration} (continues : c.Continues c')
    (held : hasOwnFinalizer c = true) : hasOwnFinalizer c' = true := by
  unfold hasOwnFinalizer Metadata.finalizerList at held ⊢
  rwa [continues.finalizers held]

theorem Continues.trans {c' c'' : Configuration} (first : c.Continues c')
    (second : c'.Continues c'') : c.Continues c'' where
  metadata := by
    rw [second.metadata, first.metadata]
  spec := second.spec.trans first.spec
  finalizers held := (second.finalizers (first.held held)).trans (first.finalizers held)

theorem Continues.lifecycle {c' : Configuration} (continues : c.Continues c') :
    c'.metadata.lifecycle = c.metadata.lifecycle := by
  unfold Metadata.lifecycle
  rw [continues.metadata]

theorem Continues.alike {c' : Configuration} (continues : c.Continues c') : c.Alike c' where
  spec := continues.spec
  ns := by rw [continues.metadata]
  name := by
    rw [continues.metadata]
    rfl

section Alike

variable {c' : Configuration} (alike : c.Alike c')
include alike

theorem Alike.target (settings : Settings) : Target.of settings c' = .of settings c := by
  unfold Target.of
  rw [alike.spec, alike.ns, alike.name]

theorem Alike.bundle (t : Target) : bundle t c' = bundle t c := by
  unfold Reconcile.bundle
  rw [alike.spec]

theorem Alike.publishes : Target.Publishes c' key ↔ Target.Publishes c key := by
  unfold Target.Publishes connectionSecret?
  rw [alike.spec]

theorem Alike.resolveCredentials (resolve : Resolver) (s : Store) :
    resolveCredentials resolve c' s = resolveCredentials resolve c s := by
  unfold Reconcile.resolveCredentials region providerReference
  rw [alike.spec]

theorem Alike.environment (credentials : Dict String String) :
    environment c' credentials = environment c credentials := by
  unfold Reconcile.environment
  rw [alike.spec]

end Alike

/-- The configuration with its generation told. -/
def counted (c : Configuration) : Configuration :=
  { c with metadata := { c.metadata with generation := some (c.metadata.generation.getD 1) } }

/-- What an edit leaves under the key of a configuration: the edited one, with a generation. -/
theorem read_edit {f : Configuration → Configuration} (gentle : Gentle f)
    (spec : (f c).spec = c.spec) (held : s.store.read Configuration key = some c) :
    ∃ c', (s.edit key f).store.read Configuration key = some c' ∧
      c'.metadata = { (f c).metadata with generation := c'.metadata.generation } ∧
      c'.metadata.generation.isSome ∧ c'.spec = c.spec ∧ c'.status = (f c).status := by
  rcases Session.edit_cases gentle held with ⟨stays, alike⟩ | replaced
  · refine ⟨c, by rw [stays, held], ?_, ?_, rfl, ?_⟩
    · have metadata := gentle.metadata c
      have finalizers := Object.finalizers_of_same alike
      simp only [Object.counted, Object.metadata_withMetadata] at finalizers
      change (f c).metadata = { c.metadata with finalizers := (f c).metadata.finalizers } at metadata
      change (f c).metadata.finalizers = c.metadata.finalizers at finalizers
      rw [metadata, finalizers]
    · have generation := Object.generation_of_same alike
      simp only [Object.counted, Object.metadata_withMetadata] at generation
      change _ = c.metadata.generation at generation
      rw [← generation]
      rfl
    · exact (status_of_same alike).symm
  · refine ⟨(f c).counted, Store.read_eq_some_iff.mpr ?_, rfl, rfl, spec, rfl⟩
    rw [replaced, Session.get?_put, if_pos rfl]
    rfl

/-- An edit of a configuration whose generation is told leaves just the edited configuration. -/
theorem read_edit_told {f : Configuration → Configuration} (gentle : Gentle f)
    (spec : (f c).spec = c.spec) (held : s.store.read Configuration key = some c)
    (told : c.metadata.generation.isSome) :
    (s.edit key f).store.read Configuration key = some (f c) := by
  have metadata : (f c).metadata = { c.metadata with finalizers := (f c).metadata.finalizers } :=
    gentle.metadata c
  have generation : (f c).metadata.generation = c.metadata.generation := by rw [metadata]
  obtain ⟨g, here⟩ := Option.isSome_iff_exists.mp told
  have counted : (f c).counted = f c := by
    unfold Configuration.counted
    rw [generation, here, Option.getD_some, ← here, ← generation]
  rcases Session.edit_cases gentle held with ⟨stays, alike⟩ | replaced
  · have same : f c = c := by
      have alike : (Object.configuration (f c).counted).same (.configuration c) = true := alike
      rw [counted] at alike
      have finalizers := Object.finalizers_of_same alike
      have status := Configuration.status_of_same alike
      change (f c).metadata.finalizers = c.metadata.finalizers at finalizers
      rw [finalizers] at metadata
      generalize f c = d at metadata spec status
      obtain ⟨m, p, st⟩ := d
      obtain ⟨m', p', st'⟩ := c
      cases metadata
      cases spec
      cases status
      rfl
    rw [stays, held, same]
  · rw [replaced]
    refine Store.read_eq_some_iff.mpr ?_
    rw [Session.get?_put, if_pos rfl]
    exact congrArg (some <| Object.configuration ·) counted

end Configuration

/-- A note leaves the configuration that it is made on. -/
theorem Note.read_edit {f : Configuration → Configuration} (note : Note f)
    (held : s.store.read Configuration key = some c) :
    ∃ c', (s.edit key f).store.read Configuration key = some c' ∧ c.Continues c' := by
  obtain ⟨c', stored, metadata, -, spec, -⟩ :=
    Configuration.read_edit note.gentle (note.spec c) held
  refine ⟨c', stored, ?_, spec, fun own => ?_⟩
  · rw [metadata, note.metadata c]
  · rw [metadata]
    exact note.finalizers c own

/-- A configuration continues through whatever a pass changes on its way. -/
theorem Changes.configuration {c₀ : Configuration} (changes : Changes t touched s s')
    (apart : ¬ touched t.key) (held : s.store.read Configuration t.key = some c₀) :
    ∃ c', s'.store.read Configuration t.key = some c' ∧ c₀.Continues c' := by
  induction changes with
  | refl => exact ⟨c₀, held, .refl c₀⟩
  | step _ last ih =>
    obtain ⟨c₁, stored, continues⟩ := ih
    cases last with
    | write here =>
      refine ⟨c₁, ?_, continues⟩
      rw [Store.read_congr (Session.get?_write_of_ne _ _ _), stored]
      rintro rfl
      exact apart here
    | delete here =>
      refine ⟨c₁, ?_, continues⟩
      rw [Store.read_congr (Session.get?_delete_of_ne _ _), stored]
      rintro rfl
      exact apart here
    | note note =>
      obtain ⟨c₂, again, further⟩ := note.read_edit stored
      exact ⟨c₂, again, continues.trans further⟩
    | handOver => exact ⟨c₁, stored, continues⟩

/-- What is noted for applying stays, or is one of the states of applying. -/
theorem Changes.applyState {c₀ c' : Configuration} (changes : Changes t touched s s')
    (apart : ¬ touched t.key) (held : s.store.read Configuration t.key = some c₀)
    (left : s'.store.read Configuration t.key = some c') :
    c'.applyState = c₀.applyState ∨
      ∃ state ∈ Configuration.State.ofApplying, c'.applyState = some state := by
  induction changes generalizing c' with
  | refl =>
    rw [held] at left
    cases left
    exact .inl rfl
  | step before last ih =>
    obtain ⟨c₁, stored, -⟩ := before.configuration apart held
    have other : ∀ {k}, touched k → t.key ≠ k := by
      rintro k here rfl
      exact apart here
    cases last with
    | write here =>
      rw [Store.read_congr (Session.get?_write_of_ne _ _ (other here))] at left
      exact ih left
    | delete here =>
      rw [Store.read_congr (Session.get?_delete_of_ne _ (other here))] at left
      exact ih left
    | @note f note =>
      obtain ⟨c₂, again, -, -, -, status⟩ :=
        Configuration.read_edit note.gentle (note.spec c₁) stored
      rw [again] at left
      cases left
      have noted : c'.applyState = (f c₁).applyState := by
        unfold Configuration.applyState
        rw [status]
      rw [noted]
      rcases note.applyState c₁ with stays | listed
      · rw [stays]
        exact ih stored
      · exact .inr listed
    | handOver => exact ih left

end Provisioner
