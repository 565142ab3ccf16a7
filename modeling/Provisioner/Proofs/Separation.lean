import Provisioner.Proofs.History

/-!
Whose objects a pass may change. The names of generated objects tell the configurations of a
namespace apart, so of all that is generated for two configurations only the state secret can be one
and the same: it is in a namespace that all share, under the name of the configuration alone. What a
pass writes on its way is either generated for its own configuration or the secret that this asks
for its outputs in, and a user may ask for any secret. Nothing here needs objects to be under their
own keys.
-/

namespace Provisioner

open Reconcile

variable {s s' : Session} {t u : Target} {c : Configuration} {key : ObjectKey}
  {settings : Settings} {resolve : Resolver} {request : Request}

/-! ### Names -/

namespace Names

variable {name name' : String}

theorem inputBundle_injective (same : inputBundle name = inputBundle name') : name = name' :=
  (String.append_right_inj _).mp same

theorem variableSecret_injective (same : variableSecret name = variableSecret name') :
    name = name' :=
  (String.append_right_inj _).mp same

theorem stateSecret_injective (same : stateSecret name = stateSecret name') : name = name' :=
  (String.append_right_inj _).mp same

theorem stateSecret_ne_variableSecret (name name' : String) :
    stateSecret name ≠ variableSecret name' := by
  intro same
  have first : ("tfstate-default-" ++ name).toList.head? = ("variable-" ++ name').toList.head? :=
    congrArg (·.toList.head?) same
  simp at first

end Names

/-- The name of a job tells its configuration, and the last letters of it what it does. -/
theorem Target.jobName_injective {e e' : Execution} (same : t.jobName e = u.jobName e') :
    t.name = u.name ∧ e = e' := by
  have letters := congrArg (·.toList.reverse) same
  cases e <;> cases e' <;> simp [Target.jobName, Execution.word] at letters <;>
    exact ⟨String.toList_inj.mp letters, rfl⟩

namespace Reconcile

/-- What is removed in the end was written on the way, apart from the state secret. -/
theorem generated_cases (listed : key ∈ generatedKeys t) :
    t.Generates key ∨ key = t.stateSecretKey := by
  simp only [generatedKeys, List.mem_cons, List.not_mem_nil, or_false] at listed
  rcases listed with rfl | rfl | rfl | rfl | rfl
  · exact .inl .inputBundle
  · exact .inl .variableSecret
  · exact .inr rfl
  · exact .inl (.job .apply)
  · exact .inl (.job .destroy)

/-- What is written for one target is generated for another only if they are the same. -/
theorem same_of_generates (generates : t.Generates key) (listed : key ∈ generatedKeys u) :
    t.ns = u.ns ∧ t.name = u.name := by
  simp only [generatedKeys, List.mem_cons, List.not_mem_nil, or_false] at listed
  cases generates with
  | inputBundle =>
    rcases listed with same | same | same | same | same <;> try cases congrArg ObjectKey.kind same
    exact ⟨congrArg ObjectKey.ns same, Names.inputBundle_injective (congrArg ObjectKey.name same)⟩
  | variableSecret =>
    rcases listed with same | same | same | same | same <;> try cases congrArg ObjectKey.kind same
    · exact ⟨congrArg ObjectKey.ns same,
        Names.variableSecret_injective (congrArg ObjectKey.name same)⟩
    · exact absurd (congrArg ObjectKey.name same.symm) (Names.stateSecret_ne_variableSecret _ _)
  | job e =>
    rcases listed with same | same | same | same | same <;> try cases congrArg ObjectKey.kind same
    all_goals
      exact ⟨congrArg ObjectKey.ns same,
        (Target.jobName_injective (congrArg ObjectKey.name same)).1⟩
  | role | binding | account =>
    rcases listed with same | same | same | same | same <;> cases congrArg ObjectKey.kind same

/-- The secret of a state is generated for no target but those of its name. -/
theorem name_of_stateSecret {ns name : String}
    (listed : (⟨.secret, ns, Names.stateSecret name⟩ : ObjectKey) ∈ generatedKeys t) :
    t.name = name := by
  simp only [generatedKeys, List.mem_cons, List.not_mem_nil, or_false] at listed
  rcases listed with same | same | same | same | same <;> try cases congrArg ObjectKey.kind same
  · exact absurd (congrArg ObjectKey.name same) (Names.stateSecret_ne_variableSecret _ _)
  · exact (Names.stateSecret_injective (congrArg ObjectKey.name same)).symm

/-- All that can be generated for two targets at once is the state secret. -/
theorem shared_generated (first : key ∈ generatedKeys t) (second : key ∈ generatedKeys u) :
    t.ns = u.ns ∧ t.name = u.name ∨ key = t.stateSecretKey ∧ t.name = u.name := by
  rcases generated_cases first with generates | rfl
  · exact .inl (same_of_generates generates second)
  · exact .inr ⟨rfl, (name_of_stateSecret second).symm⟩

end Reconcile

/-! ### Secrets for outputs -/

/-- A configuration lays a key open if its outputs may be written there: it asks for them in the
secret under that key or in one that bears it, and the labels of that secret, if there is one, name
no other owner. -/
def Store.Exposes (s : Store) (t : Target) (c : Configuration) (key : ObjectKey) : Prop :=
  ∃ ns name, c.connectionSecret? = some (ns, name) ∧
    (s.read Secret ⟨.secret, ns, name⟩ = none ∧ key = ⟨.secret, ns, name⟩ ∨
      ∃ secret, s.read Secret ⟨.secret, ns, name⟩ = some secret ∧
        Outputs.otherOwner? secret t = none ∧
        (key = ⟨.secret, ns, name⟩ ∨ (Resource.wrap secret).key? = some key))

namespace Store

theorem Exposes.kind {s : Store} (exposed : s.Exposes t c key) : key.kind = .secret := by
  obtain ⟨ns, name, -, ⟨-, rfl⟩ | ⟨secret, -, -, rfl | bears⟩⟩ := exposed
  · rfl
  · rfl
  · exact Metadata.kind_of_key? ((key?_wrap secret).symm.trans bears)

/-- Outputs are published everywhere but under a key that is not laid open. -/
theorem admits_of_not_exposes {s : Store} (hidden : ¬ s.Exposes t c key) :
    s.Admits t c (· ≠ key) := by
  intro ns name asked
  refine ⟨fun missing here => ?_, fun secret own found free bears here => ?_⟩
  · exact hidden ⟨ns, name, asked, .inl ⟨missing, here.symm⟩⟩
  · exact hidden ⟨ns, name, asked, .inr ⟨secret, found, free, .inr (here ▸ bears)⟩⟩

/-- A key that is not laid open is not cleaned up with the outputs. -/
theorem not_own_of_not_exposes {s s' : Store} (hidden : ¬ s.Exposes t c key)
    (same : s'.get? key = s.get? key) : ownConnectionKey? t c s' ≠ some key := by
  intro own
  unfold ownConnectionKey? at own
  obtain ⟨⟨ns, name⟩, asked, own⟩ := Option.bind_eq_some_iff.mp own
  dsimp only at own
  split at own
  · rename_i secret found
    split at own
    · rename_i free
      cases own
      have free := Option.isNone_iff_eq_none.mp free
      refine hidden ⟨ns, name, asked, .inr ⟨secret, ?_, free, .inl rfl⟩⟩
      rw [← Store.read_congr same]
      exact Store.read_of_find found
    · cases own
  · cases own

end Store

/-! ### Passes -/

/-- A configuration that waits to go is let go: its cloud resources are kept, or there are none, or
the pass finds them destroyed. -/
def Session.Releases (s : Session) (settings : Settings) (resolve : Resolver) (c : Configuration) :
    Prop :=
  c.metadata.lifecycle = .terminating ∧ hasOwnFinalizer c = true ∧
    ((Target.of settings c).deleteResource = false ∨ isDeletable c s.store = .ok true ∨
      ((destroyResources settings resolve (.of settings c) c).on s).1 = .ok ())

/-- Changes elsewhere do not lay a key open. -/
theorem Changes.hidden (changes : Changes t (· ≠ key) s s') (other : key ≠ t.key)
    (hidden : ¬ s.store.Exposes t c key) : ¬ s'.store.Exposes t c key := by
  have same := changes.get? other fun apart => apart rfl
  rintro ⟨ns, name, asked, ⟨missing, rfl⟩ | ⟨secret, found, free, rfl | bears⟩⟩
  · rw [Store.read_congr same] at missing
    exact hidden ⟨ns, name, asked, .inl ⟨missing, rfl⟩⟩
  · rw [Store.read_congr same] at found
    exact hidden ⟨ns, name, asked, .inr ⟨secret, found, free, .inl rfl⟩⟩
  · have admits := changes.admits (Store.admits_of_not_exposes hidden)
    exact (admits ns name asked).2 secret key found free bears rfl

theorem Pass.Confined.keeps {α : Type} {p : Pass α} (confined : Confined t c (· ≠ key) p)
    (hidden : ¬ s.store.Exposes t c key) (other : key ≠ t.key) :
    (p.on s).2.store.get? key = s.store.get? key :=
  (confined s (Store.admits_of_not_exposes hidden)).get? other fun apart => apart rfl

namespace Reconcile

/-- Letting a configuration go removes what is generated for it and the secret that it received its
outputs in, and nothing else, however far it gets. -/
theorem get?_release (other : key ≠ t.key) (kept : key ∉ generatedKeys t)
    (hidden : ¬ s.store.Exposes t c key) :
    ((release t c).on s).2.store.get? key = s.store.get? key := by
  have noted := Session.get?_edit_of_ne s
    (withDestroyStatus .destroyed "Cloud resources are destroyed") other
  have cleaned : (Session.cleanup (s.edit t.key (withDestroyStatus .destroyed
      "Cloud resources are destroyed")) t c).store.get? key = s.store.get? key := by
    refine (Session.get?_deleteAll_of_not_mem fun listed => ?_).trans noted
    rcases List.mem_append.mp listed with generated | own
    · exact kept generated
    · exact Store.not_own_of_not_exposes hidden noted (Option.mem_toList.mp own)
  have released := (Session.get?_edit_of_ne _ withoutOwnFinalizer other).trans cleaned
  rcases snd_release t c s with same | same <;> rw [same]
  · exact (Session.get?_delete_of_ne _ other).trans released
  · exact released

/-- What destroying leaves, whatever is in the store: nothing has changed, or it has come no further
than its job, or it has let the configuration go. -/
theorem destroy_leaves (settings : Settings) (resolve : Resolver) (t : Target) (c : Configuration)
    (s : Session) :
    ((destroy settings resolve t c).on s).2 = s ∨
      ((destroy settings resolve t c).on s).2 = ((destroyResources settings resolve t c).on s).2 ∨
      (hasOwnFinalizer c = true ∧
        (t.deleteResource = false ∨ isDeletable c s.store = .ok true ∨
          ((destroyResources settings resolve t c).on s).1 = .ok ())) ∧
        (((destroy settings resolve t c).on s).2 = ((release t c).on s).2 ∨
          ((destroy settings resolve t c).on s).2 =
            ((release t c).on ((destroyResources settings resolve t c).on s).2).2) := by
  unfold destroy
  split
  · exact .inl rfl
  rename_i own
  have own : hasOwnFinalizer c = true := by simpa using own
  rw [Pass.on_bind, Pass.on_ask]
  cases asked : isDeletable c s.store with
  | error e => exact .inl rfl
  | ok deletable =>
    dsimp only
    split
    · rw [Pass.on_bind]
      rcases (destroyResources settings resolve t c).on s with ⟨e | _, s'⟩
      · exact .inr (.inl rfl)
      · exact .inr (.inr ⟨⟨own, .inr (.inr rfl)⟩, .inr rfl⟩)
    · rename_i free
      refine .inr (.inr ⟨⟨own, ?_⟩, .inl rfl⟩)
      cases deletable with
      | true => exact .inr (.inl rfl)
      | false => exact .inl (by simpa using free)

/-- Destroying keeps what is neither generated nor laid open, and the state secret unless it lets
the configuration go. -/
theorem get?_destroy (settings : Settings) (resolve : Resolver) (other : key ≠ t.key)
    (apart : ¬ t.Generates key)
    (hidden : ¬ s.store.Exposes t c key) :
    ((destroy settings resolve t c).on s).2.store.get? key = s.store.get? key ∨
      key = t.stateSecretKey ∧ hasOwnFinalizer c = true ∧
        (t.deleteResource = false ∨ isDeletable c s.store = .ok true ∨
          ((destroyResources settings resolve t c).on s).1 = .ok ()) := by
  have included : ∀ k, t.Generates k → k ≠ key := fun k generates here => apart (here ▸ generates)
  have confined : Pass.Confined t c (· ≠ key) (destroyResources settings resolve t c) :=
    confined_destroyResources included
  have changes := confined s (Store.admits_of_not_exposes hidden)
  have first := changes.get? other fun apart => apart rfl
  rcases destroy_leaves settings resolve t c s with same | same | ⟨free, released⟩
  · exact .inl (by rw [same])
  · exact .inl (by rw [same, first])
  by_cases generated : key ∈ generatedKeys t
  · exact .inr ⟨(generated_cases generated).resolve_left apart, free⟩
  · rcases released with same | same <;> rw [same]
    · exact .inl (get?_release other generated hidden)
    · exact .inl ((get?_release other generated (changes.hidden other hidden)).trans first)

/-- A pass over a configuration keeps what is neither generated for it nor laid open by it, and its
state secret unless it lets the configuration go. -/
theorem get?_pass {settings : Settings} (resolve : Resolver)
    (found : s.store.read Configuration (request.key .configuration) = some c)
    (kind : key.kind ≠ .configuration) (apart : ¬ (Target.of settings c).Generates key)
    (hidden : ¬ s.store.Exposes (.of settings c) c key) :
    ((configurationPass settings resolve request).on s).2.store.get? key = s.store.get? key ∨
      key = (Target.of settings c).stateSecretKey ∧ s.Releases settings resolve c := by
  have other : key ≠ (Target.of settings c).key := fun here => kind (congrArg ObjectKey.kind here)
  rw [on_configurationPass_of_read found]
  unfold pursue
  cases lifecycle : c.metadata.lifecycle with
  | active =>
    have included : ∀ k, (Target.of settings c).Generates k → k ≠ key :=
      fun k generates here => apart (here ▸ generates)
    exact .inl ((confined_apply included fun own placed => (Target.key_of placed).symm).keeps hidden
      other)
  | terminating =>
    rcases get?_destroy settings resolve other apart hidden with
      same | ⟨state, own, free⟩
    · exact .inl same
    · exact .inr ⟨state, lifecycle, own, free⟩

/-- Passes over one configuration leave alone what is generated for another. All that the two can
share is the state secret, if they have one name in different namespaces; a pass then takes it
only when it lets its own configuration go. Apart from that a pass changes no secret of the other
but one that its own configuration lays open by asking for its outputs there, and never its
source or jobs. -/
theorem separation (settings : Settings) (resolve : Resolver) (s : Session) (request : Request)
    (a b : Configuration)
    (found : s.store.read Configuration (request.key .configuration) = some a)
    (apart : (Target.of settings a).ns ≠ (Target.of settings b).ns ∨
      (Target.of settings a).name ≠ (Target.of settings b).name) :
    (∀ key ∈ generatedKeys (.of settings a), key ∈ generatedKeys (.of settings b) →
      key = (Target.of settings a).stateSecretKey ∧
        (Target.of settings a).name = (Target.of settings b).name) ∧
    ∀ key ∈ generatedKeys (.of settings b),
      ((configurationPass settings resolve request).on s).2.store.get? key = s.store.get? key ∨
      key.kind = .secret ∧
        (s.store.Exposes (.of settings a) a key ∨
          key = (Target.of settings a).stateSecretKey ∧
            (Target.of settings a).name = (Target.of settings b).name ∧
            s.Releases settings resolve a) := by
  have different : ¬ ((Target.of settings a).ns = (Target.of settings b).ns ∧
      (Target.of settings a).name = (Target.of settings b).name) :=
    fun ⟨ns, name⟩ => apart.elim (· ns) (· name)
  refine ⟨fun key first second => (shared_generated first second).resolve_left different,
    fun key listed => ?_⟩
  by_cases exposed : s.store.Exposes (.of settings a) a key
  · exact .inr ⟨exposed.kind, .inl exposed⟩
  · rcases get?_pass resolve found (Session.not_configuration_of_generated listed)
      (fun generates => different (same_of_generates generates listed)) exposed with
      same | ⟨rfl, released⟩
    · exact .inl same
    · exact .inr ⟨rfl, .inr ⟨rfl, (name_of_stateSecret listed).symm, released⟩⟩

end Reconcile

namespace Sample

/-- A configuration of the same name in another namespace. It waits to go, and it has asked for its
outputs in the secret that the variables of the first one are kept in. -/
def twin : Configuration where
  metadata :=
    { name := some "web", ns := some "staging", finalizers := some [Names.finalizer],
      generation := some 1, deletionTimestamp := some ⟨0, 0⟩ }
  spec := { writeConnectionSecretToRef := some { name := "variable-web", ns := some "prod" } }

def twinRequest : Request := ⟨"staging", "web"⟩

/-- Both configurations, and what was generated for the first. -/
def twins : Session where
  store :=
    { items := .ofList
        [(Sample.request.key .configuration, .configuration configuration),
         (twinRequest.key .configuration, .configuration twin),
         (⟨.configMap, "prod", "tf-web"⟩,
          .configMap { metadata := { name := some "tf-web", ns := some "prod" } }),
         (⟨.secret, "prod", "variable-web"⟩, .secret (.ofTexts "prod" "variable-web" ∅ none)),
         (⟨.secret, "vela-system", "tfstate-default-web"⟩,
          .secret (.ofTexts "vela-system" "tfstate-default-web" ∅ none))]
      listeners := ∅ }
  now := ⟨0, 0⟩

end Sample

/-- The source of the first configuration stays when the pass lets its twin go. -/
theorem separation_sample :
    Sample.twins.store.read Configuration (Sample.twinRequest.key .configuration) =
      some Sample.twin ∧
    (Target.of {} Sample.twin).ns ≠ (Target.of {} Sample.configuration).ns ∧
    ((configurationPass {} Sample.anonymous Sample.twinRequest).on Sample.twins).2.store.get?
        (Target.of {} Sample.configuration).inputBundleKey =
      Sample.twins.store.get? (Target.of {} Sample.configuration).inputBundleKey := by
  have found : Sample.twins.store.read Configuration (Sample.twinRequest.key .configuration) =
      some Sample.twin := rfl
  have apart : (Target.of {} Sample.twin).ns ≠ (Target.of {} Sample.configuration).ns := by
    decide
  refine ⟨found, apart, ?_⟩
  exact ((separation {} Sample.anonymous Sample.twins Sample.twinRequest Sample.twin
    Sample.configuration found (.inl apart)).2 _ List.mem_cons_self).resolve_right
      fun ⟨kind, _⟩ => nomatch kind

/-- Both exceptions are real. The pass that lets the twin go takes the state secret and the
variables of the first configuration, which differs from it in its namespace and is not asked to
go. -/
theorem twin_takes_secrets :
    Sample.twins.store.read Configuration (Sample.request.key .configuration) =
      some Sample.configuration ∧
    (Target.of {} Sample.twin).ns ≠ (Target.of {} Sample.configuration).ns ∧
    ∀ key ∈ [(Target.of {} Sample.configuration).stateSecretKey,
        (Target.of {} Sample.configuration).variableSecretKey],
      (Sample.twins.store.get? key).isSome = true ∧
      ((configurationPass {} Sample.anonymous Sample.twinRequest).on
        Sample.twins).2.store.get? key = none :=
  ⟨rfl, by decide, by decide +kernel⟩

end Provisioner
