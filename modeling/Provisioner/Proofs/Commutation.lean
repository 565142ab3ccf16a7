import Provisioner.Proofs.Resemblance
import Provisioner.Proofs.Retention

/-!
Passes over different configurations commute. What one pass changes the other one does not see, save
what the jobs of a common namespace need, and that is made just alike by whichever pass comes first.
So each pass finds, after the other, a session that resembles the one it would have found without
it: it answers the same and leaves the same.
-/

namespace Provisioner

open Reconcile

variable {s : Session} {t u : Target} {a b : Configuration} {key : ObjectKey} {o : Object}
  {settings : Settings} {r r' : Request}

/-- The secrets of one configuration are out of the way of another: its outputs are not asked for
in a secret with outputs, variables, state or credentials of the other, and its credentials are not
in a secret with variables or state of the other. -/
structure Store.Avoids (s : Store) (settings : Settings) (a b : Configuration) : Prop where
  outputs : ∀ key, Target.Publishes a key → ¬ Target.Publishes b key ∧
    key ≠ (Target.of settings b).variableSecretKey ∧ key ≠ (Target.of settings b).stateSecretKey ∧
    s.credentialKey? b ≠ some key
  credentials : ∀ key, s.credentialKey? a = some key →
    key ≠ (Target.of settings b).variableSecretKey ∧ key ≠ (Target.of settings b).stateSecretKey

/-- A configuration that asks for its outputs avoids another one if they are asked for in none of its
secrets. -/
theorem Store.avoids_of_asked {s : Store} {ns name : String}
    (asked : a.connectionSecret? = some (ns, name))
    (outputs : (⟨.secret, ns, name⟩ : ObjectKey) ∉ s.secretKeys (.of settings b) b)
    (credentials : ∀ key ∈ (s.credentialKey? a).toList,
      key ∉ [(Target.of settings b).variableSecretKey, (Target.of settings b).stateSecretKey]) :
    s.Avoids settings a b := by
  simp only [secretKeys, List.mem_append, List.mem_cons, List.not_mem_nil, or_false,
    Option.mem_toList, not_or] at outputs
  obtain ⟨⟨connection, values, state⟩, credential⟩ := outputs
  constructor
  · rintro key ⟨ns', name', asked', rfl⟩
    cases asked.symm.trans asked'
    refine ⟨?_, values, state, credential⟩
    rintro ⟨ns', name', asked', same⟩
    cases same
    exact connection (by rw [asked']; rfl)
  · intro key kept
    simpa using credentials key (Option.mem_toList.mpr kept)

/-- Two different configurations that are stored and out of each other's way. -/
structure Session.Apart (settings : Settings) (s : Session) (r r' : Request)
    (a b : Configuration) : Prop where
  keyed : s.store.WellKeyed
  held : s.store.read Configuration (r.key .configuration) = some a
  held' : s.store.read Configuration (r'.key .configuration) = some b
  names : r.name ≠ r'.name
  avoids : s.store.Avoids settings a b
  avoids' : s.store.Avoids settings b a

namespace Target

/-- What the jobs of a namespace need depends on the namespace only. -/
theorem Provides.of_ns (provides : t.Provides key o) (same : t.ns = u.ns) : u.Provides key o := by
  cases provides with
  | role =>
    unfold roleKey
    rw [same]
    exact .role
  | account =>
    unfold accountKey
    rw [same]
    exact .account
  | binding =>
    unfold bindingKey
    rw [same]
    exact .binding

theorem Provides.ns_of_generates (provides : t.Provides key o) (generates : u.Generates key) :
    t.ns = u.ns := by
  generalize here : key = k at generates
  cases provides with
  | role =>
    cases generates with
    | role => exact (String.append_left_inj _).mp (congrArg ObjectKey.name here)
    | _ => cases congrArg ObjectKey.kind here
  | account =>
    cases generates with
    | account => exact congrArg ObjectKey.ns here
    | _ => cases congrArg ObjectKey.kind here
  | binding =>
    cases generates with
    | binding => exact (String.append_left_inj _).mp (congrArg ObjectKey.name here)
    | _ => cases congrArg ObjectKey.kind here

theorem Touches.cases (touched : t.Touches a key) : t.Generates key ∨ Publishes a key := by
  cases touched with
  | inputBundle => exact .inl .inputBundle
  | variableSecret => exact .inl .variableSecret
  | job e => exact .inl (.job e)
  | role => exact .inl .role
  | binding => exact .inl .binding
  | account => exact .inl .account
  | connection published => exact .inr published

/-- What a pass neither sees nor provides it does not touch. -/
theorem not_touches {credential : Option ObjectKey} (unseen : ¬ t.Sees a credential key)
    (unprovided : ¬ ∃ o, t.Provides key o) :
    key ≠ t.key ∧ ¬ t.Touches a key ∧ key ≠ t.stateSecretKey := by
  refine ⟨?_, fun touched => ?_, ?_⟩
  · rintro rfl
    exact unseen .self
  · cases touched with
    | inputBundle => exact unseen .source
    | variableSecret => exact unseen .values
    | job e => exact unseen (.job e)
    | role => exact unprovided ⟨_, .role⟩
    | binding => exact unprovided ⟨_, .binding⟩
    | account => exact unprovided ⟨_, .account⟩
    | connection published => exact unseen (.connection published)
  · rintro rfl
    exact unseen .state

/-- Of the secrets a pass generates only that of the variables on its way. -/
theorem Generates.variableSecret_of_kind (generates : t.Generates key) (kind : key.kind = .secret) :
    key = t.variableSecretKey := by
  cases generates with
  | variableSecret => rfl
  | _ => cases kind

/-- What is provided for two configurations is the same object. -/
theorem Provides.shared (provides : t.Provides key o) (touched : u.Touches a key) :
    u.Provides key o := by
  rcases touched.cases with generates | published
  · exact provides.of_ns (provides.ns_of_generates generates)
  · rcases provides.kind with kind | kind | kind <;> cases published.kind.symm.trans kind

end Target

namespace Session.Apart

theorem symm (apart : s.Apart settings r r' a b) : s.Apart settings r' r b a :=
  ⟨apart.keyed, apart.held', apart.held, apart.names.symm, apart.avoids', apart.avoids⟩

variable (apart : s.Apart settings r r' a b)
include apart

theorem different : (Target.of settings a).name ≠ (Target.of settings b).name := by
  have here : (Target.of settings a).key = r.key .configuration :=
    Target.key_of (apart.keyed.placed apart.held)
  have there : (Target.of settings b).key = r'.key .configuration :=
    Target.key_of (apart.keyed.placed apart.held')
  intro same
  refine apart.names ?_
  calc r.name = (Target.of settings a).name := (congrArg ObjectKey.name here).symm
    _ = (Target.of settings b).name := same
    _ = r'.name := congrArg ObjectKey.name there

/-- What is generated for one configuration the pass over the other does not touch. -/
theorem untouched_generated (listed : key ∈ generatedKeys (.of settings b)) :
    ¬ (Target.of settings a).Touches a key ∧ key ≠ (Target.of settings a).stateSecretKey := by
  refine ⟨fun touched => ?_, ?_⟩
  · rcases touched.cases with generates | published
    · exact apart.different (same_of_generates generates listed).2
    · obtain ⟨-, values, state, -⟩ := apart.avoids.outputs key published
      simp only [generatedKeys, List.mem_cons, List.not_mem_nil, or_false] at listed
      rcases listed with rfl | rfl | rfl | rfl | rfl
      · cases published.kind
      · exact values rfl
      · exact state rfl
      · cases published.kind
      · cases published.kind
  · rintro rfl
    exact apart.different (name_of_stateSecret listed).symm

/-- What the pass over one configuration sees the pass over the other does not touch. -/
theorem unseen (sees : (Target.of settings b).Sees b (s.store.credentialKey? b) key) :
    key ≠ (Target.of settings a).key ∧ ¬ (Target.of settings a).Touches a key ∧
      key ≠ (Target.of settings a).stateSecretKey := by
  have generated : ∀ {key}, key ∈ generatedKeys (.of settings b) → key.kind ≠ .configuration →
      key ≠ (Target.of settings a).key ∧ ¬ (Target.of settings a).Touches a key ∧
        key ≠ (Target.of settings a).stateSecretKey := by
    intro key listed kind
    exact ⟨fun here => kind (here ▸ rfl), apart.untouched_generated listed⟩
  cases sees with
  | @own e _ listed =>
    simp only [Target.ownKeys, List.mem_cons, List.not_mem_nil, or_false] at listed
    rcases listed with rfl | rfl | rfl | rfl
    · refine ⟨fun same => apart.different (congrArg ObjectKey.name same).symm, ?_, by rintro ⟨⟩⟩
      exact fun touched => touched.not_configuration rfl
    · exact generated (by simp [generatedKeys]) (by rintro ⟨⟩)
    · exact generated (by simp [generatedKeys]) (by rintro ⟨⟩)
    · exact generated (by cases e <;> simp [generatedKeys]) (by rintro ⟨⟩)
  | state => exact generated (by simp [generatedKeys]) (by rintro ⟨⟩)
  | connection published =>
    obtain ⟨-, values, state, -⟩ := apart.avoids'.outputs key published
    refine ⟨fun here => ?_, fun touched => ?_, state⟩
    · cases here ▸ published.kind
    · rcases touched.cases with generates | published'
      · exact values (generates.variableSecret_of_kind published.kind)
      · exact (apart.avoids.outputs key published').1 published
  | provider => exact ⟨by rintro ⟨⟩, fun touched => touched.not_provider rfl, by rintro ⟨⟩⟩
  | credential kept =>
    obtain ⟨values, state⟩ := apart.avoids'.credentials key kept
    have kind := Store.kind_of_credentialKey kept
    refine ⟨fun here => ?_, fun touched => ?_, state⟩
    · cases here ▸ kind
    · rcases touched.cases with generates | published
      · exact values (generates.variableSecret_of_kind kind)
      · exact (apart.avoids.outputs key published).2.2.2 kept

/-! ### After the pass over the other configuration -/

theorem spares (sees : (Target.of settings b).Sees b (s.store.credentialKey? b) key) :
    s.Spares key (s.perform settings Provider.resolve (.pass r)) := by
  obtain ⟨other, untouched, state⟩ := apart.unseen sees
  exact Session.spares_configurationPass apart.keyed apart.held settings _ other untouched state

/-- A pass changes only what it may provide of what jobs need. -/
theorem provides_of_changed (provides : (Target.of settings b).Provides key o)
    (changed : (s.perform settings Provider.resolve (.pass r)).store.get? key ≠ s.store.get? key) :
    (Target.of settings a).Provides key o := by
  refine provides.shared (a := a) (Classical.byContradiction fun untouched => changed ?_)
  refine (Session.spares_configurationPass apart.keyed apart.held settings _ ?_ untouched ?_).entry <;>
  · rintro rfl
    rcases provides.kind with kind | kind | kind <;> cases kind

/-- After the pass over one configuration the other one finds a session that resembles the one
before. -/
theorem resembles :
    s.Resembles (.of settings b) b
      (fun key => (s.perform settings Provider.resolve (.pass r)).store.get? key = s.store.get? key)
      (s.perform settings Provider.resolve (.pass r)) where
  keyed := apart.keyed
  keyed' := Session.wellKeyed_perform apart.keyed _
  now := (Session.steps_configurationPass settings _ apart.keyed apart.held).now
  seen key sees := (apart.spares sees).entry
  shared key o _ same := same
  lent key o provides changed := by
    obtain ⟨there, missing⟩ := Session.provided_configurationPass apart.keyed apart.held settings
      Provider.resolve (apart.provides_of_changed provides changed)
    cases before : s.store.get? key with
    | some p => exact absurd (there (before ▸ rfl)).entry changed
    | none =>
      refine ⟨(missing before).resolve_left fun still => changed ?_, .inl rfl⟩
      exact still.trans before.symm

theorem likewise :
    Pass.Likewise (.of settings b) b
      (fun key => (s.perform settings Provider.resolve (.pass r)).store.get? key = s.store.get? key)
      ((configurationPass settings Provider.resolve r').on s)
      ((configurationPass settings Provider.resolve r').on
        (s.perform settings Provider.resolve (.pass r))) :=
  apart.resembles.configurationPass apart.held'

theorem now_perform : (s.perform settings Provider.resolve (.pass r)).now = s.now :=
  apart.resembles.now

/-- The pass over one configuration leaves the other one stored. -/
theorem held_perform : (s.perform settings Provider.resolve (.pass r)).store.read Configuration
    (r'.key .configuration) = some b := by
  rw [← (Target.key_of (apart.keyed.placed apart.held') : (Target.of settings b).key = _)]
  rw [Store.read_congr (apart.spares .self).entry]
  rw [(Target.key_of (apart.keyed.placed apart.held') : (Target.of settings b).key = _), apart.held']

/-- What the pass over one configuration spares before the other one it spares after it. -/
theorem spares_after (other : key ≠ (Target.of settings a).key)
    (untouched : ¬ (Target.of settings a).Touches a key)
    (state : key ≠ (Target.of settings a).stateSecretKey) :
    ((s.perform settings Provider.resolve (.pass r')).perform settings Provider.resolve
      (.pass r)).store.get? key =
      (s.perform settings Provider.resolve (.pass r')).store.get? key :=
  (Session.spares_configurationPass (Session.wellKeyed_perform apart.keyed _)
    apart.symm.held_perform settings _ other untouched state).entry

/-! ### Both passes -/

/-- What the second pass sees it leaves the same, whether it comes first or last. -/
theorem get?_of_sees (sees : (Target.of settings b).Sees b (s.store.credentialKey? b) key) :
    (s.after settings Provider.resolve [.pass r, .pass r']).store.get? key =
      (s.after settings Provider.resolve [.pass r', .pass r]).store.get? key := by
  obtain ⟨other, untouched, state⟩ := apart.unseen sees
  have provider : (s.perform settings Provider.resolve (.pass r')).store.get? b.providerKey =
      s.store.get? b.providerKey :=
    Session.get?_configurationPass_of_kind apart.keyed nofun (.inr rfl)
  have sees' := (Store.credentialKey?_congr provider).symm ▸ sees
  calc (s.after settings Provider.resolve [.pass r, .pass r']).store.get? key
      = (s.perform settings Provider.resolve (.pass r')).store.get? key :=
        apart.likewise.left.seen key sees'
    _ = (s.after settings Provider.resolve [.pass r', .pass r]).store.get? key :=
        (apart.spares_after other untouched state).symm

/-- What jobs need is the same in the end, whichever pass provides it. -/
theorem get?_of_provides (provides : (Target.of settings b).Provides key o) :
    (s.after settings Provider.resolve [.pass r, .pass r']).store.get? key =
      (s.after settings Provider.resolve [.pass r', .pass r]).store.get? key := by
  have last := apart.likewise.left
  have last' := apart.symm.likewise.left
  by_cases same : (s.perform settings Provider.resolve (.pass r)).store.get? key = s.store.get? key
  · refine (last.shared key o provides same).trans ?_
    by_cases mine : (Target.of settings a).Provides key o
    · by_cases same' :
        (s.perform settings Provider.resolve (.pass r')).store.get? key = s.store.get? key
      · exact (same'.trans same.symm).trans (last'.shared key o mine same').symm
      · refine (apart.symm.resembles.lent key o mine same').1.trans ?_
        rw [← apart.now_perform]
        exact (last'.lent key o mine same').1.symm
    · refine (apart.spares_after ?_ (fun touched => mine (provides.shared touched)) ?_).symm <;>
      · rintro rfl
        rcases provides.kind with kind | kind | kind <;> cases kind
  · have mine := apart.provides_of_changed provides same
    refine (last.lent key o provides same).1.trans ?_
    by_cases same' :
      (s.perform settings Provider.resolve (.pass r')).store.get? key = s.store.get? key
    · refine Eq.trans ?_ (last'.shared key o mine same').symm
      refine Eq.trans ?_ (apart.resembles.lent key o provides same).1.symm
      exact congrArg (some <| o.asNew ·) apart.symm.now_perform
    · refine Eq.trans ?_ (last'.lent key o mine same').1.symm
      exact congrArg (some <| o.asNew ·) (apart.symm.now_perform.trans apart.now_perform.symm)

/-- Whatever is under a key, it is the same after both passes in either order. -/
theorem get?_after (key : ObjectKey) :
    (s.after settings Provider.resolve [.pass r, .pass r']).store.get? key =
      (s.after settings Provider.resolve [.pass r', .pass r]).store.get? key := by
  by_cases sees : (Target.of settings b).Sees b (s.store.credentialKey? b) key
  · exact apart.get?_of_sees sees
  by_cases sees' : (Target.of settings a).Sees a (s.store.credentialKey? a) key
  · exact (apart.symm.get?_of_sees sees').symm
  by_cases provides : ∃ o, (Target.of settings b).Provides key o
  · exact apart.get?_of_provides provides.choose_spec
  by_cases provides' : ∃ o, (Target.of settings a).Provides key o
  · exact (apart.symm.get?_of_provides provides'.choose_spec).symm
  obtain ⟨other, untouched, state⟩ := Target.not_touches sees provides
  obtain ⟨other', untouched', state'⟩ := Target.not_touches sees' provides'
  have first := Session.spares_configurationPass apart.keyed apart.held settings Provider.resolve
    other' untouched' state'
  have second := Session.spares_configurationPass apart.keyed apart.held' settings Provider.resolve
    other untouched state
  calc (s.after settings Provider.resolve [.pass r, .pass r']).store.get? key
      = (s.perform settings Provider.resolve (.pass r)).store.get? key :=
        apart.symm.spares_after other untouched state
    _ = s.store.get? key := first.entry
    _ = (s.perform settings Provider.resolve (.pass r')).store.get? key := second.entry.symm
    _ = (s.after settings Provider.resolve [.pass r', .pass r]).store.get? key :=
        (apart.spares_after other' untouched' state').symm

theorem listeners_perform :
    (s.perform settings Provider.resolve (.pass r)).store.listeners = s.store.listeners :=
  (Session.steps_configurationPass settings _ apart.keyed apart.held).listeners

theorem listeners_after :
    (s.after settings Provider.resolve [.pass r, .pass r']).store.listeners = s.store.listeners :=
  (Session.steps_configurationPass settings _ (Session.wellKeyed_perform apart.keyed _)
    apart.held_perform).listeners.trans apart.listeners_perform

theorem store_after :
    (s.after settings Provider.resolve [.pass r, .pass r']).store =
      (s.after settings Provider.resolve [.pass r', .pass r]).store := by
  have items := Dict.ext_get? apart.get?_after
  have listeners := apart.listeners_after.trans apart.symm.listeners_after.symm
  cases left : (s.after settings Provider.resolve [.pass r, .pass r']).store
  cases right : (s.after settings Provider.resolve [.pass r', .pass r]).store
  rw [left, right] at items listeners
  cases items
  cases listeners
  rfl

end Session.Apart

/-- Passes over two configurations of different names commute. If neither asks for its outputs in a
secret of the other, nor has its credentials where the other keeps variables or state, both orders
leave the same store, and each pass answers what it would answer alone. -/
theorem passes_commute (settings : Settings) (s : Session) (r r' : Request) (a b : Configuration)
    (keyed : s.store.WellKeyed)
    (found : s.store.get? (r.key .configuration) = some (.configuration a))
    (found' : s.store.get? (r'.key .configuration) = some (.configuration b))
    (names : r.name ≠ r'.name)
    (avoids : s.store.Avoids settings a b) (avoids' : s.store.Avoids settings b a) :
    let pass (r : Request) (s : Session) := (configurationPass settings Provider.resolve r).on s
    (pass r' (pass r s).2).2.store = (pass r (pass r' s).2).2.store ∧
    (pass r' (pass r s).2).1 = (pass r' s).1 ∧
    (pass r (pass r' s).2).1 = (pass r s).1 := by
  intro pass
  have apart : s.Apart settings r r' a b :=
    ⟨keyed, Store.read_eq_some_iff.mpr found, Store.read_eq_some_iff.mpr found', names, avoids,
      avoids'⟩
  exact ⟨apart.store_after, apart.likewise.answer, apart.symm.likewise.answer⟩

namespace Sample

/-- A configuration that asks for its outputs. -/
def asking (name secret : String) : Configuration where
  metadata := { name := some name, ns := some "prod" }
  spec := { hcl := some "# nothing", writeConnectionSecretToRef := some ⟨secret, some "prod"⟩ }

def secondRequest : Request := ⟨"prod", "db"⟩

/-- Two configurations of a namespace with the same provider, which is ready. -/
def neighbours : Session where
  store :=
    { items := .ofList
        [(request.key .configuration, .configuration (asking "web" "web-outputs")),
         (secondRequest.key .configuration, .configuration (asking "db" "db-outputs")),
         (providerRequest.key .provider,
          .provider { provider "credentials" with status := some { state := some .ready } }),
         (⟨.secret, "prod", "account"⟩, .secret account)]
      listeners := ∅ }
  now := ⟨0, 0⟩

end Sample

/-- Neighbours share a provider and the objects that their jobs need, and their passes commute. -/
theorem passes_commute_neighbours :
    Sample.neighbours.store.WellKeyed ∧
    Sample.neighbours.store.Avoids {} (Sample.asking "web" "web-outputs")
      (Sample.asking "db" "db-outputs") ∧
    Sample.neighbours.store.Avoids {} (Sample.asking "db" "db-outputs")
      (Sample.asking "web" "web-outputs") ∧
    let pass (r : Request) (s : Session) := (configurationPass {} Provider.resolve r).on s
    (pass Sample.secondRequest (pass Sample.request Sample.neighbours).2).2.store =
      (pass Sample.request (pass Sample.secondRequest Sample.neighbours).2).2.store := by
  have keyed : Sample.neighbours.store.WellKeyed := Store.wellKeyed_ofList (by decide)
  have avoids : Sample.neighbours.store.Avoids {} (Sample.asking "web" "web-outputs")
      (Sample.asking "db" "db-outputs") := Store.avoids_of_asked rfl (by decide) (by decide)
  have avoids' : Sample.neighbours.store.Avoids {} (Sample.asking "db" "db-outputs")
      (Sample.asking "web" "web-outputs") := Store.avoids_of_asked rfl (by decide) (by decide)
  have found : Sample.neighbours.store.get? (Sample.request.key .configuration) =
      some (.configuration (Sample.asking "web" "web-outputs")) := rfl
  have found' : Sample.neighbours.store.get? (Sample.secondRequest.key .configuration) =
      some (.configuration (Sample.asking "db" "db-outputs")) := rfl
  have commute := passes_commute {} Sample.neighbours Sample.request Sample.secondRequest _ _ keyed
    found found' (by decide) avoids avoids'
  exact ⟨keyed, avoids, avoids', commute.1⟩

end Provisioner
