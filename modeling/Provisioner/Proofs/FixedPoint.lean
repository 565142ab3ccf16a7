import Provisioner.Proofs.Alignment
import Provisioner.Proofs.History
import Provisioner.Proofs.Reading
import Provisioner.Proofs.Recording

/-!
Passes over an active configuration come to rest. The first pass may only hold the configuration and
keep its source, or it runs the source at once; the second pass runs it in any case. Once a run has
ended all is aligned, everything that is provided is there, and what was recorded is absorbed, so
that every further pass finds what the one before it found, does nothing, and answers the same.
-/

namespace Provisioner

open Reconcile
open Executor (Inputs)

variable {s s' : Session} {t : Target} {c c₁ : Configuration} {b : Bundle}
  {env : Dict String String} {settings : Settings} {request : Request} {key : ObjectKey}

/-! ### Sources -/

/-- A specification that is valid has a source that can be used and variables that have texts. -/
theorem Terraform.of_validate {spec : Configuration.Spec} {type : Configuration.SourceType}
    (validated : validate spec = .ok type) :
    checkSource spec type = .ok () ∧ ∃ env, variableEnv spec.values = .ok env := by
  unfold validate at validated
  cases source : sourceType spec with
  | error fault =>
    rw [source] at validated
    cases validated
  | ok found =>
    rw [source] at validated
    cases checked : checkSource spec found with
    | error fault =>
      simp only [bind, Except.bind, checked] at validated
      cases validated
    | ok _ =>
      cases settled : variableEnv spec.values with
      | error fault =>
        simp only [bind, Except.bind, checked, settled] at validated
        cases validated
      | ok env =>
        simp only [bind, Except.bind, checked, settled] at validated
        cases validated
        exact ⟨checked, env, rfl⟩

/-- Whether a backend can be set does not depend on the backend. -/
theorem Terraform.isSome_withBackend (backend other document : Json) :
    (withBackend backend document).isSome = (withBackend other document).isSome := by
  unfold withBackend
  rw [Option.isSome_map, Option.isSome_map]
  generalize (document.member? "terraform").getD (.obj []) = block
  cases block with
  | arr elements =>
    cases elements with
    | nil => rfl
    | cons first rest => cases first <;> rfl
  | _ => rfl

/-- A document that can be used is an object in which any backend can be set, and is read alike when
it is looked over and when it is rendered. -/
theorem Terraform.document_of_check {spec : Configuration.Spec}
    (checked : checkSource spec .json = .ok ()) :
    ∃ members, Json.ofText (spec.json.getD "") = .ok (.obj members) ∧
      sourceDocument (spec.json.getD "") = .ok (.obj members) ∧
      ∀ backend, ∃ rendered, withBackend backend (.obj members) = some rendered := by
  unfold checkSource at checked
  simp only at checked
  split at checked
  · cases checked
  · rename_i members read
    split at checked
    · rename_i settable
      refine ⟨members, read, sourceDocument_of_object read, fun backend => ?_⟩
      rw [isSome_withBackend _ backend] at settable
      exact Option.isSome_iff_exists.mp settable
    · cases checked
  · cases checked

/-- Where the source of a specification can be used it can be rendered. -/
theorem Terraform.render_of_check {spec : Configuration.Spec} {type : Configuration.SourceType}
    (checked : checkSource spec type = .ok ()) (name ns : String) :
    ∃ text, render spec type name ns = .ok text := by
  cases type with
  | hcl => exact ⟨_, rfl⟩
  | remote => exact ⟨_, rfl⟩
  | json =>
    obtain ⟨members, -, read, settable⟩ := document_of_check checked
    obtain ⟨rendered, set⟩ := settable (backendJson name ns)
    unfold render
    rw [read]
    simp only [mapError_ok, bind, Except.bind, set]
    exact ⟨_, rfl⟩

namespace Reconcile

/-- The source of a valid specification can be run. -/
theorem bundle_of_validate {type : Configuration.SourceType}
    (validated : Terraform.validate c.spec = .ok type) (t : Target) :
    ∃ text, Terraform.render c.spec type t.name t.stateNs = .ok text ∧
      bundle t c = .ok ⟨type, text⟩ := by
  obtain ⟨checked, -⟩ := Terraform.of_validate validated
  obtain ⟨text, rendered⟩ := Terraform.render_of_check checked t.name t.stateNs
  refine ⟨text, rendered, ?_⟩
  unfold bundle
  rw [validated]
  simp only [mapError_ok, bind, Except.bind, rendered]
  rfl

/-- A source that cannot be run is always one that is found to be invalid. -/
theorem invalid_of_bundle {e : Error} (failed : bundle t c = .error e) :
    ∃ fault, e = .invalid fault := by
  cases validated : Terraform.validate c.spec with
  | error fault =>
    unfold bundle at failed
    rw [validated] at failed
    cases failed
    exact ⟨fault, rfl⟩
  | ok type =>
    obtain ⟨text, -, bundled⟩ := bundle_of_validate validated t
    cases bundled.symm.trans failed

/-- Where the source can be run there is an environment to run it in. -/
theorem environment_of_bundle (bundled : bundle t c = .ok b) (credentials : Dict String String) :
    ∃ env, environment c credentials = .ok env := by
  unfold bundle at bundled
  cases validated : Terraform.validate c.spec with
  | error fault =>
    rw [validated] at bundled
    cases bundled
  | ok type =>
    obtain ⟨-, env, settled⟩ := Terraform.of_validate validated
    refine ⟨env.overlay credentials, ?_⟩
    unfold environment
    rw [settled]
    rfl

end Reconcile

/-! ### Getting ready -/

namespace Session

/-- Getting ready leaves everything alone but what is provided and the configuration. -/
theorem get?_ready (settings : Settings)
    (kinds : key.kind ≠ .job ∧ key.kind ≠ .serviceAccount ∧ key.kind ≠ .clusterRoleBinding)
    (role : key ≠ t.roleKey) (secret : key ≠ t.variableSecretKey) (other : key ≠ t.key) :
    (s.ready settings t b env).store.get? key = s.store.get? key :=
  (get?_converge settings _ _ kinds secret).trans (get?_beforeJob role secret other _)

/-- Of the configuration, getting ready notes no more than that variables have changed. -/
theorem read_ready_eq (settings : Settings) (b : Bundle) (env : Dict String String) :
    (s.ready settings t b env).store.read Configuration t.key =
      ((s.settleVariables t env).reload t
        (s.store.variablesDiffer t env)).store.read Configuration t.key :=
  Store.read_congr ((get?_converge settings _ _ ⟨by nofun, by nofun, by nofun⟩ (by nofun)).trans
    (get?_provide_of_ne _ _ (by nofun)))

theorem read_ready (settings : Settings) (env : Dict String String)
    (held : s.store.read Configuration t.key = some c₁) :
    ∃ c₂, (s.ready settings t b env).store.read Configuration t.key = some c₂ ∧
      (c₁.metadata.generation.isSome → c₂.metadata.generation.isSome) := by
  have settled : (s.settleVariables t env).store.read Configuration t.key = some c₁ :=
    (Store.read_congr (get?_provide_of_ne _ _ (by nofun))).trans held
  rw [read_ready_eq]
  unfold reload
  split
  · obtain ⟨c₂, found, -, told⟩ := read_noted .reloading
      "Configuration's variable has changed, and starts reloading" ∅ settled
    exact ⟨c₂, found, fun _ => told⟩
  · exact ⟨c₁, settled, id⟩

theorem isSome_role_ready (settings : Settings) :
    ((s.ready settings t b env).store.get? t.roleKey).isSome := by
  unfold ready
  dsimp only
  rw [get?_converge settings _ _ ⟨by nofun, by nofun, by nofun⟩ (by nofun)]
  exact isSome_get?_provide _ _ _

end Session

/-! ### Runs -/

/-- Running a source again does nothing in a store. -/
def AtRest (settings : Settings) (t : Target) (c : Configuration) (b : Bundle)
    (answer : Except Error Outcome) (store : Store) : Prop :=
  ∀ s : Session, s.store = store → (run settings Provider.resolve t c b).on s = (answer, s)

/-- What a run resolves is resolved as well where only notes were made and things provided. -/
theorem resolveCredentials_of_changes (separate : s.store.Separate t c)
    (changes : ∀ key, key.kind = .provider ∨ key.kind = .secret → key ≠ t.variableSecretKey →
      ¬ Target.Publishes c key → s'.store.get? key = s.store.get? key) :
    resolveCredentials Provider.resolve c s'.store =
      resolveCredentials Provider.resolve c s.store := by
  refine resolveCredentials_congr (changes _ (.inl rfl) (by nofun) fun published => ?_)
    fun key kept => ?_
  · cases published.kind
  · obtain ⟨values, -, outputs⟩ := separate.credentials key kept
    exact changes key (.inr (Store.kind_of_credentialKey kept)) values outputs

theorem get?_ready_of_kind (settings : Settings)
    (kind : key.kind = .provider ∨ key.kind = .secret) (values : key ≠ t.variableSecretKey) :
    (s.ready settings t b env).store.get? key = s.store.get? key := by
  have kinds : ∀ k, k ≠ Kind.provider → k ≠ .secret → key.kind ≠ k := by
    rintro k provider secret rfl
    exact kind.elim provider secret
  have noConfiguration := kinds .configuration (by nofun) (by nofun)
  have noRole := kinds .clusterRole (by nofun) (by nofun)
  refine Session.get?_ready settings ⟨kinds _ (by nofun) (by nofun), kinds _ (by nofun) (by nofun),
    kinds _ (by nofun) (by nofun)⟩ (fun same => noRole (same ▸ rfl)) values ?_
  rintro rfl
  exact noConfiguration rfl

/-- A run without credentials comes to rest at once. -/
theorem concluded_unresolved (settings : Settings) (keyed : s.store.WellKeyed)
    (separate : s.store.Separate t c) (held : s.store.read Configuration t.key = some c₁)
    {e : Error} (resolved : resolveCredentials Provider.resolve c s.store = .error e) :
    Concluded t c₁
      (AtRest settings t c b ((run settings Provider.resolve t c b).on s).1
        ((run settings Provider.resolve t c b).on s).2.store)
      ((run settings Provider.resolve t c b).on s).2.store := by
  rw [on_run keyed, resolved]
  have other : Configuration.State.authorizing ≠ .reloading := by nofun
  refine concluded_note held other fun absorbs s' same => ?_
  have keyed' : s'.store.WellKeyed := by
    rw [same]
    exact Session.wellKeyed_note keyed t.key (note_withApplyStatus (by decide) _ _)
  have resolved' : resolveCredentials Provider.resolve c s'.store = .error e := by
    rw [← resolved]
    refine resolveCredentials_of_changes separate fun key kind _ _ => ?_
    rw [same]
    refine Session.get?_edit_of_ne _ _ ?_
    rintro rfl
    exact kind.elim nofun nofun
  rw [← same] at absorbs
  rw [on_run keyed', resolved']
  simp only
  rw [Session.edit_of_absorbs absorbs]

/-- A run that comes to its end leaves nothing for the next one to get ready: with the credentials
still the same, running again only records the same progress again. -/
theorem on_run_again (settings : Settings) (keyed : s.store.WellKeyed)
    (apart : ¬ Target.Publishes c t.variableSecretKey) (source : s.store.bundleDiffers t b = false)
    {credentials : Dict String String}
    (resolved : resolveCredentials Provider.resolve c s.store = .ok credentials)
    (settled : environment c credentials = .ok env)
    (same : s'.store = ((run settings Provider.resolve t c b).on s).2.store)
    (resolved' : resolveCredentials Provider.resolve c s'.store = .ok credentials) :
    (run settings Provider.resolve t c b).on s' =
      (recordProgress t c ((s.ready settings t b env).store.report (t.jobKey .apply))).on s' := by
  rw [on_run keyed, resolved] at same
  simp only [settled] at same
  have ready := Session.wellKeyed_ready keyed settings t b env
  have changes := within_recordProgress (t := t) (c := c)
    ((s.ready settings t b env).store.report (t.jobKey .apply)) _ ready
  have keyed' : s'.store.WellKeyed := by
    rw [same]
    exact changes.wellKeyed ready
  have aligned : Aligned t b env .apply s'.store := by
    rw [same]
    exact (Session.aligned_ready keyed settings env source).changes changes apart
  have role : (s'.store.get? t.roleKey).isSome := by
    rw [same, changes.get? (by nofun) fun published => by cases published.kind]
    exact Session.isSome_role_ready settings
  have ready' : s'.ready settings t b env = s' :=
    (Session.ready_of_aligned settings aligned).trans (Session.provide_of_isSome role)
  have report : s'.store.report (t.jobKey .apply) =
      (s.ready settings t b env).store.report (t.jobKey .apply) := by
    unfold Store.report
    rw [same, Store.read_congr (changes.get? (by nofun) fun published => by cases published.kind)]
  rw [on_run keyed', resolved']
  simp only [settled]
  rw [ready', report]

/-- A run comes to rest: once it has ended, running again answers the same and does nothing. -/
theorem concluded_run (settings : Settings) (keyed : s.store.WellKeyed)
    (separate : s.store.Separate t c) (bundled : bundle t c = .ok b)
    (source : s.store.bundleDiffers t b = false)
    (held : s.store.read Configuration t.key = some c₁) :
    Concluded t c₁
      (AtRest settings t c b ((run settings Provider.resolve t c b).on s).1
        ((run settings Provider.resolve t c b).on s).2.store)
      ((run settings Provider.resolve t c b).on s).2.store := by
  have apart : ∀ {key}, Target.Publishes c key → _ := fun {key} => separate.outputs key
  cases resolved : resolveCredentials Provider.resolve c s.store with
  | error e => exact concluded_unresolved settings keyed separate held resolved
  | ok credentials =>
    obtain ⟨env, settled⟩ := environment_of_bundle bundled credentials
    have ran : (run settings Provider.resolve t c b).on s =
        (recordProgress t c ((s.ready settings t b env).store.report (t.jobKey .apply))).on
          (s.ready settings t b env) := by
      rw [on_run keyed, resolved]
      simp only [settled]
    have ready := Session.wellKeyed_ready keyed settings t b env
    obtain ⟨c₂, held₂, told⟩ := Session.read_ready (b := b) settings env held
    have concluded := concluded_recordProgress ready held₂ (fun published => (apart published).2 rfl)
      ((s.ready settings t b env).store.report (t.jobKey .apply))
    have changes := within_recordProgress (t := t) (c := c)
      ((s.ready settings t b env).store.report (t.jobKey .apply)) _ ready
    rw [← ran] at concluded changes
    refine concluded.imp told fun recorded s' same => ?_
    have resolved' : resolveCredentials Provider.resolve c s'.store = .ok credentials := by
      rw [← resolved]
      refine resolveCredentials_of_changes separate fun key kind values outputs => ?_
      have here : key ≠ t.key := by
        rintro rfl
        exact kind.elim nofun nofun
      rw [same]
      exact (changes.get? here outputs).trans (get?_ready_of_kind settings kind values)
    rw [on_run_again settings keyed (fun published => (apart published).1 rfl) source resolved
      settled same resolved', recorded s' same]

/-- A run leaves the kept source alone. -/
theorem get?_run (settings : Settings) (keyed : s.store.WellKeyed) :
    ((run settings Provider.resolve t c b).on s).2.store.get? t.inputBundleKey =
      s.store.get? t.inputBundleKey := by
  rw [on_run keyed]
  cases resolveCredentials Provider.resolve c s.store with
  | error e => exact Session.get?_edit_of_ne _ _ (by nofun)
  | ok credentials =>
    cases settled : environment c credentials with
    | error e => simp only [settled]
    | ok env =>
      simp only [settled]
      have ready := Session.wellKeyed_ready keyed settings t b env
      have changes := within_recordProgress (t := t) (c := c)
        ((s.ready settings t b env).store.report (t.jobKey .apply)) _ ready
      refine (changes.get? (by nofun) fun published => by cases published.kind).trans ?_
      exact Session.get?_ready settings ⟨by nofun, by nofun, by nofun⟩ (by nofun) (by nofun)
        (by nofun)

/-! ### Passes -/

theorem Configuration.Alike.run (alike : c.Alike c₁) (settings : Settings) (resolve : Resolver)
    (t : Target) (b : Bundle) :
    Reconcile.run settings resolve t c₁ b = Reconcile.run settings resolve t c b := by
  have resolves : Reconcile.resolveCredentials resolve c₁ = Reconcile.resolveCredentials resolve c :=
    funext (alike.resolveCredentials resolve)
  have generates : Outputs.generate c₁ t = Outputs.generate c t := by
    unfold Outputs.generate connectionSecret?
    rw [alike.spec]
  unfold Reconcile.run authorize syncVariables recordProgress recordSuccess
  simp only [resolves, generates, alike.environment]

/-- A pass over the configuration will run the source that is kept. -/
structure Poised (t : Target) (c : Configuration) (b : Bundle) (s : Store) : Prop where
  keyed : s.WellKeyed
  lives : ∃ c₁, s.read Configuration t.key = some c₁ ∧ c.Alike c₁ ∧ hasOwnFinalizer c₁ = true ∧
    c₁.metadata.lifecycle = .active
  source : s.Holds t.inputBundleKey (Resource.wrap (bundleMap t b))

namespace Poised

theorem source_alike (poised : Poised t c b s.store) : s.store.bundleDiffers t b = false := by
  have kept := s.bundleDiffers_keep t b
  unfold Session.keep at kept
  rwa [Session.write_of_holds poised.source] at kept

/-- A pass over a poised store is a run. -/
theorem on_pass (poised : Poised t c b s.store) (resolve : Resolver)
    (here : request.key .configuration = t.key)
    (target : Target.of settings c = t) (bundled : bundle t c = .ok b) :
    (configurationPass settings resolve request).on s =
      (answer ((run settings resolve t c b).on s).1, ((run settings resolve t c b).on s).2) := by
  obtain ⟨c₁, held, alike, own, active⟩ := poised.lives
  have keyed := poised.keyed
  have unheld : s.hold t c₁ = s := Session.hold_of_own own
  have unkept : s.keep t b = s := Session.write_of_holds poised.source
  rw [on_activePass keyed (here ▸ held) active, alike.target, target,
    on_apply keyed (keyed.placed held), alike.bundle, bundled]
  simp only
  rw [unheld, unkept, poised.source_alike, alike.run]
  rfl

/-- A run leaves a poised store poised. -/
theorem run (poised : Poised t c b s.store) (settings : Settings) :
    Poised t c b ((run settings Provider.resolve t c b).on s).2.store := by
  obtain ⟨c₁, held, alike, own, active⟩ := poised.lives
  have changes : Changes t (t.Touches c) s ((Reconcile.run settings Provider.resolve t c b).on s).2 :=
    within_run b s poised.keyed
  obtain ⟨c₂, held₂, continues⟩ := changes.configuration Target.Touches.apart held
  refine ⟨changes.wellKeyed poised.keyed, ⟨c₂, held₂, alike.trans continues.alike,
    continues.held own, continues.lifecycle.trans active⟩, poised.source.congr ?_⟩
  exact get?_run settings poised.keyed

end Poised

/-- A pass does nothing in a store and always answers the same. -/
def Rests (settings : Settings) (request : Request) (answer : Except Error Outcome)
    (store : Store) : Prop :=
  ∀ s : Session, s.store = store →
    (configurationPass settings Provider.resolve request).on s = (answer, s)

/-- Whether the configuration of a request no longer counts as reloading. -/
def Store.Settles (s : Store) (request : Request) : Prop :=
  ∃ c, s.get? (request.key .configuration) = some (.configuration c) ∧
    c.applyState ≠ some .reloading

/-- After a pass that runs the source passes come to rest, if the generation was told before it or
the source had been run before. -/
theorem rests_of_poised (here : request.key .configuration = t.key)
    (target : Target.of settings c = t) (bundled : bundle t c = .ok b)
    (separate : s.store.Separate t c) (poised : Poised t c b s.store)
    (held : s.store.read Configuration t.key = some c₁)
    (ran : c₁.metadata.generation.isSome ∨ ∃ answer, AtRest settings t c b answer s.store) :
    ((configurationPass settings Provider.resolve request).on s).2.store.Settles request ∧
    ∃ answer, Rests settings request answer
      ((configurationPass settings Provider.resolve request).on s).2.store := by
  have concluded := concluded_run settings poised.keyed separate bundled poised.source_alike held
  have again := poised.run settings
  rw [poised.on_pass _ here target bundled]
  generalize left : (run settings Provider.resolve t c b).on s = ended at concluded again ⊢
  obtain ⟨answered, s'⟩ := ended
  have atRest : ∃ answer, AtRest settings t c b answer s'.store := by
    rcases ran with told | ⟨answer', atRest⟩
    · exact ⟨_, concluded.again told⟩
    · cases left.symm.trans (atRest s rfl)
      exact ⟨_, atRest⟩
  obtain ⟨c₂, held₂, other, -⟩ := concluded.noted
  obtain ⟨answer', atRest⟩ := atRest
  refine ⟨⟨c₂, here ▸ Store.read_eq_some_iff.mp held₂, other⟩, answer answer', fun s'' same => ?_⟩
  rw [← same] at again
  rw [again.on_pass _ here target bundled, atRest s'' same]

/-! ### The first pass -/

/-- A configuration is there once it is held. -/
theorem Configuration.read_hold (keyed : s.store.WellKeyed)
    (held : s.store.read Configuration t.key = some c) :
    ∃ c₁, (s.hold t c).store.read Configuration t.key = some c₁ ∧ c.Continues c₁ ∧
      hasOwnFinalizer c₁ = true ∧
      (c.metadata.generation.isSome → c₁.metadata.generation.isSome) := by
  have placed := keyed.placed held
  have ensured := held_ensureFinalizer keyed placed held
  rw [on_ensureFinalizer keyed placed] at ensured
  exact ensured

/-- And it is there once its source is kept. -/
theorem Configuration.read_heldAndKept (keyed : s.store.WellKeyed)
    (held : s.store.read Configuration t.key = some c) (b : Bundle) :
    ∃ c₁, ((s.hold t c).keep t b).store.read Configuration t.key = some c₁ ∧ c.Continues c₁ ∧
      hasOwnFinalizer c₁ = true := by
  obtain ⟨c₁, found, continues, own, -⟩ := read_hold keyed held
  exact ⟨c₁, (Store.read_congr (Session.get?_write_of_ne _ _ (by nofun))).trans found, continues,
    own⟩

/-- A pass over an active configuration leaves a poised store, with the generation told unless the
source has been run. -/
theorem poised_of_active (keyed : s.store.WellKeyed)
    (here : request.key .configuration = t.key) (target : Target.of settings c = t)
    (held : s.store.read Configuration t.key = some c) (active : c.metadata.lifecycle = .active)
    (bundled : bundle t c = .ok b) (separate : s.store.Separate t c) :
    Poised t c b ((configurationPass settings Provider.resolve request).on s).2.store ∧
    ∃ c₁, ((configurationPass settings Provider.resolve request).on s).2.store.read Configuration
        t.key = some c₁ ∧
      (c₁.metadata.generation.isSome ∨ ∃ answer, AtRest settings t c b answer
        ((configurationPass settings Provider.resolve request).on s).2.store) := by
  have placed := keyed.placed held
  have applied : ((configurationPass settings Provider.resolve request).on s).2 =
      ((apply settings Provider.resolve t c).on s).2 := by
    rw [on_activePass keyed (here ▸ held) active, target]
  have changes : Changes t (t.Touches c) s ((apply settings Provider.resolve t c).on s).2 :=
    within_apply placed s keyed
  have lives := held_apply settings Provider.resolve keyed placed held
  obtain ⟨c₁, heldKeep, -⟩ := Configuration.read_heldAndKept keyed held b
  have keyedHold := Session.wellKeyed_hold keyed t c
  have keyedKeep := Session.wellKeyed_keep keyedHold t b
  have kept : ((s.hold t c).keep t b).store.Holds t.inputBundleKey
      (Resource.wrap (bundleMap t b)) := Session.holds_write _ _ _
  rw [applied]
  obtain ⟨c₂, held₂, continues, own⟩ := lives
  suffices rest : ((apply settings Provider.resolve t c).on s).2.store.Holds t.inputBundleKey
        (Resource.wrap (bundleMap t b)) ∧
      ∃ c₃, ((apply settings Provider.resolve t c).on s).2.store.read Configuration t.key = some c₃ ∧
        (c₃.metadata.generation.isSome ∨ ∃ answer, AtRest settings t c b answer
          ((apply settings Provider.resolve t c).on s).2.store) by
    exact ⟨⟨changes.wellKeyed keyed, ⟨c₂, held₂, continues.alike, own,
      continues.lifecycle.trans active⟩, rest.1⟩, rest.2⟩
  rw [on_apply keyed placed, bundled]
  simp only
  split
  · obtain ⟨c₃, held₃, -, told⟩ := Session.read_noted .reloading
      "Configuration's HCL has changed, and starts reloading" ∅ heldKeep
    exact ⟨kept.congr (Session.get?_edit_of_ne _ _ (by nofun)), c₃, held₃, .inl told⟩
  · have provider : ((s.hold t c).keep t b).store.get? c.providerKey =
        s.store.get? c.providerKey := Session.get?_heldAndKept (by nofun) (by nofun)
    obtain ⟨⟨c₃, held₃, -, settles⟩, -⟩ := concluded_run settings keyedKeep
      (separate.congr provider) bundled (Session.bundleDiffers_keep _ t b) heldKeep
    exact ⟨kept.congr (get?_run settings keyedKeep), c₃, held₃, settles.imp_right fun atRest =>
      ⟨_, atRest⟩⟩

/-! ### Invalid sources -/

/-- A pass over a configuration whose source is invalid notes that. -/
theorem on_invalidPass {fault : SpecFault} (keyed : s.store.WellKeyed)
    (here : request.key .configuration = t.key) (target : Target.of settings c = t)
    (held : s.store.read Configuration t.key = some c) (active : c.metadata.lifecycle = .active)
    (failed : bundle t c = .error (.invalid fault)) :
    (configurationPass settings Provider.resolve request).on s =
      (.ok .done, (s.hold t c).edit t.key (withApplyStatus .staticCheckFailed fault.message ∅)) := by
  rw [on_activePass keyed (here ▸ held) active, target, on_apply keyed (keyed.placed held), failed]
  rfl

/-- The second pass over a configuration whose source is invalid changes nothing any more. -/
theorem rests_of_invalid {fault : SpecFault} (keyed : s.store.WellKeyed)
    (here : request.key .configuration = t.key) (target : Target.of settings c = t)
    (held : s.store.read Configuration t.key = some c) (active : c.metadata.lifecycle = .active)
    (failed : bundle t c = .error (.invalid fault)) (own : hasOwnFinalizer c = true)
    (told : c.metadata.generation.isSome) :
    ((configurationPass settings Provider.resolve request).on s).2.store.Settles request ∧
    Rests settings request (.ok .done)
      ((configurationPass settings Provider.resolve request).on s).2.store := by
  have unheld : s.hold t c = s := Session.hold_of_own own
  have note : Note (withApplyStatus .staticCheckFailed fault.message ∅) :=
    note_withApplyStatus (by decide) _ _
  have absorbs := Session.absorbs_edit .staticCheckFailed fault.message ∅ held told
  obtain ⟨c₁, held₁, noted, -⟩ := Session.read_noted .staticCheckFailed fault.message ∅ held
  obtain ⟨c₂, held₂, continues⟩ := note.read_edit held
  cases held₁.symm.trans held₂
  rw [on_invalidPass keyed here target held active failed, unheld]
  refine ⟨⟨c₁, here ▸ Store.read_eq_some_iff.mp held₁, by simp [noted]⟩, fun s' same => ?_⟩
  have keyed' : s'.store.WellKeyed := by
    rw [same]
    exact Session.wellKeyed_note keyed t.key note
  rw [← same] at held₁ absorbs
  have unheld' : s'.hold t c₁ = s' := Session.hold_of_own (continues.held own)
  rw [on_invalidPass keyed' here ((continues.alike.target settings).trans target) held₁
    (continues.lifecycle.trans active) (continues.alike.bundle t ▸ failed), unheld',
    Session.edit_of_absorbs absorbs]

/-! ### Two passes -/

/-- Two passes over an active configuration bring passes to rest. -/
theorem rests_of_active (settings : Settings) (keyed : s.store.WellKeyed) (later : Timestamp)
    (held : s.store.read Configuration (request.key .configuration) = some c)
    (active : c.metadata.lifecycle = .active)
    (separate : s.store.Separate (.of settings c) c) :
    (s.after settings Provider.resolve
        [.pass request, .clock later, .pass request]).store.Settles request ∧
    ∃ answer, Rests settings request answer (s.after settings Provider.resolve
        [.pass request, .clock later, .pass request]).store := by
  have here : request.key .configuration = (Target.of settings c).key :=
    (Target.key_of (keyed.placed held)).symm
  generalize target : Target.of settings c = t at here separate
  rw [here] at held
  generalize first : s.perform settings Provider.resolve (.pass request) = s₁
  have ran : ((configurationPass settings Provider.resolve request).on s).2 = s₁ := first
  have keyed₁ : s₁.store.WellKeyed := first ▸ Session.wellKeyed_perform keyed _
  rw [Session.after_cons, first]
  change (((configurationPass settings Provider.resolve request).on
      { s₁ with now := later }).2.store.Settles request) ∧
    ∃ answer, Rests settings request answer ((configurationPass settings Provider.resolve request).on
      { s₁ with now := later }).2.store
  cases bundled : bundle t c with
  | ok b =>
    obtain ⟨poised, c₁, held₁, settles⟩ := poised_of_active keyed here target held active bundled
      separate
    rw [ran] at poised held₁ settles
    have provider : s₁.store.get? c.providerKey = s.store.get? c.providerKey := by
      rw [← ran]
      exact Session.get?_configurationPass_of_kind keyed (by nofun) (.inr rfl)
    exact rests_of_poised (s := { s₁ with now := later }) here target bundled
      (separate.congr provider) poised held₁ settles
  | error e =>
    obtain ⟨fault, rfl⟩ := invalid_of_bundle bundled
    obtain ⟨c', found, -⟩ := Configuration.read_hold keyed held
    obtain ⟨c₁, held₁, continues, own⟩ := held_apply settings Provider.resolve keyed
      (keyed.placed held) held
    obtain ⟨c₂, held₂, -, told⟩ := Session.read_noted .staticCheckFailed fault.message ∅ found
    have applied : ((apply settings Provider.resolve t c).on s).2 = s₁ := by
      rw [← ran, on_activePass keyed (here ▸ held) active, target]
    have noted : (s.hold t c).edit t.key (withApplyStatus .staticCheckFailed fault.message ∅) = s₁ := by
      rw [← ran, on_invalidPass keyed here target held active bundled]
    rw [applied] at held₁
    rw [noted] at held₂
    cases held₁.symm.trans held₂
    obtain ⟨settles, rests⟩ := rests_of_invalid (s := { s₁ with now := later }) keyed₁ here
      ((continues.alike.target settings).trans target) held₁
      (continues.lifecycle.trans active) (continues.alike.bundle t ▸ bundled) own told
    exact ⟨settles, _, rests⟩

/-- Where passes rest, acts that only make passes or let time go by change the time only. -/
theorem after_of_rests {answer : Except Error Outcome} (acts : List Act)
    (idle : ∀ a ∈ acts, a = .pass request ∨ ∃ now, a = .clock now)
    (rests : Rests settings request answer s.store) :
    ∃ now, s.after settings Provider.resolve acts = { s with now := now } := by
  induction acts generalizing s with
  | nil => exact ⟨s.now, rfl⟩
  | cons a rest ih =>
    have later := fun b listed => idle b (List.mem_cons_of_mem a listed)
    rw [Session.after_cons]
    rcases idle a List.mem_cons_self with rfl | ⟨now, rfl⟩
    · have stays : s.perform settings Provider.resolve (.pass request) = s :=
        congrArg Prod.snd (rests s rfl)
      rw [stays]
      exact ih later rests
    · obtain ⟨now', left⟩ := ih (s := { s with now := now }) later rests
      exact ⟨now', left⟩

/-- The fixed point of passes over an active configuration. From every store with objects under their
own keys and different secrets for outputs, variables, state and credentials, two passes reach a
store in which the configuration does not count as reloading, and which no further pass changes:
nothing is written, no notice is sent, no job is handed over, and all passes answer the same. -/
theorem active_fixed_point (settings : Settings) (s : Session) (request : Request)
    (c : Configuration) (later : Timestamp) (acts : List Act) (keyed : s.store.WellKeyed)
    (held : s.store.get? (request.key .configuration) = some (.configuration c))
    (active : c.metadata.lifecycle = .active)
    (distinct : (s.store.secretKeys (.of settings c) c).Nodup)
    (idle : ∀ a ∈ acts, a = .pass request ∨ ∃ now, a = .clock now) :
    let twice := s.after settings Provider.resolve [.pass request, .clock later, .pass request]
    let further := twice.after settings Provider.resolve acts
    twice.store.Settles request ∧
    further.store = twice.store ∧ further.sent = twice.sent ∧ further.triggered = twice.triggered ∧
    ((configurationPass settings Provider.resolve request).on further).1 =
      ((configurationPass settings Provider.resolve request).on twice).1 := by
  intro twice further
  obtain ⟨settles, answer, rests⟩ := rests_of_active settings keyed later
    (Store.read_eq_some_iff.mpr held) active (Store.separate_of_nodup distinct)
  obtain ⟨now, left⟩ := after_of_rests acts idle rests
  have same : further = { twice with now := now } := left
  refine ⟨settles, by rw [same], by rw [same], by rw [same], ?_⟩
  rw [same, rests twice rfl, rests { twice with now := now } rfl]

/-- On the small store the third pass, a minute after the others, changes nothing. -/
theorem active_fixed_point_sample :
    Sample.session.store.WellKeyed ∧
    Sample.configuration.metadata.lifecycle = .active ∧
    (Sample.session.store.secretKeys (.of {} Sample.configuration) Sample.configuration).Nodup ∧
    let twice := Sample.session.after {} Provider.resolve
      [.pass Sample.request, .clock ⟨0, 0⟩, .pass Sample.request]
    let further := twice.after {} Provider.resolve [.clock ⟨1, 0⟩, .pass Sample.request]
    twice.store.Settles Sample.request ∧
    further.store = twice.store ∧ further.sent = twice.sent ∧ further.triggered = twice.triggered ∧
    ((configurationPass {} Provider.resolve Sample.request).on further).1 =
      ((configurationPass {} Provider.resolve Sample.request).on twice).1 := by
  have distinct : (Sample.session.store.secretKeys (.of {} Sample.configuration)
      Sample.configuration).Nodup := by decide
  refine ⟨Sample.wellKeyed_session, rfl, distinct, ?_⟩
  refine active_fixed_point {} Sample.session Sample.request Sample.configuration ⟨0, 0⟩ _
    Sample.wellKeyed_session ?_ rfl distinct ?_
  · simp [Sample.session, Session.get?_holding]
  · intro a listed
    simp only [List.mem_cons, List.not_mem_nil, or_false] at listed
    rcases listed with rfl | rfl
    · exact .inr ⟨_, rfl⟩
    · exact .inl rfl

end Provisioner
