import Provisioner.Proofs.History
import Provisioner.Proofs.Notices
import Provisioner.Proofs.Reachability

/-!
What a pass over a provider tells those who rely on the provider. It changes the status of that
provider and nothing else, and the status says whether the credentials could be resolved just now. A
pass resolves them for the region of the provider and those who use them for a region of their own,
so it has to be shown that the region decides neither whether they can be resolved nor what goes
wrong. That the pass can be repeated without an effect needs a resolver that does not look at what
earlier passes have noted.
-/

namespace Provisioner

open Reconcile

variable {τ : Type} [Resource τ] {s s' : Session} {c : Configuration} {p p' : Provider}
  {key : ObjectKey} {request : Request} {resolve : Resolver}

/-! ### Repeated passes -/

/-- An edit of what is already as it would make it does nothing after it was made once. -/
theorem Session.edit_again {f : τ → τ} {r : τ} (gentle : Gentle f)
    (held : s.store.read τ key = some r)
    (settled : ∀ r', Resource.wrap r' = (Resource.wrap (f r)).counted → f r' = r') :
    (s.edit key f).edit key f = s.edit key f := by
  rcases edit_cases gentle held with ⟨stays, -⟩ | replaced
  · rw [stays, stays]
  · have stored : (s.edit key f).store.get? key = some (Resource.wrap (f r)).counted := by
      rw [replaced, get?_put, if_pos rfl]
    refine edit_of_absorbs fun r' held' => ⟨_, stored, ?_⟩
    have same : Resource.wrap r' = (Resource.wrap (f r)).counted :=
      Option.some.inj ((Store.read_eq_some_iff.mp held').symm.trans stored)
    rw [settled r' same, same]
    refine Object.replacing_self ?_
    rw [Object.counted, Object.metadata_withMetadata]
    rfl

theorem Provider.alike_noted (p : Provider) (status : Option Status) :
    p.Alike { p.counted with status := status } := ⟨rfl, rfl, rfl⟩

/-- A resolver that does not look at what was noted of providers: it answers the same for a provider
with another status, whatever other providers there are. -/
def Resolver.IgnoresNotes (resolve : Resolver) : Prop :=
  ∀ (s s' : Store) (p p' : Provider) region,
    (∀ key, key.kind ≠ .provider → s'.get? key = s.get? key) → p.Alike p' →
    resolve s' p' region = resolve s p region

theorem Provider.ignoresNotes_resolve : Resolver.IgnoresNotes Provider.resolve := by
  intro s s' p p' region same alike
  rw [alike.resolve]
  refine Provider.resolve_congr (fun key kept => same key ?_) region
  rw [Provider.kind_of_credentialKey kept]
  nofun

namespace Reconcile

/-- A pass over a provider that is stored. -/
theorem on_providerPass_held (resolve : Resolver) (keyed : s.store.WellKeyed)
    (held : s.store.read Provider (request.key .provider) = some p) :
    (providerPass resolve request).on s =
      ((resolve s.store p (p.spec.region.getD "")).map fun _ => .done,
        s.edit (request.key .provider)
          (withProviderStatus (readiness (resolve s.store p (p.spec.region.getD ""))).1
            (readiness (resolve s.store p (p.spec.region.getD ""))).2)) := by
  rw [on_providerPass resolve keyed, held]

/-- Passes over a provider repeat themselves. -/
theorem on_providerPass_again (keyed : s.store.WellKeyed)
    (held : s.store.read Provider (request.key .provider) = some p)
    (ignores : resolve.IgnoresNotes) :
    (providerPass resolve request).on ((providerPass resolve request).on s).2 =
      (providerPass resolve request).on s := by
  rw [on_providerPass_held resolve keyed held]
  generalize noted : readiness (resolve s.store p (p.spec.region.getD "")) = note
  obtain ⟨state, message⟩ := note
  have gentle := gentle_withProviderStatus state message
  have keyed' := Session.wellKeyed_edit keyed (request.key .provider) gentle.keepsKey
  have same : resolve (s.edit (request.key .provider) (withProviderStatus state message)).store
      { p.counted with status := some ⟨state, message⟩ } (p.spec.region.getD "") =
      resolve s.store p (p.spec.region.getD "") :=
    ignores _ _ _ _ _ (fun key kind => Session.get?_edit_of_ne s _ fun here => kind (here ▸ rfl))
      (p.alike_noted _)
  have again : (s.edit (request.key .provider) (withProviderStatus state message)).edit
      (request.key .provider) (withProviderStatus state message) =
      s.edit (request.key .provider) (withProviderStatus state message) := by
    refine Session.edit_again gentle held fun r' stored => ?_
    cases Object.provider.inj stored
    rfl
  dsimp only
  rw [on_providerPass_held resolve keyed' (Provider.read_noted state message held)]
  change ((resolve _ _ (p.spec.region.getD "")).map _, Session.edit _ _
    (withProviderStatus (readiness (resolve _ _ (p.spec.region.getD ""))).1
      (readiness (resolve _ _ (p.spec.region.getD ""))).2)) = _
  rw [same, noted, again]

end Reconcile

/-! ### Regions -/

/-- What is handed over beside the credentials of a document does not decide whether they can be
read. -/
theorem Cloud.credentials_region (cloud : Cloud) (document region region' : String) :
    (cloud.credentials document region').map (fun _ => ()) =
      (cloud.credentials document region).map fun _ => () := by
  unfold Cloud.credentials
  cases cloud.layout? with
  | none => rfl
  | some l =>
    simp only [Cloud.Layout.env]
    cases Yaml.record l.record (l.fields.map (·.1)) document <;> rfl

theorem Provider.resolve_region (s : Store) (p : Provider) (region region' : String) :
    (Provider.resolve s p region').map (fun _ => ()) =
      (Provider.resolve s p region).map fun _ => () := by
  unfold Provider.resolve
  cases p.document s with
  | error e => rfl
  | ok document =>
    simp only [bind, Except.bind]
    cases Cloud.ofName? p.spec.provider with
    | none => rfl
    | some cloud =>
      have same := cloud.credentials_region document region region'
      simp only
      cases first : cloud.credentials document region <;>
        cases second : cloud.credentials document region' <;>
        rw [first, second] at same <;> cases same <;> rfl

/-- Credentials that can be resolved for one region can be resolved for all. -/
theorem Provider.resolves_of_region {s : Store} {credentials : Dict String String}
    {region : String} (resolved : Provider.resolve s p region = .ok credentials)
    (region' : String) : ∃ credentials', Provider.resolve s p region' = .ok credentials' := by
  have same := Provider.resolve_region s p region region'
  rw [resolved] at same
  cases answered : Provider.resolve s p region' with
  | ok credentials' => exact ⟨credentials', rfl⟩
  | error e =>
    rw [answered] at same
    cases same

/-- The provider of a configuration resolves its credentials, if it does for some region and does
not count as not ready. -/
theorem Store.WellKeyed.resolves {s : Store} {credentials : Dict String String} {region : String}
    (keyed : s.WellKeyed) (held : s.read Provider c.providerKey = some p)
    (usable : p.isNotReady = false) (resolved : Provider.resolve s p region = .ok credentials) :
    ∃ credentials', resolveCredentials Provider.resolve c s = .ok credentials' := by
  have found : s.findNamed Provider c.providerReference.1 c.providerReference.2 = .ok (some p) :=
    (keyed.findNamed _ _).trans (congrArg Except.ok held)
  obtain ⟨credentials', resolved'⟩ := Provider.resolves_of_region resolved (Reconcile.region c p)
  refine ⟨credentials', ?_⟩
  unfold resolveCredentials
  simp only [found, bind, Except.bind, usable]
  exact resolved'

/-! ### One pass -/

/-- Nothing changes but what is under a key, and a change of that is announced, just once. -/
structure Session.ConfinedTo (key : ObjectKey) (s s' : Session) : Prop where
  get? : ∀ other, other ≠ key → s'.store.get? other = s.store.get? other
  listeners : s'.store.listeners = s.store.listeners
  now : s'.now = s.now
  triggered : s'.triggered = s.triggered
  sent_of_same : s'.store.get? key = s.store.get? key → s'.sent = s.sent
  sent_of_changed : s'.store.get? key ≠ s.store.get? key →
    s'.sent = s.sent ++ s.store.announcement key

theorem Session.confinedTo_edit {f : τ → τ} {r : τ} (gentle : Gentle f)
    (held : s.store.read τ key = some r) : s.ConfinedTo key (s.edit key f) where
  get? _ other := get?_edit_of_ne s f other
  listeners := (writes_edit s key f).listeners
  now := now_edit s key f
  triggered := triggered_edit s key f
  sent_of_same same := by rw [edit_of_same gentle held same]
  sent_of_changed := (writes_edit s key f).sent_of_changed

/-- The status that tells whether credentials could be resolved, or why not. -/
def Provider.Status.of (answered : Except Error (Dict String String)) : Provider.Status :=
  match answered with
  | .ok _ => ⟨some .ready, ""⟩
  | .error e => ⟨some .notReady, e.message⟩

theorem Provider.Status.of_eq (answered : Except Error (Dict String String)) :
    Provider.Status.of answered = ⟨(readiness answered).1, (readiness answered).2⟩ := by
  cases answered <;> rfl

/-- A pass over a provider that is stored tells whether its credentials can be resolved, and changes
nothing but its status; the generation, which every provider that has come about tells, is told
afterwards in any case. It answers what it found, and another pass right after it does nothing and
answers the same, if the resolver does not look at such notes. Whether credentials can be resolved
does not depend on the region, so a provider that a pass leaves ready resolves them for every
configuration that refers to it. -/
theorem provider_readiness (s : Session) (request : Request) (p : Provider)
    (keyed : s.store.WellKeyed)
    (held : s.store.get? (request.key .provider) = some (.provider p)) :
    (∀ resolve : Resolver,
      let answered := resolve s.store p (p.spec.region.getD "")
      let pass := (providerPass resolve request).on s
      pass.1 = answered.map (fun _ => .done) ∧
      pass.2.store.get? (request.key .provider) =
        some (.provider { p.counted with status := some (.of answered) }) ∧
      (p.metadata.generation.isSome ∨ s.Reachable → p.counted = p) ∧
      s.ConfinedTo (request.key .provider) pass.2 ∧
      (resolve.IgnoresNotes → (providerPass resolve request).on pass.2 = pass)) ∧
    Resolver.IgnoresNotes Provider.resolve ∧
    (∀ region region', (Provider.resolve s.store p region').map (fun _ => ()) =
      (Provider.resolve s.store p region).map fun _ => ()) ∧
    ∀ p' c,
      let after := ((providerPass Provider.resolve request).on s).2.store
      after.get? (request.key .provider) = some (.provider p') → p'.isReady = true →
      c.providerKey = request.key .provider →
      ∃ credentials, resolveCredentials Provider.resolve c after = .ok credentials := by
  have read : s.store.read Provider (request.key .provider) = some p :=
    Store.read_eq_some_iff.mpr held
  have noted (resolve : Resolver) :
      ((providerPass resolve request).on s).2.store.read Provider (request.key .provider) =
        some
          { p.counted with status := some (.of (resolve s.store p (p.spec.region.getD ""))) } := by
    rw [on_providerPass_held resolve keyed read, Provider.Status.of_eq]
    exact Provider.read_noted _ _ read
  refine ⟨fun resolve => ⟨?_, Store.read_eq_some_iff.mp (noted resolve), fun told => ?_, ?_,
    on_providerPass_again keyed read⟩, Provider.ignoresNotes_resolve,
    Provider.resolve_region s.store p, fun p' c => ?_⟩
  · rw [on_providerPass_held resolve keyed read]
  · exact Provider.counted_of_told (told.elim id fun reachable => reachable.counts _ _ held)
  · rw [on_providerPass_held resolve keyed read]
    exact Session.confinedTo_edit (gentle_withProviderStatus _ _) read
  · intro after held' ready here
    have same : p' = _ :=
      Option.some.inj ((Store.read_eq_some_iff.mpr held').symm.trans (noted Provider.resolve))
    cases answered : Provider.resolve s.store p (p.spec.region.getD "") with
    | error e =>
      rw [same, answered] at ready
      cases ready
    | ok credentials =>
      have keyed' : after.WellKeyed :=
        Session.wellKeyed_providerPass keyed request
      have kept : Provider.resolve after p' (p.spec.region.getD "") = .ok credentials := by
        rw [← answered, same]
        refine Provider.ignoresNotes_resolve _ _ _ _ _ (fun key kind => ?_) (p.alike_noted _)
        exact Session.get?_providerPass keyed kind
      refine keyed'.resolves (p := p') ?_ ?_ kept
      · rw [here]
        exact Store.read_eq_some_iff.mpr held'
      · rw [same, answered]
        rfl

namespace Sample

/-- Credentials for a cloud in which they are handed over together with a region. -/
def cloudAccount : Secret :=
  .ofTexts "vela-system" "aws-account"
    (.singleton "credentials" "awsAccessKeyID: id\nawsSecretAccessKey: secret\n") none

/-- A provider that has not been looked at, with those credentials. -/
def cloudProvider : Provider where
  metadata := { name := some "default", ns := some "default", generation := some 1 }
  spec :=
    { provider := "aws"
      region := some "us-east-1"
      credentials :=
        { source := .secret
          secretRef := some ⟨"aws-account", some "vela-system", "credentials"⟩ } }

def inCloud : Session where
  store :=
    { items := .ofList
        [(⟨.provider, "default", "default"⟩, .provider cloudProvider),
         (⟨.secret, "vela-system", "aws-account"⟩, .secret cloudAccount)]
      listeners := .singleton .provider 0 }
  now := ⟨0, 0⟩

/-- A configuration that refers to that provider and asks for a region of its own. -/
def abroad : Configuration :=
  { configuration with spec := { configuration.spec with customRegion := some "eu-west-1" } }

theorem wellKeyed_inCloud : inCloud.store.WellKeyed := by
  refine Store.wellKeyed_ofList fun e listed => ?_
  simp only [List.mem_cons, List.not_mem_nil, or_false] at listed
  rcases listed with rfl | rfl <;> rfl

theorem inCloud_resolves :
    Provider.resolve inCloud.store cloudProvider "us-east-1" = .ok (.ofList
      [("AWS_ACCESS_KEY_ID", "id"), ("AWS_DEFAULT_REGION", "us-east-1"),
       ("AWS_SECRET_ACCESS_KEY", "secret"), ("AWS_SESSION_TOKEN", "")]) :=
  eq_ok_of_toOption (by decide +kernel)

end Sample

/-- A pass finds the provider ready and tells its listener; a second one is silent; and the
credentials are there for another region. -/
theorem provider_readiness_sample :
    let pass := (providerPass Provider.resolve ⟨"default", "default"⟩).on
    let after := (pass Sample.inCloud).2
    Sample.inCloud.store.WellKeyed ∧ (pass Sample.inCloud).1 = .ok .done ∧
      after.store.get? ⟨.provider, "default", "default"⟩ = some (.provider
        { Sample.cloudProvider with status := some ⟨some .ready, ""⟩ }) ∧
      after.sent = [⟨0, ⟨.provider, "default", "default"⟩⟩] ∧
      pass after = pass Sample.inCloud ∧
      ∃ credentials,
        resolveCredentials Provider.resolve Sample.abroad after.store = .ok credentials := by
  intro pass after
  obtain ⟨passes, ignores, -, resolves⟩ := provider_readiness Sample.inCloud ⟨"default", "default"⟩
    Sample.cloudProvider Sample.wellKeyed_inCloud rfl
  obtain ⟨answered, stored, same, confined, again⟩ := passes Provider.resolve
  change (pass Sample.inCloud).1 = (Provider.resolve _ _ "us-east-1").map _ at answered
  change after.store.get? _ = some (.provider { Sample.cloudProvider.counted with
    status := some (.of (Provider.resolve _ _ "us-east-1")) }) at stored
  rw [Sample.inCloud_resolves] at answered stored
  have changed := confined.sent_of_changed (by
    rw [stored]
    nofun)
  exact ⟨Sample.wellKeyed_inCloud, answered, stored, changed, again ignores,
    resolves _ Sample.abroad stored rfl rfl⟩

end Provisioner
