import Provisioner.Proofs.FixedPoint
import Provisioner.Proofs.Notices
import Provisioner.Proofs.Retention

/-!
The gate before the jobs that apply. A pass over an active configuration first holds it, renders and
keeps its source, and asks for credentials; up to there it writes to nothing but the configuration
and the kept source. It goes on to jobs and variables only if the specification is valid, the source
is the one that was kept, and the provider is there, does not say that it is not ready, and has
credentials for the region. Otherwise all that it adds is a note of what it waits for.
-/

namespace Provisioner

open Reconcile
open Provisioner.Configuration (State)

variable {s : Session} {t : Target} {c : Configuration} {b : Bundle} {p : Provider}
  {key : ObjectKey} {kind : Kind} {settings : Settings} {resolve : Resolver}

/-! ### What is asked of the gate -/

/-- The region that credentials are asked for: the one that a configuration names, or else that of
the provider. -/
def AsksFor (c : Configuration) (p : Provider) (region : String) : Prop :=
  (c.spec.customRegion = some region ∧ region ≠ "") ∨
    (c.spec.customRegion.getD "" = "" ∧ region = p.spec.region.getD "")

/-- The session when a pass over an active configuration asks for credentials. -/
def Session.asked (s : Session) (t : Target) (c : Configuration) : Session :=
  match bundle t c with
  | .ok b => (s.hold t c).keep t b
  | .error _ => s.hold t c

/-- The session that a pass over an active configuration leaves if it stops at the gate. -/
def Session.stopped (s : Session) (t : Target) (c : Configuration) (state : State)
    (message : String) : Session :=
  (s.asked t c).edit t.key (withApplyStatus state message ∅)

/-- Everything that a pass over an active configuration has to find before it goes on to jobs. -/
structure Cleared (resolve : Resolver) (t : Target) (c : Configuration) (s : Session) : Prop where
  valid : ∃ type, Terraform.validate c.spec = .ok type
  settled : ∃ b, bundle t c = .ok b ∧ s.store.bundleDiffers t b = false
  granted : ∃ p region credentials, s.store.get? c.providerKey = some (.provider p) ∧
    p.isNotReady = false ∧ AsksFor c p region ∧
    resolve (s.asked t c).store p region = .ok credentials

/-- Why a configuration is not authorized. -/
inductive Unauthorized (resolve : Resolver) (t : Target) (c : Configuration) (s : Session) : Prop
  | missing (absent : s.store.get? c.providerKey = none)
  | notReady {p : Provider} (held : s.store.get? c.providerKey = some (.provider p))
    (tells : p.isNotReady = true)
  | unresolved {p : Provider} {region : String} {e : Error}
    (held : s.store.get? c.providerKey = some (.provider p)) (asks : AsksFor c p region)
    (failed : resolve (s.asked t c).store p region = .error e)

/-- There is one region that credentials are asked for. -/
theorem asksFor_iff {r : String} : AsksFor c p r ↔ r = region c p := by
  unfold AsksFor region
  cases c.spec.customRegion with
  | none => simp
  | some own =>
    by_cases empty : own = ""
    · simp [Option.filter, empty]
    · simp only [Option.filter, empty, ne_eq, not_false_eq_true, decide_true, if_true,
        Option.some.injEq, Option.getD_some, false_and, or_false]
      constructor
      · rintro ⟨rfl, -⟩
        rfl
      · rintro rfl
        exact ⟨rfl, empty⟩

/-- What is cleared is authorized. -/
theorem Cleared.authorized (cleared : Cleared resolve t c s) : ¬ Unauthorized resolve t c s := by
  obtain ⟨p, r, credentials, held, ready, asks, resolved⟩ := cleared.granted
  rintro (absent | ⟨held', tells⟩ | ⟨held', asks', failed⟩)
  · cases absent.symm.trans held
  · cases held.symm.trans held'
    cases ready.symm.trans tells
  · cases held.symm.trans held'
    rw [asksFor_iff.mp asks', ← asksFor_iff.mp asks] at failed
    cases resolved.symm.trans failed

/-! ### Up to the gate -/

namespace Session

theorem wellKeyed_asked (keyed : s.store.WellKeyed) (t : Target) (c : Configuration) :
    (s.asked t c).store.WellKeyed := by
  have held := wellKeyed_hold keyed t c
  unfold asked
  split
  · exact wellKeyed_keep held t _
  · exact held

theorem get?_asked (other : key ≠ t.key) (apart : key ≠ t.inputBundleKey) :
    (s.asked t c).store.get? key = s.store.get? key := by
  unfold asked
  split
  · exact get?_heldAndKept other apart
  · exact get?_hold other

theorem triggered_asked (s : Session) (t : Target) (c : Configuration) :
    (s.asked t c).triggered = s.triggered := by
  unfold asked
  split <;> simp [triggered_keep, triggered_hold]

theorem quiet_asked (configuration : kind ≠ .configuration) (source : kind ≠ .configMap) :
    s.Quiet kind (s.asked t c) := by
  have held : s.Quiet kind (s.hold t c) := by
    unfold hold
    split
    · exact .refl
    · exact (writes_edit s t.key _).quiet configuration.symm
  unfold asked
  split
  · exact held.trans ((writes_write _ _ _).quiet source.symm)
  · exact held

theorem read_asked (keyed : s.store.WellKeyed) (held : s.store.read Configuration t.key = some c) :
    ∃ c₁, (s.asked t c).store.read Configuration t.key = some c₁ ∧ c.Continues c₁ := by
  unfold asked
  split
  · obtain ⟨c₁, found, continues, -⟩ := Configuration.read_heldAndKept keyed held _
    exact ⟨c₁, found, continues⟩
  · obtain ⟨c₁, found, continues, -⟩ := Configuration.read_hold keyed held
    exact ⟨c₁, found, continues⟩

variable {state : State} {message : String}

/-- A pass that stops writes to no other kinds. -/
theorem get?_stopped (configuration : key.kind ≠ .configuration) (source : key.kind ≠ .configMap) :
    (s.stopped t c state message).store.get? key = s.store.get? key := by
  have other : key ≠ t.key := by
    rintro rfl
    exact configuration rfl
  have apart : key ≠ t.inputBundleKey := by
    rintro rfl
    exact source rfl
  exact (get?_edit_of_ne _ _ other).trans (get?_asked other apart)

theorem told_stopped (configuration : kind ≠ .configuration) (source : kind ≠ .configMap) :
    (s.stopped t c state message).told kind = s.told kind :=
  ((quiet_asked configuration source).trans
    ((writes_edit _ t.key _).quiet configuration.symm)).told

theorem triggered_stopped : (s.stopped t c state message).triggered = s.triggered :=
  (triggered_edit _ _ _).trans (triggered_asked s t c)

theorem applyState_stopped (state : State) (message : String) (keyed : s.store.WellKeyed)
    (held : s.store.read Configuration t.key = some c) :
    ∃ c', (s.stopped t c state message).store.get? t.key = some (.configuration c') ∧
      c'.applyState = some state := by
  obtain ⟨c₁, found, -⟩ := read_asked keyed held
  obtain ⟨c₂, left, noted, -⟩ := read_noted state message ∅ found
  exact ⟨c₂, Store.read_eq_some_iff.mp left, noted⟩

end Session

namespace Reconcile

theorem valid_of_bundle (bundled : bundle t c = .ok b) :
    ∃ type, Terraform.validate c.spec = .ok type := by
  unfold bundle at bundled
  cases validated : Terraform.validate c.spec with
  | ok type => exact ⟨type, rfl⟩
  | error fault =>
    rw [validated] at bundled
    cases bundled

/-- Where credentials are resolved the provider is there, does not say that it is not ready, and has
credentials for the region that is asked for. -/
theorem granted_of_resolveCredentials {store : Store} {credentials : Dict String String}
    (resolved : resolveCredentials resolve c store = .ok credentials) :
    ∃ p, store.read Provider c.providerKey = some p ∧ p.isNotReady = false ∧
      resolve store p (region c p) = .ok credentials := by
  unfold resolveCredentials at resolved
  cases search : store.findNamed Provider c.providerReference.1 c.providerReference.2 with
  | error e =>
    simp only [search, bind, Except.bind] at resolved
    cases resolved
  | ok found =>
    simp only [search, bind, Except.bind] at resolved
    split at resolved
    · cases resolved
    · rename_i p
      split at resolved
      · cases resolved
      · rename_i ready
        exact ⟨p, Store.read_of_find search, by simpa using ready, resolved⟩

/-- A pass over an active configuration is cleared, or stops at the gate. -/
theorem cleared_or_stopped (settings : Settings) (resolve : Resolver) (keyed : s.store.WellKeyed)
    (held : s.store.read Configuration t.key = some c) :
    Cleared resolve t c s ∨ ∃ state message,
      state ∈ [State.authorizing, .staticCheckFailed, .reloading] ∧
      ((apply settings resolve t c).on s).2 = s.stopped t c state message := by
  have keyed₁ := Session.wellKeyed_asked keyed t c
  rw [on_apply keyed (keyed.placed held)]
  cases bundled : bundle t c with
  | error e =>
    obtain ⟨fault, rfl⟩ := invalid_of_bundle bundled
    have asked : s.asked t c = s.hold t c := by simp only [Session.asked, bundled]
    unfold Session.stopped
    rw [asked]
    exact .inr ⟨_, _, by decide, rfl⟩
  | ok b =>
    have asked : s.asked t c = (s.hold t c).keep t b := by simp only [Session.asked, bundled]
    have source : (s.hold t c).store.bundleDiffers t b = s.store.bundleDiffers t b :=
      Store.bundleDiffers_congr (Session.get?_hold (by nofun))
    simp only [← asked, source]
    cases differs : s.store.bundleDiffers t b with
    | true => exact .inr ⟨_, _, by decide, rfl⟩
    | false =>
      simp only [Bool.false_eq_true, if_false]
      rw [on_run keyed₁]
      cases resolved : resolveCredentials resolve c (s.asked t c).store with
      | error e => exact .inr ⟨_, _, by decide, rfl⟩
      | ok credentials =>
        obtain ⟨p, found, ready, granted⟩ := granted_of_resolveCredentials resolved
        have provider : (s.asked t c).store.get? c.providerKey = s.store.get? c.providerKey :=
          Session.get?_asked (by nofun) (by nofun)
        refine .inl ⟨?_, ⟨b, bundled, differs⟩, p, region c p, credentials, ?_, ready,
          asksFor_iff.mpr rfl, granted⟩
        · exact valid_of_bundle bundled
        · rw [← provider]
          exact Store.read_eq_some_iff.mp found

end Reconcile

/-! ### The gate -/

/-- Up to where it asks for credentials, a pass over an active configuration writes to nothing but
the configuration and the kept source. It changes or announces a job or the variable secret, or
hands a job over, only if it is cleared. If the configuration is not authorized all jobs stay as
they were, and the state of applying says that it waits for its provider, is invalid or is
reloading. -/
theorem apply_gate (settings : Settings) (resolve : Resolver) (request : Request)
    (keyed : s.store.WellKeyed)
    (held : s.store.get? (request.key .configuration) = some (.configuration c))
    (active : c.metadata.lifecycle = .active) :
    (∀ key, key ≠ request.key .configuration → key ≠ (Target.of settings c).inputBundleKey →
      (s.asked (.of settings c) c).store.get? key = s.store.get? key) ∧
    (∀ key, key.kind = .job ∨ key = (Target.of settings c).variableSecretKey →
      ((configurationPass settings resolve request).on s).2.store.get? key ≠ s.store.get? key →
        Cleared resolve (.of settings c) c s) ∧
    (∀ kind, kind = .job ∨ kind = .secret →
      ((configurationPass settings resolve request).on s).2.told kind ≠ s.told kind →
        Cleared resolve (.of settings c) c s) ∧
    (((configurationPass settings resolve request).on s).2.triggered ≠ s.triggered →
      Cleared resolve (.of settings c) c s) ∧
    (Unauthorized resolve (.of settings c) c s →
      (∀ key, key.kind = .job →
        ((configurationPass settings resolve request).on s).2.store.get? key = s.store.get? key) ∧
      ∃ c' state, ((configurationPass settings resolve request).on s).2.store.get?
          (request.key .configuration) = some (.configuration c') ∧
        c'.applyState = some state ∧
        state ∈ [State.authorizing, .staticCheckFailed, .reloading]) := by
  have read : s.store.read Configuration (request.key .configuration) = some c :=
    Store.read_eq_some_iff.mpr held
  rw [on_activePass keyed read active]
  generalize target : Target.of settings c = t
  have key : t.key = request.key .configuration := target ▸ Target.key_of (keyed.placed read)
  rw [← key] at read ⊢
  refine ⟨fun key => Session.get?_asked, ?_⟩
  rcases cleared_or_stopped settings resolve keyed read with
    cleared | ⟨state, message, listed, stopped⟩
  · exact ⟨fun _ _ _ => cleared, fun _ _ _ => cleared, fun _ => cleared,
      fun refused => absurd refused cleared.authorized⟩
  · have unwritten {kind : Kind} (named : kind = .job ∨ kind = .secret) :
        kind ≠ .configuration ∧ kind ≠ .configMap := by
      rcases named with rfl | rfl <;> decide
    have spared {key : ObjectKey} (named : key.kind = .job ∨ key = t.variableSecretKey) :
        ((apply settings resolve t c).on s).2.store.get? key = s.store.get? key := by
      have other := unwritten (named.imp_right fun values => congrArg ObjectKey.kind values)
      rw [stopped]
      exact Session.get?_stopped other.1 other.2
    obtain ⟨c', left, state₁⟩ := Session.applyState_stopped state message keyed read
    rw [stopped] at spared ⊢
    refine ⟨fun key named changed => absurd (spared named) changed,
      fun kind named told => absurd ?_ told,
      fun triggered => absurd Session.triggered_stopped triggered,
      fun _ => ⟨fun key job => spared (.inl job), c', state, left, state₁, listed⟩⟩
    exact Session.told_stopped (unwritten named).1 (unwritten named).2

namespace Sample

/-- The configuration with its provider and its credentials, before it is applied. -/
def unapplied : Session where
  store :=
    { items := .ofList
        [(request.key .configuration, .configuration configuration),
         (providerRequest.key .provider, .provider (provider "credentials")),
         (⟨.secret, "prod", "account"⟩, .secret account)]
      listeners := ∅ }
  now := ⟨0, 0⟩

theorem wellKeyed_unapplied : unapplied.store.WellKeyed := by
  refine Store.wellKeyed_ofList fun e listed => ?_
  simp only [List.mem_cons, List.not_mem_nil, or_false] at listed
  rcases listed with rfl | rfl | rfl <;> rfl

end Sample

/-- With its provider and credentials the configuration is cleared, and a job is handed over.
Without a provider all jobs stay as they were. -/
theorem apply_gate_sample :
    (Sample.unapplied.store.WellKeyed ∧
      Sample.unapplied.store.get? (Sample.request.key .configuration) =
        some (.configuration Sample.configuration) ∧
      ((configurationPass {} Provider.resolve Sample.request).on Sample.unapplied).2.triggered ≠
        [] ∧
      Cleared Provider.resolve (.of {} Sample.configuration) Sample.configuration
        Sample.unapplied) ∧
    Sample.session.store.WellKeyed ∧
    Sample.session.store.get? (Sample.request.key .configuration) =
      some (.configuration Sample.configuration) ∧
    Sample.configuration.metadata.lifecycle = .active ∧
    Sample.session.store.get? Sample.configuration.providerKey = none ∧
    ∀ key, key.kind = .job →
      ((configurationPass {} Provider.resolve Sample.request).on Sample.session).2.store.get? key =
        Sample.session.store.get? key := by
  have held : Sample.session.store.get? (Sample.request.key .configuration) =
      some (.configuration Sample.configuration) := rfl
  have absent : Sample.session.store.get? Sample.configuration.providerKey = none := rfl
  have held' : Sample.unapplied.store.get? (Sample.request.key .configuration) =
      some (.configuration Sample.configuration) := rfl
  have triggers : ((configurationPass {} Provider.resolve Sample.request).on
      Sample.unapplied).2.triggered ≠ [] := by decide +kernel
  obtain ⟨-, -, -, cleared, -⟩ :=
    apply_gate {} Provider.resolve Sample.request Sample.wellKeyed_unapplied held' rfl
  obtain ⟨-, -, -, -, refused⟩ :=
    apply_gate {} Provider.resolve Sample.request Sample.wellKeyed_session held rfl
  exact ⟨⟨Sample.wellKeyed_unapplied, held', triggers, cleared triggers⟩,
    Sample.wellKeyed_session, held, rfl, absent, (refused (.missing absent)).1⟩

end Provisioner
