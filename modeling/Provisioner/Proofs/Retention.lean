import Provisioner.Credentials
import Provisioner.Proofs.DestroyGate
import Provisioner.Proofs.Separation

/-!
Retention. A configuration that a pass has recorded as available stays, and so does the secret with
its state, until a pass finds the destroy job of the configuration succeeded. There is one other way
to go: without a ready provider there is nothing to destroy with, and the configuration goes at once.
Nothing is said of a configuration that tells a state from before provisioning which a later pass has
recorded.
-/

namespace Provisioner

open Reconcile

section

variable {s : Session} {key : ObjectKey} {request : Request} {settings : Settings}
  {resolve : Resolver} {c : Configuration} {state : Configuration.State} {a : Act}

/-! ### Orderly histories -/

/-- Nobody but passes changes more of a configuration than what it asks for, adds a configuration
where there is one, or deletes anything but configurations. -/
def Act.IsAdmitted (s : Store) : Act → Prop
  | .write o => ∀ key, o.key? = some key → key.kind = .configuration → s.get? key = none
  | @Act.edit τ _ _ f _ => ∀ (r : τ) c, Resource.wrap r = .configuration c →
      ∃ spec, Resource.wrap (f r) = .configuration { c with spec := spec }
  | .delete key => key.kind = .configuration
  | .register _ _ | .clock _ | .pass _ | .providerPass _ => True

/-- Every act is admitted when its turn comes. -/
def Orderly (settings : Settings) (resolve : Resolver) : Session → List Act → Prop :=
  Session.Throughout settings resolve fun s a => a.IsAdmitted s.store

/-- Before every act the configuration is there, and its cloud resources are to go with it. -/
def Lasting (settings : Settings) (resolve : Resolver) (request : Request) :
    Session → List Act → Prop :=
  Session.Throughout settings resolve fun s _ =>
    (s.store.read Configuration (request.key .configuration)).any (·.spec.deleteResource)

/-- The configuration is there at the beginning of a history in which it lasts. -/
theorem Lasting.found {acts : List Act}
    (lasting : Lasting settings resolve request s (acts ++ [a])) :
    ∃ c, s.store.get? (request.key .configuration) = some (.configuration c) ∧
      c.spec.deleteResource = true := by
  have first : (s.store.read Configuration (request.key .configuration)).any
      (·.spec.deleteResource) := by
    cases acts with
    | nil => exact (Session.throughout_cons.mp lasting).1
    | cons _ _ => exact (Session.throughout_cons.mp lasting).1
  obtain ⟨c, read, asked⟩ := (Option.any_eq_true _ _).mp first
  exact ⟨c, Store.read_eq_some_iff.mp read, asked⟩

theorem lasting_of_always {acts : List Act}
    (checked : s.always settings resolve (fun s =>
      (s.store.read Configuration (request.key .configuration)).any (·.spec.deleteResource)) acts) :
    Lasting settings resolve request s (acts ++ [a]) := by
  induction acts generalizing s with
  | nil =>
    refine Session.throughout_cons.mpr ⟨checked, fun before b later split => ?_⟩
    simp at split
  | cons b rest ih =>
    rw [Session.always, Bool.and_eq_true] at checked
    exact Session.throughout_cons.mpr ⟨checked.1, ih checked.2⟩

theorem admitted_write {s : Store} {o : Object} (named : o.key? = some key)
    (free : key.kind = .configuration → s.get? key = none) : (Act.write o).IsAdmitted s := by
  intro key' named' kind
  cases named.symm.trans named'
  exact free kind

theorem admitted_edit {s : Store} {τ : Type} [Resource τ] {f : τ → τ} {keeps : KeepsKey f}
    (other : Resource.kind τ ≠ .configuration) : (Act.edit τ key f keeps).IsAdmitted s := by
  intro r c wrapped
  have kind := Resource.kind_wrap r
  rw [wrapped] at kind
  exact absurd kind.symm other

/-! ### What becomes of a configuration -/

/-- What a configuration keeps through everything but passes over it. -/
structure Configuration.Abides (c c' : Configuration) : Prop where
  status : c'.status = c.status
  finalizers : c'.metadata.finalizers = c.metadata.finalizers
  terminating : c.metadata.lifecycle = .terminating → c'.metadata.lifecycle = .terminating

namespace Configuration.Abides

variable {c' : Configuration}

theorem refl (c : Configuration) : c.Abides c := ⟨rfl, rfl, id⟩

theorem applyState (abides : c.Abides c') : c'.applyState = c.applyState := by
  unfold Configuration.applyState
  rw [abides.status]

theorem held (abides : c.Abides c') : hasOwnFinalizer c' = hasOwnFinalizer c := by
  unfold hasOwnFinalizer Metadata.finalizerList
  rw [abides.finalizers]

theorem hasFinalizers (abides : c.Abides c') :
    c'.metadata.hasFinalizers = c.metadata.hasFinalizers := by
  unfold Metadata.hasFinalizers Metadata.finalizerList
  rw [abides.finalizers]

end Configuration.Abides

namespace Store

/-- The configuration is there, held by the finalizer of this library, with a state of applying. -/
def Tells (s : Store) (request : Request) (state : Configuration.State) : Prop :=
  ∃ c, s.get? (request.key .configuration) = some (.configuration c) ∧
    hasOwnFinalizer c = true ∧ c.applyState = some state

/-- The configuration has been let go and is only held by finalizers of others. -/
def Released (s : Store) (request : Request) : Prop :=
  ∃ c, s.get? (request.key .configuration) = some (.configuration c) ∧
    hasOwnFinalizer c = false ∧ c.metadata.hasFinalizers = true ∧
    c.metadata.lifecycle = .terminating

end Store

/-- What is stored when a configuration is told to ask for something else. -/
theorem Configuration.abides_stored (now : Timestamp) (c : Configuration)
    (spec : Configuration.Spec) :
    ∃ c', (Object.configuration { c with spec := spec }).stored now (some (.configuration c)) =
        .configuration c' ∧ c.Abides c' := by
  rcases Object.stored_cases now (.configuration { c with spec := spec })
    (some (.configuration c)) with ⟨p, same, stays, -⟩ | ⟨generation, created, replaced⟩
  · cases same
    exact ⟨c, stays, .refl c⟩
  · refine ⟨_, replaced, rfl, rfl, fun terminating => ?_⟩
    unfold Metadata.lifecycle at terminating ⊢
    cases deleted : c.metadata.deletionTimestamp with
    | none => simp [deleted] at terminating
    | some _ => simp [Object.metadata, deleted]

namespace Session

/-- Whatever is done but a pass over it, a configuration that finalizers hold abides. -/
theorem abides_perform (settings : Settings) (resolve : Resolver) (keyed : s.store.WellKeyed)
    (found : s.store.get? (request.key .configuration) = some (.configuration c))
    (holds : c.metadata.hasFinalizers = true) (admitted : a.IsAdmitted s.store)
    (other : a ≠ .pass request) :
    ∃ c', (s.perform settings resolve a).store.get? (request.key .configuration) =
      some (.configuration c') ∧ c.Abides c' := by
  cases a with
  | write o =>
    refine ⟨c, ?_, .refl c⟩
    rcases perform_write_cases (s := s) o with same | ⟨key, named, written⟩
    · rw [same, found]
    · rw [written, get?_write_of_ne, found]
      rintro rfl
      exact absurd (found.symm.trans (admitted _ named rfl)) nofun
  | edit τ key f keeps =>
    rcases perform_edit_cases (s := s) τ key f keeps with same | edited
    · rw [same]
      exact ⟨c, found, .refl c⟩
    · rw [edited]
      by_cases here : request.key .configuration = key
      · subst here
        cases held : s.store.read τ (request.key .configuration) with
        | none =>
          rw [edit_of_read_none held]
          exact ⟨c, found, .refl c⟩
        | some r =>
          have wrapped : Resource.wrap r = .configuration c :=
            Option.some.inj ((Store.read_eq_some_iff.mp held).symm.trans found)
          obtain ⟨spec, asked⟩ := admitted r c wrapped
          rw [edit_of_read held, get?_write_self, asked, found]
          obtain ⟨c', stored, abides⟩ := Configuration.abides_stored s.now c spec
          exact ⟨c', congrArg some stored, abides⟩
      · exact ⟨c, (get?_edit_of_ne _ _ here).trans found, .refl c⟩
  | delete key =>
    change ∃ c', (s.delete key).2.store.get? _ = _ ∧ _
    by_cases here : request.key .configuration = key
    · subst here
      rw [get?_delete_held found holds]
      exact ⟨_, rfl, rfl, rfl, fun _ => lifecycle_marked s (.configuration c)⟩
    · exact ⟨c, (get?_delete_of_ne s here).trans found, .refl c⟩
  | register kind listener => exact ⟨c, found, .refl c⟩
  | clock now => exact ⟨c, found, .refl c⟩
  | providerPass asked => exact ⟨c, (get?_providerPass keyed (by nofun)).trans found, .refl c⟩
  | pass asked =>
    have elsewhere : request.key .configuration ≠ asked.key .configuration :=
      fun same => other (congrArg Act.pass (Request.key_injective same).symm)
    exact ⟨c, (get?_configurationPass_of_kind keyed elsewhere (.inl rfl)).trans found, .refl c⟩

/-- A pass over a configuration that has been let go does nothing. -/
theorem perform_pass_released (keyed : s.store.WellKeyed)
    (found : s.store.get? (request.key .configuration) = some (.configuration c))
    (free : hasOwnFinalizer c = false) (terminating : c.metadata.lifecycle = .terminating) :
    s.perform settings resolve (.pass request) = s := by
  change ((configurationPass settings resolve request).on s).2 = s
  rw [on_terminatingPass keyed (Store.read_eq_some_iff.mpr found) terminating, on_destroy keyed,
    free]
  rfl

/-- A configuration that has been let go is never removed. -/
theorem released_perform (keyed : s.store.WellKeyed) (released : s.store.Released request)
    (admitted : a.IsAdmitted s.store) :
    (s.perform settings resolve a).store.Released request := by
  obtain ⟨c, found, free, holds, terminating⟩ := released
  by_cases here : a = .pass request
  · subst here
    rw [perform_pass_released keyed found free terminating]
    exact ⟨c, found, free, holds, terminating⟩
  · obtain ⟨c', found', abides⟩ := abides_perform settings resolve keyed found holds admitted here
    exact ⟨c', found', abides.held.trans free, abides.hasFinalizers.trans holds,
      abides.terminating terminating⟩

/-- A state that is told is told until a pass over the configuration notes another, or lets the
configuration go. -/
theorem tells_perform (settings : Settings) (resolve : Resolver) (keyed : s.store.WellKeyed)
    (tells : s.store.Tells request state) (admitted : a.IsAdmitted s.store) :
    (∃ state', (s.perform settings resolve a).store.Tells request state' ∧
      (state' = state ∨ a = .pass request ∧ state' ∈ Configuration.State.ofApplying)) ∨
    a = .pass request ∧ s.LetsGo settings resolve request ∧
      ((s.perform settings resolve a).store.get? (request.key .configuration) = none ∨
        (s.perform settings resolve a).store.Released request) := by
  obtain ⟨c, found, own, noted⟩ := tells
  by_cases here : a = .pass request
  · subst here
    have read : s.store.read Configuration (request.key .configuration) = some c :=
      Store.read_eq_some_iff.mpr found
    have target : (Target.of settings c).key = request.key .configuration :=
      Target.key_of (keyed.placed read)
    rw [← target] at read
    change (∃ state', ((configurationPass settings resolve request).on s).2.store.Tells _ _ ∧ _) ∨ _
    rcases configurationPass_cases settings resolve keyed (target ▸ read) with
      changes | ⟨terminating, -, mayGo, s₁, changes, left⟩ <;>
      obtain ⟨c₁, read₁, continues⟩ := changes.configuration Target.Touches.apart read
    · have found₁ := Store.read_eq_some_iff.mp (target ▸ read₁)
      rcases changes.applyState Target.Touches.apart read read₁ with same | ⟨state', listed, other⟩
      · exact .inl ⟨state, ⟨c₁, found₁, continues.held own, same.trans noted⟩, .inl rfl⟩
      · exact .inl ⟨state', ⟨c₁, found₁, continues.held own, other⟩, .inr ⟨rfl, listed⟩⟩
    · refine .inr ⟨rfl, ⟨c, found, terminating, own, mayGo⟩, ?_⟩
      change ((configurationPass settings resolve request).on s).2.store.get? _ = _ ∨
        ((configurationPass settings resolve request).on s).2.store.Released _
      rw [left, ← target]
      rcases letGo_cases (c := c) read₁ with ⟨-, gone⟩ | ⟨-, c', found', free, holds, waits, -⟩
      · exact .inl gone
      · exact .inr ⟨c', target ▸ found', free, holds, waits⟩
  · have holds : c.metadata.hasFinalizers = true := hasFinalizers_of_own own
    obtain ⟨c', found', abides⟩ := abides_perform settings resolve keyed found holds admitted here
    exact .inl ⟨state, ⟨c', found', abides.held.trans own, abides.applyState.trans noted⟩, .inl rfl⟩

end Session

/-! ### Histories -/

/-- Among the acts is a pass over the configuration that has left it telling this state. -/
def Recorded (settings : Settings) (resolve : Resolver) (s : Session) (request : Request)
    (acts : List Act) (state : Configuration.State) : Prop :=
  ∃ before later, acts = before ++ .pass request :: later ∧
    (s.after settings resolve (before ++ [.pass request])).store.Tells request state

theorem Recorded.cons {acts : List Act}
    (recorded : Recorded settings resolve (s.perform settings resolve a) request acts state) :
    Recorded settings resolve s request (a :: acts) state := by
  obtain ⟨before, later, split, tells⟩ := recorded
  exact ⟨a :: before, later, by rw [split, List.cons_append], tells⟩

namespace Session

theorem released_after (keyed : s.store.WellKeyed) (released : s.store.Released request)
    (acts : List Act) (orderly : Orderly settings resolve s (acts ++ [a])) :
    (s.after settings resolve acts).store.Released request := by
  induction acts generalizing s with
  | nil => exact released
  | cons b rest ih =>
    obtain ⟨admitted, orderly⟩ := Session.throughout_cons.mp orderly
    exact ih (wellKeyed_perform keyed b) (released_perform keyed released admitted) orderly

/-- As long as a configuration lasts, it tells the state that it told or one that a pass has
recorded since, unless it has been let go already. -/
theorem tells_after (keyed : s.store.WellKeyed) (tells : s.store.Tells request state)
    (acts : List Act) (orderly : Orderly settings resolve s (acts ++ [a]))
    (lasting : Lasting settings resolve request s (acts ++ [a])) :
    (∃ state', (s.after settings resolve acts).store.Tells request state' ∧
      (state' = state ∨ state' ∈ Configuration.State.ofApplying ∧
        Recorded settings resolve s request acts state')) ∨
    (s.after settings resolve acts).store.Released request := by
  induction acts generalizing s state with
  | nil => exact .inl ⟨state, tells, .inl rfl⟩
  | cons b rest ih =>
    obtain ⟨admitted, orderly⟩ := Session.throughout_cons.mp orderly
    obtain ⟨-, lasting⟩ := Session.throughout_cons.mp lasting
    have keyed' : (s.perform settings resolve b).store.WellKeyed := wellKeyed_perform keyed b
    rcases tells_perform settings resolve keyed tells admitted with
      ⟨state', tells', noted⟩ | ⟨-, -, gone | released⟩
    · rcases ih keyed' tells' orderly lasting with ⟨state'', tells'', since⟩ | released
      · refine .inl ⟨state'', tells'', ?_⟩
        rcases since with rfl | ⟨listed, recorded⟩
        · rcases noted with rfl | ⟨rfl, listed⟩
          · exact .inl rfl
          · exact .inr ⟨listed, [], rest, rfl, tells'⟩
        · exact .inr ⟨listed, recorded.cons⟩
      · exact .inr released
    · obtain ⟨c, found, -⟩ := Lasting.found lasting
      exact absurd (found.symm.trans gone) nofun
    · exact .inr (released_after keyed' released rest orderly)

end Session

/-! ### Grounds -/

/-- The states of applying that come before anything is provisioned. -/
def Configuration.State.unprovisioned : List State :=
  [authorizing, staticCheckFailed, invalidRegion, initError]

theorem mem_unprovisioned (listed : state ∈ Configuration.State.ofApplying)
    (before : isProvisioned (some state) = false) : state ∈ Configuration.State.unprovisioned := by
  revert state
  decide

/-- The configuration tells none of these states on account of a pass among the acts. -/
def StaysProvisioned (settings : Settings) (resolve : Resolver) (s : Session) (request : Request)
    (acts : List Act) : Prop :=
  ∀ state ∈ Configuration.State.unprovisioned, Recorded settings resolve s request acts state →
    ¬ (s.after settings resolve acts).store.Tells request state

/-- What a configuration that was available tells counts as provisioned. -/
theorem StaysProvisioned.isProvisioned {acts : List Act}
    (stays : StaysProvisioned settings resolve s request acts)
    (tells : (s.after settings resolve acts).store.Tells request state)
    (since : state = .available ∨
      state ∈ Configuration.State.ofApplying ∧ Recorded settings resolve s request acts state) :
    Reconcile.isProvisioned (some state) = true := by
  rcases since with rfl | ⟨listed, recorded⟩
  · rfl
  · cases before : Reconcile.isProvisioned (some state) with
    | true => rfl
    | false => exact absurd tells (stays state (mem_unprovisioned listed before) recorded)

/-- The provider that a configuration refers to is not there, or it is not ready. -/
def Store.Unprovided (s : Store) (c : Configuration) : Prop :=
  (s.read Provider c.providerKey).any (·.isReady) = false

/-- What lets a configuration go that waits to go: its destroy job has succeeded on just what a pass
finds, or it has no provider that is ready. -/
def Session.Grounds (settings : Settings) (resolve : Resolver) (s : Session) (request : Request) :
    Prop :=
  ∃ c, s.store.get? (request.key .configuration) = some (.configuration c) ∧
    c.metadata.lifecycle = .terminating ∧
    (Destroyed resolve (.of settings c) c s ∨ s.store.Unprovided c)

/-- A configuration that is provisioned does not count as one to go without destroying anything,
unless it has no provider that is ready. -/
theorem Store.WellKeyed.unprovided {s : Store} (keyed : s.WellKeyed)
    (free : Reconcile.isDeletable c s = .ok true) (noted : c.applyState = some state)
    (provisioned : Reconcile.isProvisioned (some state) = true) : s.Unprovided c := by
  rw [keyed.isDeletable, Except.ok.injEq] at free
  rcases Bool.or_eq_true_iff.mp free with unready | unprovisioned
  · unfold Store.Unprovided
    simpa using unready
  · rw [noted, provisioned] at unprovisioned
    cases unprovisioned

/-- A configuration that is provisioned is let go on these grounds only. -/
theorem Session.LetsGo.grounds (goes : s.LetsGo settings resolve request)
    (keyed : s.store.WellKeyed)
    (found : s.store.get? (request.key .configuration) = some (.configuration c))
    (asked : c.spec.deleteResource = true) (tells : s.store.Tells request state)
    (provisioned : Reconcile.isProvisioned (some state) = true) :
    s.Grounds settings resolve request := by
  obtain ⟨c', found', terminating, -, mayGo⟩ := goes
  cases found.symm.trans found'
  obtain ⟨c', found', -, noted⟩ := tells
  cases found.symm.trans found'
  refine ⟨c, found, terminating, ?_⟩
  rcases mayGo with kept | free | destroyed
  · rw [kept] at asked
    cases asked
  · exact .inr (keyed.unprovided free noted provisioned)
  · exact .inl destroyed

/-! ### The state secret -/

/-- The key of the secret with the state of what was provisioned for a configuration. -/
def Request.stateKey (settings : Settings) (request : Request) : ObjectKey :=
  ⟨.secret, settings.stateNs, Names.stateSecret request.name⟩

/-- A pass takes a state secret only if it lets its configuration go, and then only the secret of its
name or one that it publishes its outputs in. -/
theorem Session.pass_takes_state {other : Request} (keyed : s.store.WellKeyed)
    (held : (s.store.get? (request.stateKey settings)).isSome)
    (gone : ((configurationPass settings resolve other).on s).2.store.get?
      (request.stateKey settings) = none) :
    s.LetsGo settings resolve other ∧
      (other.name = request.name ∨
        ∃ c, s.store.get? (other.key .configuration) = some (.configuration c) ∧
          Target.Publishes c (request.stateKey settings)) := by
  cases read : s.store.read Configuration (other.key .configuration) with
  | none =>
    rw [on_configurationPass keyed, read] at gone
    exact absurd gone (Option.isSome_iff_ne_none.mp held)
  | some c =>
    have found := Store.read_eq_some_iff.mp read
    have target : (Target.of settings c).key = other.key .configuration :=
      Target.key_of (keyed.placed read)
    have kept : ∀ {s' : Session},
        Changes (.of settings c) (Target.Touches (.of settings c) c) s s' →
        s'.store.get? (request.stateKey settings) ≠ none := fun changes =>
      Option.isSome_iff_ne_none.mp <| changes.isSome held
        (fun same => Names.stateSecret_ne_variableSecret _ _ (congrArg ObjectKey.name same))
        (fun _ => nofun)
    rcases configurationPass_cases settings resolve keyed read with
      changes | ⟨terminating, own, mayGo, s₁, changes, left⟩
    · exact absurd gone (kept changes)
    · refine ⟨⟨c, found, terminating, own, mayGo⟩, ?_⟩
      by_cases generated : request.stateKey settings ∈ generatedKeys (.of settings c)
      · refine .inl ?_
        rw [← name_of_stateSecret generated]
        exact (congrArg ObjectKey.name target).symm
      · refine .inr ⟨c, found, Classical.byContradiction fun foreign => ?_⟩
        rw [left, get?_letGo (by nofun) generated] at gone
        · exact kept changes gone
        · exact fun ns name asked here => foreign ⟨ns, name, asked, here⟩

/-- Nothing that is admitted takes a state secret but a pass that lets a configuration go. -/
theorem Session.takes_state (keyed : s.store.WellKeyed) (admitted : a.IsAdmitted s.store)
    (held : (s.store.get? (request.stateKey settings)).isSome)
    (gone : (s.perform settings resolve a).store.get? (request.stateKey settings) = none) :
    ∃ other, a = .pass other ∧ s.LetsGo settings resolve other ∧
      (other.name = request.name ∨
        ∃ c, s.store.get? (other.key .configuration) = some (.configuration c) ∧
          Target.Publishes c (request.stateKey settings)) := by
  have stays : ∀ {s' : Session}, (s'.store.get? (request.stateKey settings)).isSome →
      s'.store.get? (request.stateKey settings) ≠ none := Option.isSome_iff_ne_none.mp
  cases a with
  | write o =>
    rcases perform_write_cases (s := s) o with same | ⟨key, named, written⟩
    · rw [same] at gone
      exact absurd gone (stays held)
    · rw [written] at gone
      exact absurd gone (stays (isSome_get?_write _ held))
  | edit τ key f keeps =>
    rcases perform_edit_cases (s := s) τ key f keeps with same | edited
    · rw [same] at gone
      exact absurd gone (stays held)
    · rw [edited] at gone
      exact absurd gone (stays (isSome_get?_edit _ held))
  | delete key =>
    change (s.delete key).2.store.get? _ = none at gone
    rw [get?_delete_of_ne s] at gone
    · exact absurd gone (stays held)
    · rintro rfl
      cases admitted
  | register | clock => exact absurd gone (stays held)
  | providerPass asked =>
    exact absurd ((get?_providerPass keyed (by nofun)).symm.trans gone) (stays held)
  | pass other => exact ⟨other, rfl, pass_takes_state keyed held gone⟩

end

/-! ### Stories -/

namespace Sample

/-- A session whose store is empty. -/
def empty : Session where
  store := {}
  now := ⟨0, 0⟩

theorem wellKeyed_empty : empty.store.WellKeyed := fun _ _ held => nomatch held

/-- The secret with the credentials. -/
def account : Secret := .ofTexts "prod" "account" (.singleton "credentials" "token: secret") none

/-- The provider, with its credentials in some entry of that secret. -/
def provider (entry : String) : Provider where
  metadata := { name := some "default", ns := some "default" }
  spec :=
    { provider := "custom"
      credentials := { source := .secret, secretRef := some ⟨"account", some "prod", entry⟩ } }

def providerRequest : Request := ⟨"default", "default"⟩

/-- The configuration as it is added. -/
def added : Configuration where
  metadata := { name := some "web", ns := some "prod" }
  spec := { hcl := some "# nothing" }

/-- The secret with the state that the executor leaves: one without outputs, compressed. -/
def stored : Secret :=
  .ofTexts "vela-system" (Names.stateSecret "web")
    (.singleton Names.stateEntry "H4sIAAAAAAAA/wECAP3/e31Dv6ajAgAAAA==") none

def succeeded (j : Job) : Job := { j with status := some { succeeded := some 1 } }

/-- The configuration is applied, and its job succeeds. -/
def provisioning : List Act :=
  [.write (.secret account),
   .write (.provider (provider "credentials")),
   .providerPass providerRequest,
   .write (.configuration added),
   .pass request,
   .edit Job ((Target.of {} added).jobKey .apply) succeeded fun _ => ⟨rfl, rfl⟩,
   .write (.secret stored)]

def provisioned : Session := empty.after {} Provider.resolve provisioning

/-- The provider loses its credentials before the configuration is deleted. -/
def outage : List Act :=
  [.edit Provider (providerRequest.key .provider)
     (fun p => { p with spec := (provider "lost").spec }) fun _ => ⟨rfl, rfl⟩,
   .providerPass providerRequest,
   .delete (request.key .configuration)]

/-- A configuration of the same name in another namespace, which asks for nothing. -/
def namesake : Configuration where
  metadata := { name := some "web", ns := some "staging" }
  spec := {}

def namesakeRequest : Request := ⟨"staging", "web"⟩

/-- The namesake comes, and is deleted. -/
def encounter : List Act :=
  [.write (.configuration namesake),
   .pass namesakeRequest,
   .delete (namesakeRequest.key .configuration)]

/-- All that happens, from the empty store on. -/
def story (middle : List Act) (last : Act) : List Act :=
  provisioning ++ .pass request :: (middle ++ [last])

/-- Among these acts the configuration is there and its cloud resources are to go with it, but the
last act takes its state secret though there never was a destroy job. -/
structure Loses (middle : List Act) (last : Act) : Prop where
  orderly : Orderly {} Provider.resolve empty (story middle last)
  lasting : Lasting {} Provider.resolve request provisioned (.pass request :: (middle ++ [last]))
  never : ∀ before later, story middle last = before ++ later →
    (empty.after {} Provider.resolve before).store.read Job
      ((Target.of {} added).jobKey .destroy) = none
  held : ((provisioned.after {} Provider.resolve (.pass request :: middle)).store.get?
    (request.stateKey {})).isSome = true
  lost : (empty.after {} Provider.resolve (story middle last)).store.get?
    (request.stateKey {}) = none

/-- What the stories come to, worked out together, since what they begin with takes longest. -/
theorem stories_come_to :
    (provisioned.store.read Configuration (request.key .configuration)).map
        (·.metadata.lifecycle) = some .active ∧
    (provisioned.store.read Job ((Target.of {} added).jobKey .apply)).bind (·.status) =
      some { succeeded := some 1 } ∧
    provisioned.store.get? (namesakeRequest.key .configuration) = none ∧
    ((provisioned.after {} Provider.resolve [.pass request]).store.read Configuration
      (request.key .configuration)).bind (·.applyState) = some .available ∧
    (empty.after {} Provider.resolve (story outage (.pass request))).store.get?
      (request.key .configuration) = none ∧
    ∀ told ∈ [(outage, request), (encounter, namesakeRequest)],
      provisioned.always {} Provider.resolve (fun s =>
        (s.store.read Configuration (request.key .configuration)).any (·.spec.deleteResource))
        (.pass request :: told.1) = true ∧
      empty.always {} Provider.resolve (fun s =>
        (s.store.read Job ((Target.of {} added).jobKey .destroy)).isNone)
        (story told.1 (.pass told.2)) = true ∧
      ((provisioned.after {} Provider.resolve (.pass request :: told.1)).store.get?
        (request.stateKey {})).isSome = true ∧
      (empty.after {} Provider.resolve (story told.1 (.pass told.2))).store.get?
        (request.stateKey {}) = none := by
  decide +kernel

theorem orderly_provisioning : Orderly {} Provider.resolve empty provisioning := by
  simp only [Orderly, provisioning, Session.throughout_cons]
  have apart : Kind.secret ≠ .configuration ∧ Kind.provider ≠ .configuration ∧
      Kind.job ≠ .configuration := by decide
  refine ⟨admitted_write rfl fun kind => absurd kind apart.1,
    admitted_write rfl fun kind => absurd kind apart.2.1, trivial, admitted_write rfl fun _ => ?_,
    trivial, admitted_edit apart.2.2, admitted_write rfl fun kind => absurd kind apart.1,
    Session.throughout_nil⟩
  decide +kernel

theorem orderly_outage {s : Session} :
    Orderly {} Provider.resolve s (.pass request :: (outage ++ [.pass request])) := by
  simp only [Orderly, outage, List.cons_append, List.nil_append, Session.throughout_cons]
  exact ⟨trivial, admitted_edit (by decide), trivial, rfl, trivial, Session.throughout_nil⟩

/-- In the outage no pass is made over the configuration. -/
theorem staysProvisioned_outage {s : Session} :
    StaysProvisioned {} Provider.resolve s request outage := by
  rintro state - ⟨before, later, split, -⟩
  have listed : Act.pass request ∈ outage := by
    rw [split]
    exact List.mem_append_right _ List.mem_cons_self
  simp [outage] at listed

theorem orderly_encounter {s : Session} (keyed : s.store.WellKeyed)
    (free : s.store.get? (namesakeRequest.key .configuration) = none) :
    Orderly {} Provider.resolve s
      (.pass request :: (encounter ++ [.pass namesakeRequest])) := by
  have elsewhere : namesakeRequest.key .configuration ≠ request.key .configuration := by decide
  have still : (s.perform {} Provider.resolve (.pass request)).store.get?
      (namesakeRequest.key .configuration) = none :=
    (Session.get?_configurationPass_of_kind keyed elsewhere (.inl rfl)).trans free
  simp only [Orderly, encounter, List.cons_append, List.nil_append, Session.throughout_cons]
  exact ⟨trivial, admitted_write rfl fun _ => still, trivial, rfl, trivial,
    Session.throughout_nil⟩

theorem wellKeyed_provisioned : provisioned.store.WellKeyed :=
  Session.wellKeyed_after wellKeyed_empty _

theorem loses {middle : List Act} {asked : Request}
    (told : (middle, asked) ∈ [(outage, request), (encounter, namesakeRequest)]) :
    Loses middle (.pass asked) := by
  obtain ⟨-, -, free, -, -, stories⟩ := stories_come_to
  obtain ⟨there, never, held, lost⟩ := stories _ told
  have orderly : Orderly {} Provider.resolve provisioned
      (.pass request :: (middle ++ [.pass asked])) := by
    simp only [List.mem_cons, List.not_mem_nil, or_false] at told
    rcases told with same | same <;> cases same
    · exact orderly_outage
    · exact orderly_encounter wellKeyed_provisioned free
  refine ⟨Session.throughout_append.mpr ⟨orderly_provisioning, orderly⟩, lasting_of_always there,
    fun before later split => ?_, held, lost⟩
  exact Option.isNone_iff_eq_none.mp (Session.always_iff.mp never before later split)

end Sample

/-- Retention, at every moment of every orderly history from the first pass that leaves an active
configuration available, as long as its cloud resources are to go with it and it tells no state from
before provisioning that a pass has recorded since. Only a pass over the configuration removes it,
and only on one of the grounds. Its state secret is only removed by a pass that lets a configuration
go: this one, on one of the grounds, or another one, of the same name or with its outputs in that
secret. And while it is held it does not count as one to go without destroying anything, unless it
has no provider that is ready. -/
theorem retained_until_destroyed (settings : Settings) (resolve : Resolver) (s : Session)
    (request : Request) (mid : List Act) (a : Act) (keyed : s.store.WellKeyed)
    (active : s.store.HasActive request)
    (available : ((s.after settings resolve [.pass request]).store.read Configuration
      (request.key .configuration)).bind (·.applyState) = some .available)
    (orderly : Orderly settings resolve s (.pass request :: (mid ++ [a])))
    (lasting : Lasting settings resolve request s (.pass request :: (mid ++ [a])))
    (stays : StaysProvisioned settings resolve (s.after settings resolve [.pass request]) request
      mid) :
    ((s.after settings resolve (.pass request :: (mid ++ [a]))).store.get?
        (request.key .configuration) = none →
      a = .pass request ∧
        (s.after settings resolve (.pass request :: mid)).Grounds settings resolve request) ∧
    (((s.after settings resolve (.pass request :: mid)).store.get?
        (request.stateKey settings)).isSome →
      (s.after settings resolve (.pass request :: (mid ++ [a]))).store.get?
        (request.stateKey settings) = none →
      ∃ other, a = .pass other ∧
        (s.after settings resolve (.pass request :: mid)).LetsGo settings resolve other ∧
        (other = request →
          (s.after settings resolve (.pass request :: mid)).Grounds settings resolve request) ∧
        (other.name = request.name ∨
          ∃ c, (s.after settings resolve (.pass request :: mid)).store.get?
              (other.key .configuration) = some (.configuration c) ∧
            Target.Publishes c (request.stateKey settings))) ∧
    ∀ c, (s.after settings resolve (.pass request :: mid)).store.get?
        (request.key .configuration) = some (.configuration c) → hasOwnFinalizer c = true →
      isDeletable c (s.after settings resolve (.pass request :: mid)).store = .ok true →
      (s.after settings resolve (.pass request :: mid)).store.Unprovided c := by
  simp only [Session.after_cons, Session.after_nil, Session.after_append] at available stays ⊢
  have tells : (s.perform settings resolve (.pass request)).store.Tells request .available := by
    obtain ⟨c, found, own⟩ : (s.perform settings resolve (.pass request)).store.HoldsBack request :=
      Session.holdsBack_pass keyed active
    rw [Store.read_eq_some_iff.mpr found] at available
    exact ⟨c, found, own, available⟩
  obtain ⟨-, orderly⟩ := Session.throughout_cons.mp orderly
  obtain ⟨-, lasting⟩ := Session.throughout_cons.mp lasting
  have first : (s.perform settings resolve (.pass request)).store.WellKeyed :=
    Session.wellKeyed_perform keyed _
  generalize s.perform settings resolve (.pass request) = s₁ at *
  have last : (s₁.after settings resolve mid).store.WellKeyed := Session.wellKeyed_after first mid
  have run : (∃ state, (s₁.after settings resolve mid).store.Tells request state ∧
      Reconcile.isProvisioned (some state) = true) ∨
      (s₁.after settings resolve mid).store.Released request :=
    (Session.tells_after first tells mid orderly lasting).imp_left
      fun ⟨state, tells, since⟩ => ⟨state, tells, stays.isProvisioned tells since⟩
  have admitted : a.IsAdmitted (s₁.after settings resolve mid).store := orderly mid a [] rfl
  obtain ⟨c, read, asked⟩ := (Option.any_eq_true _ _).mp (lasting mid a [] rfl)
  have found := Store.read_eq_some_iff.mp read
  refine ⟨fun gone => ?_, fun held gone => ?_, fun c' found' own free => ?_⟩
  · rcases run with ⟨state, tells, provisioned⟩ | released
    · rcases Session.tells_perform settings resolve last tells admitted with
        ⟨state', ⟨c', found', -⟩, -⟩ | ⟨here, goes, -⟩
      · exact absurd (found'.symm.trans gone) nofun
      · exact ⟨here, goes.grounds last found asked tells provisioned⟩
    · obtain ⟨c', found', -⟩ : ((s₁.after settings resolve mid).perform settings resolve
          a).store.Released request := Session.released_perform last released admitted
      exact absurd (found'.symm.trans gone) nofun
  · obtain ⟨other, here, goes, place⟩ := Session.takes_state last admitted held gone
    refine ⟨other, here, goes, ?_, place⟩
    rintro rfl
    rcases run with ⟨state, tells, provisioned⟩ | ⟨c₁, found₁, free, -⟩
    · exact goes.grounds last found asked tells provisioned
    · obtain ⟨c₂, found₂, -, own, -⟩ := goes
      cases found₁.symm.trans found₂
      rw [free] at own
      cases own
  · rcases run with ⟨state, ⟨c₁, found₁, -, noted⟩, provisioned⟩ | ⟨c₁, found₁, released, -⟩ <;>
      cases found'.symm.trans found₁
    · exact last.unprovided free noted provisioned
    · rw [released] at own
      cases own

/-- In the story of the outage the last pass removes the configuration, and it has grounds to. -/
theorem retained_until_destroyed_sample :
    Sample.provisioned.store.WellKeyed ∧
    Sample.provisioned.store.HasActive Sample.request ∧
    ((Sample.provisioned.after {} Provider.resolve [.pass Sample.request]).store.read Configuration
      (Sample.request.key .configuration)).bind (·.applyState) = some .available ∧
    Orderly {} Provider.resolve Sample.provisioned
      (.pass Sample.request :: (Sample.outage ++ [.pass Sample.request])) ∧
    Lasting {} Provider.resolve Sample.request Sample.provisioned
      (.pass Sample.request :: (Sample.outage ++ [.pass Sample.request])) ∧
    StaysProvisioned {} Provider.resolve
      (Sample.provisioned.after {} Provider.resolve [.pass Sample.request]) Sample.request
      Sample.outage ∧
    (Sample.provisioned.after {} Provider.resolve (.pass Sample.request :: Sample.outage)).Grounds
      {} Provider.resolve Sample.request := by
  obtain ⟨lifecycle, -, -, available, gone, -⟩ := Sample.stories_come_to
  have active : Sample.provisioned.store.HasActive Sample.request := by
    obtain ⟨c, read, active⟩ := Option.map_eq_some_iff.mp lifecycle
    exact ⟨c, Store.read_eq_some_iff.mp read, active⟩
  have lasting : Lasting {} Provider.resolve Sample.request Sample.provisioned
      (.pass Sample.request :: (Sample.outage ++ [.pass Sample.request])) :=
    (Sample.loses List.mem_cons_self).lasting
  rw [Sample.story, Session.after_append] at gone
  refine ⟨Sample.wellKeyed_provisioned, active, available, Sample.orderly_outage, lasting,
    Sample.staysProvisioned_outage, ?_⟩
  exact ((retained_until_destroyed {} Provider.resolve Sample.provisioned Sample.request
    Sample.outage (.pass Sample.request) Sample.wellKeyed_provisioned active available
    Sample.orderly_outage lasting Sample.staysProvisioned_outage).1 gone).2

/-- Destroying is not the only way to go. In both stories the apply job has succeeded and a pass has
recorded the configuration as available, and there never is a destroy job. Still a pass removes the
configuration and its state secret when the provider is not ready any more; and the pass that
removes a namesake takes the secret too. -/
theorem destroying_forgone :
    (Sample.provisioned.store.read Job ((Target.of {} Sample.added).jobKey .apply)).bind
      (·.status) = some { succeeded := some 1 } ∧
    ((Sample.provisioned.after {} Provider.resolve [.pass Sample.request]).store.read Configuration
      (Sample.request.key .configuration)).bind (·.applyState) = some .available ∧
    (Sample.Loses Sample.outage (.pass Sample.request) ∧
      (Sample.empty.after {} Provider.resolve
        (Sample.story Sample.outage (.pass Sample.request))).store.get?
        (Sample.request.key .configuration) = none) ∧
    Sample.Loses Sample.encounter (.pass Sample.namesakeRequest) := by
  obtain ⟨-, succeeded, -, available, gone, -⟩ := Sample.stories_come_to
  exact ⟨succeeded, available, ⟨Sample.loses (by simp), gone⟩, Sample.loses (by simp)⟩

end Provisioner
