import Provisioner.Proofs.History
import Provisioner.Proofs.Triggering

/-!
Jobs are handed over at most once. While nobody changes what a configuration asks for, its provider
or its credentials, what it still owes is at most one job that applies while it is active and one
that destroys while it waits to go. Every act pays from what is owed: a job is handed over only if
source, variables and job do not tell of the same inputs yet, and from then on they do, whatever the
executor reports and whatever fails in between.
-/

namespace Provisioner

open Reconcile

variable {s s' : Session} {t : Target} {c c₀ : Configuration} {request : Request}
  {settings : Settings} {e : Execution} {l : Lifecycle}

/-! ### What does not change -/

/-- Provider and credentials of a configuration are still those that they were in `s₀`, but for the
status of the provider. -/
structure Steady (s₀ : Store) (c : Configuration) (s : Store) : Prop where
  keyed : s.WellKeyed
  provider : Option.Rel Provider.Alike (s₀.read Provider c.providerKey)
    (s.read Provider c.providerKey)
  secret : ∀ key, s₀.credentialKey? c = some key → s.get? key = s₀.get? key

namespace Steady

variable {s₀ s s' : Store}

theorem refl (keyed : s.WellKeyed) (c : Configuration) : Steady s c s where
  keyed := keyed
  provider := by
    cases s.read Provider c.providerKey with
    | none => exact .none
    | some p => exact .some ⟨rfl, rfl, rfl⟩
  secret _ _ := rfl

theorem congr (steady : Steady s₀ c s) (keyed : s'.WellKeyed)
    (provider : s'.get? c.providerKey = s.get? c.providerKey)
    (secret : ∀ key, s₀.credentialKey? c = some key → s'.get? key = s.get? key) :
    Steady s₀ c s' where
  keyed := keyed
  provider := by
    rw [Store.read_congr provider]
    exact steady.provider
  secret key kept := (secret key kept).trans (steady.secret key kept)

/-- What is granted has not changed. -/
theorem granted (steady : Steady s₀ c s) : s.granted c = s₀.granted c := by
  have provider := steady.provider
  have secret := steady.secret
  unfold Store.granted
  unfold Store.credentialKey? at secret
  cases before : s₀.read Provider c.providerKey with
  | none =>
    rw [before] at provider
    cases later : s.read Provider c.providerKey with
    | none => rfl
    | some p' =>
      rw [later] at provider
      cases provider
  | some p =>
    rw [before] at provider secret
    cases later : s.read Provider c.providerKey with
    | none =>
      rw [later] at provider
      cases provider
    | some p' =>
      rw [later] at provider
      cases provider with
      | some alike =>
        have same : region c p' = region c p := by
          unfold region
          rw [alike.1]
        change Provider.resolve s p' (region c p') = Provider.resolve s₀ p (region c p)
        rw [same, alike.resolve, Provider.resolve_congr secret]

/-- The variables that are asked for are always the same, if any are. -/
theorem desired (steady : Steady s₀ c s) {env : Dict String String}
    (asked : s.desired Provider.resolve c = .ok env) :
    (s₀.granted c >>= environment c) = .ok env := by
  unfold Store.desired at asked
  cases resolved : resolveCredentials Provider.resolve c s with
  | error e =>
    rw [resolved] at asked
    cases asked
  | ok credentials =>
    rw [resolved] at asked
    rw [← steady.granted, steady.keyed.granted resolved]
    exact asked

end Steady

/-! ### Routine -/

/-- What goes on around a configuration while nobody changes what it asks for: passes over it and
over providers, requests to delete it, and what the executor writes, which is the status of jobs and
the state secret under a key. -/
def Act.IsRoutine (request : Request) (stateKey : ObjectKey) : Act → Prop
  | .write o => o.key? = some stateKey
  | @Act.edit τ _ _ f _ => ∀ r : τ, ∃ j status, Resource.wrap r = .job j ∧
      Resource.wrap (f r) = .job { j with status := status }
  | .delete key => key = request.key .configuration
  | .register _ _ | .clock _ | .providerPass _ => True
  | .pass asked => asked = request

/-- An edit of the status of jobs leaves everything else, and the fingerprints of jobs. -/
theorem Session.edit_job_cases {τ : Type} [Resource τ] {f : τ → τ} (keyed : s.store.WellKeyed)
    (key : ObjectKey)
    (status : ∀ r : τ, ∃ j status, Resource.wrap r = .job j ∧
      Resource.wrap (f r) = .job { j with status := status }) :
    (∀ k, k.kind ≠ .job → (s.edit key f).store.get? k = s.store.get? k) ∧
      ∀ k, (s.edit key f).store.fingerprint? k = s.store.fingerprint? k := by
  cases held : s.store.read τ key with
  | none =>
    rw [edit_of_read_none held]
    exact ⟨fun _ _ => rfl, fun _ => rfl⟩
  | some r =>
    obtain ⟨j, j', wrapped, edited, metadata⟩ : ∃ j j' : Job, Resource.wrap r = .job j ∧
        Resource.wrap (f r) = Resource.wrap j' ∧ j'.metadata = j.metadata := by
      obtain ⟨j, status, wrapped, edited⟩ := status r
      exact ⟨j, { j with status := status }, wrapped, edited, rfl⟩
    have stored : s.store.get? key = some (.job j) := wrapped ▸ Store.read_eq_some_iff.mp held
    have kind : key.kind = .job := (keyed.kind stored).symm
    rw [edit_of_read held, edited]
    refine ⟨fun k other => get?_write_of_ne _ _ fun here => other (here ▸ kind), fun k => ?_⟩
    by_cases here : k = key
    · subst here
      obtain ⟨j'', found, g, d, d', alike⟩ := read_write j' kind
      have annotations := Object.annotations_of_same alike
      rw [Object.metadata_timed] at annotations
      change j'.metadata.annotations = j''.metadata.annotations at annotations
      have before : s.store.read Job k = some j := Store.read_eq_some_iff.mpr stored
      unfold Store.fingerprint?
      rw [before, found, Option.bind_some, Option.bind_some]
      unfold Executor.fingerprint?
      rw [← annotations, metadata]
    · exact Store.fingerprint?_congr (get?_write_of_ne _ _ here)

/-! ### One act leaves provider and credentials -/

namespace Steady

variable {s₀ : Store}

theorem providerPass (steady : Steady s₀ c s.store) (resolve : Resolver) (asked : Request) :
    Steady s₀ c (s.perform settings resolve (.providerPass asked)).store where
  keyed := Session.wellKeyed_perform steady.keyed _
  provider := by
    change Option.Rel _ _
      (Store.read Provider ((Reconcile.providerPass resolve asked).on s).2.store c.providerKey)
    rcases providerPass_cases resolve steady.keyed asked with same | ⟨state, message, noted⟩
    · rw [same]
      exact steady.provider
    · rw [noted]
      by_cases here : c.providerKey = asked.key .provider
      · have provider := steady.provider
        rw [here] at provider ⊢
        generalize s₀.read Provider (asked.key .provider) = first at provider ⊢
        cases later : s.store.read Provider (asked.key .provider) with
        | none =>
          rw [Session.edit_of_read_none later]
          exact provider
        | some p =>
          rw [Provider.read_noted state message later]
          rw [later] at provider
          cases provider with
          | some before => exact .some before
      · rw [Store.read_congr (Session.get?_edit_of_ne _ _ here)]
        exact steady.provider
  secret key kept := by
    have kind := Store.kind_of_credentialKey kept
    exact (Session.get?_providerPass steady.keyed (by rw [kind]; nofun)).trans
      (steady.secret key kept)

/-- Every routine act leaves provider and credentials. -/
theorem perform (steady : Steady s₀ c₀ s.store)
    (separate : s₀.Separate (.of settings c₀) c₀)
    (alike : ∀ c, s.store.read Configuration (request.key .configuration) = some c → c₀.Alike c)
    {a : Act} (routine : a.IsRoutine request (Target.of settings c₀).stateSecretKey) :
    Steady s₀ c₀ (s.perform settings Provider.resolve a).store := by
  have keyed : (s.perform settings Provider.resolve a).store.WellKeyed :=
    Session.wellKeyed_perform steady.keyed a
  have apart : ∀ {key}, s₀.credentialKey? c₀ = some key → _ := fun {key} => separate.credentials key
  cases a with
  | write o =>
    rcases Session.perform_write_cases (s := s) o with same | ⟨key, named, written⟩
    · rw [same]
      exact steady
    · cases named.symm.trans routine
      rw [written] at keyed ⊢
      exact steady.congr keyed (Session.get?_write_of_ne _ _ (by nofun))
        fun key kept => Session.get?_write_of_ne _ _ (apart kept).2.1
  | edit τ key f keeps =>
    rcases Session.perform_edit_cases (s := s) τ key f keeps with same | edited
    · rw [same]
      exact steady
    · obtain ⟨others, -⟩ := Session.edit_job_cases steady.keyed key routine
      rw [edited] at keyed ⊢
      refine steady.congr keyed (others _ (by nofun)) fun key kept => others _ ?_
      rw [Store.kind_of_credentialKey kept]
      nofun
  | delete key =>
    cases routine
    refine steady.congr keyed (Session.get?_delete_of_ne _ (by nofun)) fun key kept =>
      Session.get?_delete_of_ne _ ?_
    rintro rfl
    cases Store.kind_of_credentialKey kept
  | register kind listener => exact steady.congr keyed rfl fun _ _ => rfl
  | clock now => exact steady.congr keyed rfl fun _ _ => rfl
  | providerPass asked => exact steady.providerPass Provider.resolve asked
  | pass asked =>
    cases routine
    refine steady.congr keyed
      (Session.get?_configurationPass_of_kind steady.keyed (by nofun) (.inr rfl))
      fun key kept => ?_
    have kind := Store.kind_of_credentialKey kept
    refine Session.get?_configurationPass settings Provider.resolve steady.keyed ?_ fun c held => ?_
    · rintro rfl
      cases kind
    · have same := alike c held
      rw [same.target]
      refine ⟨fun touched => ?_, fun generated => ?_⟩
      · cases touched with
        | variableSecret => exact (apart kept).1 rfl
        | connection published => exact (apart kept).2.2 (same.publishes.mp published)
        | _ => cases kind
      · simp only [generatedKeys, List.mem_cons, List.not_mem_nil, or_false] at generated
        rcases generated with rfl | rfl | rfl | rfl | rfl
        · cases kind
        · exact (apart kept).1 rfl
        · exact (apart kept).2.1 rfl
        · cases kind
        · cases kind

end Steady

/-! ### What is still owed -/

/-- A job that was handed over, and the lifecycle that the configuration had then, if it was there. -/
abbrev Handover := Option Lifecycle × ObjectKey

namespace Store

/-- The lifecycle of a configuration, if it is there. -/
def lifecycle? (s : Store) (request : Request) : Option Lifecycle :=
  (s.read Configuration (request.key .configuration)).map (·.metadata.lifecycle)

/-- The configuration is there with a lifecycle, and asks for what it asked for at first. -/
def Lives (s : Store) (t : Target) (c₀ : Configuration) (l : Lifecycle) : Prop :=
  ∃ c, s.read Configuration t.key = some c ∧ c₀.Alike c ∧ c.metadata.lifecycle = l

/-- The configuration is gone, or it only waits for others to let it go. -/
def Departed (s : Store) (t : Target) (c₀ : Configuration) : Prop :=
  ∀ c, s.read Configuration t.key = some c →
    c₀.Alike c ∧ c.metadata.lifecycle = .terminating ∧ hasOwnFinalizer c = false

/-- All is aligned with what the configuration asked for at first. -/
def Settled (s s₀ : Store) (t : Target) (c₀ : Configuration) (e : Execution) : Prop :=
  ∃ b env, bundle t c₀ = .ok b ∧ (s₀.granted c₀ >>= environment c₀) = .ok env ∧ Aligned t b env e s

/-- The jobs that may still be handed over. -/
inductive Owes (s s₀ : Store) (t : Target) (c₀ : Configuration) : List Handover → Prop
  | fresh (lives : s.Lives t c₀ .active) :
    Owes s s₀ t c₀ [(some .active, t.jobKey .apply), (some .terminating, t.jobKey .destroy)]
  | applied (lives : s.Lives t c₀ .active) (settled : s.Settled s₀ t c₀ .apply) :
    Owes s s₀ t c₀ [(some .terminating, t.jobKey .destroy)]
  | leaving (lives : s.Lives t c₀ .terminating) :
    Owes s s₀ t c₀ [(some .terminating, t.jobKey .destroy)]
  | destroyed (lives : s.Lives t c₀ .terminating) (settled : s.Settled s₀ t c₀ .destroy) :
    Owes s s₀ t c₀ []
  | departed (departed : s.Departed t c₀) : Owes s s₀ t c₀ []

variable {s s' s₀ : Store} {owed : List Handover}

theorem Owes.alike (owes : s.Owes s₀ t c₀ owed) (held : s.read Configuration t.key = some c) :
    c₀.Alike c := by
  have lived : ∀ {l}, s.Lives t c₀ l → c₀.Alike c := by
    rintro l ⟨c', held', alike, -⟩
    cases held.symm.trans held'
    exact alike
  cases owes with
  | fresh lives => exact lived lives
  | applied lives => exact lived lives
  | leaving lives => exact lived lives
  | destroyed lives => exact lived lives
  | departed departed => exact (departed c held).1

theorem Settled.congr (settled : s.Settled s₀ t c₀ e)
    (others : ∀ key, key = t.inputBundleKey ∨ key = t.variableSecretKey →
      s'.get? key = s.get? key)
    (job : s'.fingerprint? (t.jobKey e) = s.fingerprint? (t.jobKey e)) : s'.Settled s₀ t c₀ e := by
  obtain ⟨b, env, bundled, asked, aligned⟩ := settled
  refine ⟨b, env, bundled, asked, aligned.congr ?_ (others _ (.inr rfl)) job⟩
  rw [bundleDiffers_congr (others _ (.inl rfl)), aligned.source]

/-- What is owed stays owed while configuration, source, variables and fingerprints stay. -/
theorem Owes.congr (owes : s.Owes s₀ t c₀ owed)
    (configuration : s'.get? t.key = s.get? t.key)
    (others : ∀ key, key = t.inputBundleKey ∨ key = t.variableSecretKey →
      s'.get? key = s.get? key)
    (jobs : ∀ e, s'.fingerprint? (t.jobKey e) = s.fingerprint? (t.jobKey e)) :
    s'.Owes s₀ t c₀ owed := by
  have lived : ∀ {l}, s.Lives t c₀ l → s'.Lives t c₀ l := by
    rintro l ⟨c, held, rest⟩
    exact ⟨c, (read_congr configuration).trans held, rest⟩
  cases owes with
  | fresh lives => exact .fresh (lived lives)
  | applied lives settled => exact .applied (lived lives) (settled.congr others (jobs _))
  | leaving lives => exact .leaving (lived lives)
  | destroyed lives settled => exact .destroyed (lived lives) (settled.congr others (jobs _))
  | departed departed =>
    exact .departed fun c held => departed c ((read_congr configuration).symm.trans held)

end Store

/-! ### Paying what is owed -/

/-- What was handed over and what is still owed was owed before. -/
def Pays (s₀ : Store) (t : Target) (c₀ : Configuration) (request : Request) (owed : List Handover)
    (s s' : Session) : Prop :=
  ∃ handed left, s'.triggered = s.triggered ++ handed ∧ s'.store.Owes s₀ t c₀ left ∧
    (handed.map (s.store.lifecycle? request, ·) ++ left).Sublist owed

section Pays

variable {s₀ : Store} {owed left : List Handover}

theorem Pays.of_same (same : s'.triggered = s.triggered) (owes : s'.store.Owes s₀ t c₀ left)
    (less : left.Sublist owed) : Pays s₀ t c₀ request owed s s' :=
  ⟨[], left, by rw [same, List.append_nil], owes, less⟩

/-- A deletion leaves a configuration waiting to go, or it is gone. -/
theorem Session.read_delete {key : ObjectKey} (held : s.store.read Configuration key = some c) :
    (s.delete key).2.store.read Configuration key = none ∨
    ∃ c', (s.delete key).2.store.read Configuration key = some c' ∧ c.Alike c' ∧
      c'.metadata.lifecycle = .terminating ∧ hasOwnFinalizer c' = hasOwnFinalizer c := by
  have stored := Store.read_eq_some_iff.mp held
  cases finalizers : (Resource.wrap c).hasFinalizers with
  | false => exact .inl (Store.read_of_absent (get?_delete_free stored finalizers))
  | true =>
    refine .inr ⟨_, Store.read_eq_some_iff.mpr (get?_delete_held stored finalizers), ?_⟩
    exact ⟨⟨rfl, rfl, rfl⟩, lifecycle_marked s (.configuration c), rfl⟩

theorem Store.Owes.delete (owes : s.store.Owes s₀ t c₀ owed) (keyed : s.store.WellKeyed) :
    Pays s₀ t c₀ request owed s (s.delete t.key).2 := by
  have same : (s.delete t.key).2.triggered = s.triggered := Session.triggered_delete s t.key
  have lived : ∀ {l}, s.store.Lives t c₀ l → (s.delete t.key).2.store.Departed t c₀ ∨
      (s.delete t.key).2.store.Lives t c₀ .terminating := by
    rintro l ⟨c, held, alike, -⟩
    rcases Session.read_delete held with gone | ⟨c', held', alike', terminating, -⟩
    · refine .inl fun c' held' => ?_
      cases gone.symm.trans held'
    · exact .inr ⟨c', held', alike.trans alike', terminating⟩
  have waits : ∀ {l}, s.store.Lives t c₀ l →
      [((some .terminating : Option Lifecycle), t.jobKey .destroy)].Sublist owed →
      Pays s₀ t c₀ request owed s (s.delete t.key).2 := by
    intro l lives less
    rcases lived lives with departed | lives'
    · exact .of_same same (.departed departed) (List.nil_sublist _)
    · exact .of_same same (.leaving lives') less
  cases owes with
  | fresh lives => exact waits lives (List.sublist_cons_self _ _)
  | applied lives settled => exact waits lives (List.Sublist.refl _)
  | leaving lives => exact waits lives (List.Sublist.refl _)
  | destroyed lives settled =>
    rcases lived lives with departed | lives'
    · exact .of_same same (.departed departed) (List.Sublist.refl _)
    · refine .of_same same (.destroyed lives' (settled.congr ?_ ?_)) (List.Sublist.refl _)
      · rintro key (rfl | rfl) <;> exact Session.get?_delete_of_ne _ (by nofun)
      · exact Store.fingerprint?_congr (Session.get?_delete_of_ne _ (by nofun))
  | departed departed =>
    refine .of_same same (.departed fun c' held' => ?_) (List.Sublist.refl _)
    cases held : s.store.read Configuration t.key with
    | none =>
      have missing := (keyed.read_eq_none_iff rfl).mp held
      unfold Session.delete at held'
      rw [missing] at held'
      cases held.symm.trans held'
    | some c =>
      obtain ⟨alike, -, own⟩ := departed c held
      rcases Session.read_delete held with gone | ⟨c'', held'', alike', terminating, own'⟩
      · cases gone.symm.trans held'
      · cases held''.symm.trans held'
        exact ⟨alike.trans alike', terminating, own'.trans own⟩

/-! ### Passes pay -/

theorem Changes.keep (s : Session) (t : Target) (c : Configuration) (b : Bundle) :
    Changes t (t.Touches c) s (s.keep t b) :=
  .single (.write .inputBundle (key?_bundleMap t b))

theorem Changes.hold (s : Session) (t : Target) (c : Configuration) :
    Changes t (t.Touches c) s (s.hold t c) := by
  unfold Session.hold
  split
  · exact .refl
  · exact .single (.note note_withOwnFinalizer)

variable (separate : s₀.Separate t c₀) (steady : Steady s₀ c₀ s.store) (alike : c₀.Alike c)
include separate steady alike

/-- What a pass asks for on its way is what was asked for at first. -/
theorem Changes.desired {env : Dict String String} (changes : Changes t (t.Touches c) s s')
    (asked : s'.store.desired Provider.resolve c = .ok env) :
    (s₀.granted c₀ >>= environment c₀) = .ok env := by
  rw [alike.desired] at asked
  refine (steady.congr (changes.wellKeyed steady.keyed) ?_ fun key kept => ?_).desired asked
  · exact changes.get? (by nofun) fun touched => touched.not_provider rfl
  · have kind := Store.kind_of_credentialKey kept
    obtain ⟨variableSecret, -, outputs⟩ := separate.credentials key kept
    refine changes.get? ?_ fun touched => ?_
    · rintro rfl
      cases kind
    · cases touched with
      | variableSecret => exact variableSecret rfl
      | connection published => exact outputs (alike.publishes.mp published)
      | _ => cases kind

variable (held : s.store.read Configuration t.key = some c)
include held

theorem Store.Owes.apply (settings : Settings) (here : request.key .configuration = t.key)
    (active : c.metadata.lifecycle = .active) (owes : s.store.Owes s₀ t c₀ owed) :
    Pays s₀ t c₀ request owed s ((apply settings Provider.resolve t c).on s).2 := by
  have keyed := steady.keyed
  have placed := keyed.placed held
  have apart : ¬ Target.Publishes c t.variableSecretKey := fun published =>
    (separate.outputs _ (alike.publishes.mp published)).1 rfl
  have lives : ((Reconcile.apply settings Provider.resolve t c).on s).2.store.Lives t c₀ .active := by
    obtain ⟨c', held', continues, -⟩ := held_apply settings Provider.resolve keyed placed held
    exact ⟨c', held', alike.trans continues.alike, continues.lifecycle.trans active⟩
  have ended : ∀ {l}, s.store.Lives t c₀ l → l = .active := by
    rintro l ⟨c', held', -, rfl⟩
    cases held.symm.trans held'
    exact active
  have now : s.store.lifecycle? request = some .active := by
    unfold Store.lifecycle?
    rw [here, held, Option.map_some, active]
  have early : ∀ b, Changes t (t.Touches c) s ((s.hold t c).keep t b) := fun b =>
    (Changes.hold s t c).trans (Changes.keep _ t c b)
  cases owes with
  | fresh =>
    rcases apply_outcome settings Provider.resolve keyed placed apart with
      same | ⟨handed, b, env, bundled, asked, aligned⟩
    · exact .of_same same (.fresh lives) (List.Sublist.refl _)
    · have settled : Store.Settled _ s₀ t c₀ .apply :=
        ⟨b, env, alike.bundle t ▸ bundled, (early b).desired separate steady alike asked, aligned⟩
      refine ⟨[t.jobKey .apply], _, handed, .applied lives settled, ?_⟩
      rw [now]
      exact List.Sublist.refl _
  | applied _ settled =>
    obtain ⟨b, env, bundled, asked, aligned⟩ := settled
    have steadily : ∀ env',
        ((s.hold t c).keep t b).store.desired Provider.resolve c = .ok env' → env' = env := by
      intro env' asked'
      have same := (early b).desired separate steady alike asked'
      rw [asked] at same
      cases same
      rfl
    obtain ⟨same, aligned'⟩ := apply_of_aligned settings Provider.resolve keyed placed apart
      (alike.bundle t ▸ bundled) steadily aligned
    exact .of_same same (.applied lives ⟨b, env, bundled, asked, aligned'⟩) (List.Sublist.refl _)
  | leaving lives => cases ended lives
  | destroyed lives => cases ended lives
  | departed departed =>
    obtain ⟨-, terminating, -⟩ := departed c held
    cases active.symm.trans terminating

omit separate steady alike held in
/-- Once a configuration has been let go nothing is owed. -/
theorem Pays.letGo {c₁ : Configuration} (pays : Pays s₀ t c₀ request owed s s')
    (held₁ : s'.store.read Configuration t.key = some c₁) (alike₁ : c₀.Alike c₁) :
    Pays s₀ t c₀ request owed s (s'.letGo t c) := by
  obtain ⟨handed, left, triggered, -, less⟩ := pays
  refine ⟨handed, [], (Session.triggered_letGo).trans triggered, .departed fun c₂ held₂ => ?_, ?_⟩
  · rcases Session.letGo_cases (c := c) held₁ with
      ⟨-, gone⟩ | ⟨-, c', left', own, -, waits, alike'⟩
    · cases gone.symm.trans (Store.read_eq_some_iff.mp held₂)
    · cases left'.symm.trans (Store.read_eq_some_iff.mp held₂)
      exact ⟨alike₁.trans alike', waits, own⟩
  · rw [List.append_nil]
    exact (List.sublist_append_left _ _).trans less

theorem Store.Owes.destroyResources (settings : Settings)
    (here : request.key .configuration = t.key) (terminating : c.metadata.lifecycle = .terminating)
    (own : hasOwnFinalizer c = true) (owes : s.store.Owes s₀ t c₀ owed) :
    Pays s₀ t c₀ request owed s ((destroyResources settings Provider.resolve t c).on s).2 := by
  have keyed := steady.keyed
  have apart : ¬ Target.Publishes c t.variableSecretKey := fun published =>
    (separate.outputs _ (alike.publishes.mp published)).1 rfl
  have changes : Changes t (t.Touches c) s
      ((Reconcile.destroyResources settings Provider.resolve t c).on s).2 :=
    within_destroyResources s keyed
  obtain ⟨c', held', continues⟩ := changes.configuration Target.Touches.apart held
  have lives : Store.Lives _ t c₀ .terminating :=
    ⟨c', held', alike.trans continues.alike, continues.lifecycle.trans terminating⟩
  have ended : ∀ {l}, s.store.Lives t c₀ l → l = .terminating := by
    rintro l ⟨c', held', -, rfl⟩
    cases held.symm.trans held'
    exact terminating
  have now : s.store.lifecycle? request = some .terminating := by
    unfold Store.lifecycle?
    rw [here, held, Option.map_some, terminating]
  cases owes with
  | fresh lives => cases ended lives
  | applied lives => cases ended lives
  | leaving =>
    rcases destroyResources_outcome settings Provider.resolve keyed apart with
      same | ⟨handed, b, env, bundled, asked, aligned⟩
    · exact .of_same same (.leaving lives) (List.Sublist.refl _)
    · have settled : Store.Settled _ s₀ t c₀ .destroy :=
        ⟨b, env, alike.bundle t ▸ bundled,
          (Changes.keep s t c b).desired separate steady alike asked, aligned⟩
      refine ⟨[t.jobKey .destroy], _, handed, .destroyed lives settled, ?_⟩
      rw [now]
      exact List.Sublist.refl _
  | destroyed _ settled =>
    obtain ⟨b, env, bundled, asked, aligned⟩ := settled
    have steadily : ∀ env',
        (s.keep t b).store.desired Provider.resolve c = .ok env' → env' = env := by
      intro env' asked'
      have same := (Changes.keep s t c b).desired separate steady alike asked'
      rw [asked] at same
      cases same
      rfl
    obtain ⟨same, aligned'⟩ := destroyResources_of_aligned settings Provider.resolve keyed apart
      (alike.bundle t ▸ bundled) steadily aligned
    exact .of_same same (.destroyed lives ⟨b, env, bundled, asked, aligned'⟩) (List.Sublist.refl _)
  | departed departed =>
    obtain ⟨-, -, released⟩ := departed c held
    cases own.symm.trans released

theorem Store.Owes.destroy (settings : Settings) (here : request.key .configuration = t.key)
    (terminating : c.metadata.lifecycle = .terminating) (owes : s.store.Owes s₀ t c₀ owed) :
    Pays s₀ t c₀ request owed s ((destroy settings Provider.resolve t c).on s).2 := by
  have keyed := steady.keyed
  have changes : Changes t (t.Touches c) s
      ((Reconcile.destroyResources settings Provider.resolve t c).on s).2 :=
    within_destroyResources s keyed
  have stays : Pays s₀ t c₀ request owed s s := .of_same rfl owes (List.Sublist.refl _)
  obtain ⟨c', held', continues⟩ := changes.configuration Target.Touches.apart held
  rw [on_destroy keyed]
  split
  · exact stays
  rename_i own
  have pays := owes.destroyResources separate steady alike held settings here terminating
    (by simpa using own)
  split
  · rcases ran : (Reconcile.destroyResources settings Provider.resolve t c).on s with ⟨answer, s'⟩
    rw [ran] at pays held'
    cases answer with
    | error e => exact pays
    | ok _ => exact pays.letGo held' (alike.trans continues.alike)
  · exact stays.letGo held alike

end Pays

/-! ### One act -/

theorem Session.triggered_providerPass (keyed : s.store.WellKeyed) (resolve : Resolver)
    (asked : Request) : ((providerPass resolve asked).on s).2.triggered = s.triggered := by
  rcases providerPass_cases resolve keyed asked with same | ⟨state, message, noted⟩
  · rw [same]
  · rw [noted, triggered_edit]

/-- Every routine act pays from what is owed. -/
theorem Store.Owes.perform {s₀ : Store} {owed : List Handover}
    (separate : s₀.Separate (.of settings c₀) c₀) (steady : Steady s₀ c₀ s.store)
    (here : request.key .configuration = (Target.of settings c₀).key)
    (owes : s.store.Owes s₀ (.of settings c₀) c₀ owed) {a : Act}
    (routine : a.IsRoutine request (Target.of settings c₀).stateSecretKey) :
    Pays s₀ (.of settings c₀) c₀ request owed s (s.perform settings Provider.resolve a) := by
  have keyed := steady.keyed
  cases a with
  | write o =>
    rcases Session.perform_write_cases (s := s) o with same | ⟨key, named, written⟩
    · rw [same]
      exact .of_same rfl owes (List.Sublist.refl _)
    · cases named.symm.trans routine
      rw [written]
      refine .of_same (Session.triggered_write _ _ _) (owes.congr ?_ ?_ fun e => ?_)
        (List.Sublist.refl _)
      · exact Session.get?_write_of_ne _ _ (by nofun)
      · rintro key (rfl | rfl)
        · exact Session.get?_write_of_ne _ _ (by nofun)
        · exact Session.get?_write_of_ne _ _ separate.state.symm
      · exact Store.fingerprint?_congr (Session.get?_write_of_ne _ _ (by nofun))
  | edit τ key f keeps =>
    rcases Session.perform_edit_cases (s := s) τ key f keeps with same | edited
    · rw [same]
      exact .of_same rfl owes (List.Sublist.refl _)
    · obtain ⟨others, jobs⟩ := Session.edit_job_cases keyed key routine
      rw [edited]
      refine .of_same (Session.triggered_edit _ _ _)
        (owes.congr (others _ (by nofun)) ?_ fun e => jobs _) (List.Sublist.refl _)
      rintro key (rfl | rfl) <;> exact others _ (by nofun)
  | delete key =>
    cases routine
    rw [here]
    exact owes.delete keyed
  | register kind listener =>
    exact .of_same rfl (owes.congr rfl (fun _ _ => rfl) fun _ => rfl) (List.Sublist.refl _)
  | clock now => exact .of_same rfl owes (List.Sublist.refl _)
  | providerPass asked =>
    refine .of_same (Session.triggered_providerPass keyed _ asked) (owes.congr ?_ ?_ fun e => ?_)
      (List.Sublist.refl _)
    · exact Session.get?_providerPass keyed (by nofun)
    · rintro key (rfl | rfl) <;> exact Session.get?_providerPass keyed (by nofun)
    · exact Store.fingerprint?_congr (Session.get?_providerPass keyed (by nofun))
  | pass asked =>
    cases routine
    change Pays s₀ _ c₀ request owed s ((configurationPass settings Provider.resolve request).on s).2
    cases held : s.store.read Configuration (request.key .configuration) with
    | none =>
      rw [on_configurationPass keyed, held]
      exact .of_same rfl owes (List.Sublist.refl _)
    | some c =>
      have found : s.store.read Configuration (Target.of settings c₀).key = some c := here ▸ held
      have alike := owes.alike found
      cases lifecycle : c.metadata.lifecycle with
      | active =>
        rw [on_activePass keyed held lifecycle, alike.target]
        exact owes.apply separate steady alike found settings here lifecycle
      | terminating =>
        rw [on_terminatingPass keyed held lifecycle, alike.target]
        exact owes.destroy separate steady alike found settings here lifecycle

/-! ### Whole histories -/

namespace Session

/-- The jobs that some acts hand over, each with the lifecycle that a configuration had at the act
that handed the job over. -/
def handedOver (settings : Settings) (resolve : Resolver) (request : Request) (s : Session) :
    List Act → List Handover
  | [] => []
  | a :: rest =>
    ((s.perform settings resolve a).triggered.drop s.triggered.length).map
        (s.store.lifecycle? request, ·) ++
      (s.perform settings resolve a).handedOver settings resolve request rest

/-- A history of routine acts hands over no more than what is owed. -/
theorem handedOver_of_owes {s₀ : Store} {owed : List Handover}
    (separate : s₀.Separate (.of settings c₀) c₀)
    (here : request.key .configuration = (Target.of settings c₀).key) (acts : List Act)
    (routine : ∀ a ∈ acts, a.IsRoutine request (Target.of settings c₀).stateSecretKey)
    (steady : Steady s₀ c₀ s.store) (owes : s.store.Owes s₀ (.of settings c₀) c₀ owed) :
    (s.after settings Provider.resolve acts).triggered =
        s.triggered ++ (s.handedOver settings Provider.resolve request acts).map (·.2) ∧
      (s.handedOver settings Provider.resolve request acts).Sublist owed := by
  induction acts generalizing s owed with
  | nil => exact ⟨(List.append_nil _).symm, List.nil_sublist _⟩
  | cons a rest ih =>
    have now := routine a List.mem_cons_self
    have steady' := steady.perform separate (fun c held => owes.alike (here ▸ held)) now
    obtain ⟨handed, left, triggered, owes', less⟩ := owes.perform separate steady here now
    obtain ⟨later, less'⟩ := ih (fun a listed => routine a (List.mem_cons_of_mem _ listed))
      steady' owes'
    unfold handedOver
    rw [after_cons, later, triggered, List.drop_left]
    refine ⟨?_, ((List.Sublist.refl _).append less').trans less⟩
    simp [Function.comp_def]

end Session

/-- Jobs are handed over at most once, in every history that starts from objects under their own
keys and in which nobody changes what a configuration asks for: at most the job that applies while it
is active, then at most the job that destroys while it waits to go, and none once it is gone. The
secrets for outputs, variables, state and credentials have to be different ones. -/
theorem handedOver_at_most_once (settings : Settings) (s : Session) (request : Request)
    (c : Configuration) (acts : List Act) (keyed : s.store.WellKeyed)
    (held : s.store.get? (request.key .configuration) = some (.configuration c))
    (distinct : (s.store.secretKeys (.of settings c) c).Nodup)
    (routine : ∀ a ∈ acts, a.IsRoutine request (Target.of settings c).stateSecretKey) :
    (s.after settings Provider.resolve acts).triggered =
        s.triggered ++ (s.handedOver settings Provider.resolve request acts).map (·.2) ∧
      (s.handedOver settings Provider.resolve request acts).Sublist
        [(some .active, (Target.of settings c).jobKey .apply),
         (some .terminating, (Target.of settings c).jobKey .destroy)] := by
  have read : s.store.read Configuration (request.key .configuration) = some c :=
    Store.read_eq_some_iff.mpr held
  have here : request.key .configuration = (Target.of settings c).key :=
    (Target.key_of (keyed.placed read)).symm
  have separate := Store.separate_of_nodup distinct
  have start := Steady.refl keyed c
  have lives : ∀ {l}, c.metadata.lifecycle = l → s.store.Lives (.of settings c) c l := fun same =>
    ⟨c, here ▸ read, .refl c, same⟩
  cases lifecycle : c.metadata.lifecycle with
  | active =>
    exact Session.handedOver_of_owes separate here acts routine start (.fresh (lives lifecycle))
  | terminating =>
    obtain ⟨triggered, less⟩ :=
      Session.handedOver_of_owes separate here acts routine start (.leaving (lives lifecycle))
    exact ⟨triggered, less.trans (List.sublist_cons_self _ _)⟩

/-- Two passes, a deletion and a third pass over the small store hand over at most two jobs. -/
theorem handedOver_sample :
    Sample.session.store.WellKeyed ∧
    (Sample.session.store.secretKeys (.of {} Sample.configuration) Sample.configuration).Nodup ∧
    (Sample.session.handedOver {} Provider.resolve Sample.request
        [.pass Sample.request, .pass Sample.request, .delete (Sample.request.key .configuration),
         .pass Sample.request]).Sublist
      [(some .active, ⟨.job, "prod", "web-apply"⟩),
       (some .terminating, ⟨.job, "prod", "web-destroy"⟩)] := by
  have distinct : (Sample.session.store.secretKeys (.of {} Sample.configuration)
      Sample.configuration).Nodup := by decide
  refine ⟨Sample.wellKeyed_session, distinct, ?_⟩
  refine (handedOver_at_most_once {} Sample.session Sample.request Sample.configuration _
    Sample.wellKeyed_session ?_ distinct ?_).2
  · simp [Sample.session, Session.get?_holding]
  · intro a listed
    simp only [List.mem_cons, List.not_mem_nil, or_false] at listed
    rcases listed with rfl | rfl | rfl | rfl <;> rfl

end Provisioner
