import Provisioner.Proofs.DestroyNotices
import Provisioner.Proofs.FixedPoint

/-!
What a pass answers agrees with the status that it leaves. A pass is done with a configuration only
in states in which nothing is left to do until something changes; it asks to be called again after
the fixed delay only in states in which something is under way; and it fails only in states that say
what went wrong. No error escapes that only says that a job still runs: such errors come from
looking at a job and from nowhere else, least of all from resolving credentials or reading outputs.
-/

namespace Provisioner

open Reconcile
open Provisioner.Configuration (State)
open Executor (Progress Report)

variable {α β : Type} {s s' : Session} {t : Target} {c c₁ : Configuration} {b : Bundle}
  {key : ObjectKey} {settings : Settings} {resolve : Resolver}

/-! ### Errors that are not about a running job -/

/-- Where it fails, it is not because a job still runs. -/
def Definite (answered : Except Error α) : Prop := ∀ e, answered = .error e → e.isPending = false

theorem definite_ok (a : α) : Definite (.ok a : Except Error α) := nofun

theorem definite_error {e : Error} (final : e.isPending = false) :
    Definite (.error e : Except Error α) := by
  intro e' same
  cases same
  exact final

theorem definite_mapError {ε : Type} {f : ε → Error} (final : ∀ e, (f e).isPending = false)
    (x : Except ε α) : Definite (x.mapError f) := by
  cases x with
  | ok a => exact definite_ok a
  | error e => exact definite_error (final e)

theorem Definite.bind {x : Except Error α} {f : α → Except Error β} (first : Definite x)
    (rest : ∀ a, Definite (f a)) : Definite (x >>= f) := by
  cases x with
  | ok a => exact rest a
  | error e => exact definite_error (first e rfl)

namespace Store

theorem definite_find (τ : Type) [Resource τ] (s : Store) (key : ObjectKey) :
    Definite (s.find τ key) := by
  unfold find
  dsimp only
  repeat' split
  · exact definite_ok _
  · exact definite_ok _
  · exact definite_error rfl
  · exact definite_error rfl

end Store

theorem Provider.definite_document (s : Store) (p : Provider) : Definite (p.document s) := by
  unfold document
  dsimp only
  split
  · exact definite_error rfl
  · split
    · exact definite_error rfl
    · refine (Store.definite_find _ _ _).bind fun found => ?_
      split
      · exact definite_error rfl
      · split
        · exact definite_ok _
        · exact definite_error rfl

theorem Provider.definite_resolve (s : Store) (p : Provider) (region : String) :
    Definite (Provider.resolve s p region) := by
  unfold resolve
  refine (definite_document s p).bind fun document => ?_
  split
  · exact definite_error rfl
  · exact definite_mapError (fun _ => rfl) _

namespace Reconcile

theorem definite_resolveCredentials
    (definite : ∀ s p region, Definite (resolve s p region)) (c : Configuration) (s : Store) :
    Definite (resolveCredentials resolve c s) := by
  unfold resolveCredentials
  refine (Store.definite_find _ _ _).bind fun found => ?_
  split
  · exact definite_error rfl
  · split
    · exact definite_error rfl
    · exact definite _ _ _

theorem definite_outputs (s : Store) (t : Target) : Definite (Outputs.read s t) := by
  unfold Outputs.read
  refine (Store.definite_find _ _ _).bind fun found => ?_
  split
  · exact definite_error rfl
  · split
    · exact definite_error rfl
    · refine (definite_mapError (fun _ => rfl) _).bind fun document => ?_
      unfold Terraform.outputs
      exact (definite_mapError (fun _ => rfl) _).bind fun values =>
        (definite_mapError (fun _ => rfl) _).bind fun entries => definite_ok _

theorem definite_generate (keyed : s.store.WellKeyed) :
    Definite ((Outputs.generate c t).on s).1 := by
  have read := definite_outputs s.store t
  rw [on_generate keyed]
  cases outputs : Outputs.read s.store t with
  | error e => exact definite_error (read e outputs)
  | ok outputs =>
    dsimp only
    split
    · exact definite_ok _
    · split
      · exact definite_error rfl
      · exact definite_ok _

theorem definite_prepare (definite : ∀ s p region, Definite (resolve s p region))
    (keyed : s.store.WellKeyed) : Definite ((prepare resolve t c).on s).1 := by
  rw [on_prepare keyed]
  cases bundled : bundle t c with
  | error e =>
    obtain ⟨fault, rfl⟩ := invalid_of_bundle bundled
    exact definite_error rfl
  | ok b =>
    dsimp only
    cases resolved : resolveCredentials resolve c (s.keep t b).store with
    | error e => exact definite_error (definite_resolveCredentials definite _ _ e resolved)
    | ok credentials =>
      obtain ⟨env, settled⟩ := environment_of_bundle bundled credentials
      simp only [settled]
      exact definite_ok _

end Reconcile

/-! ### Applying -/

/-- What a pass over an active configuration may answer with the state of applying that it found and
the one that it leaves. -/
inductive ApplyAgrees (before : Option State) : Option State → Except Error Outcome → Prop
  | done {x : State}
    (final : x ∈ [.staticCheckFailed, .available, .applyFailed, .initError, .invalidRegion]) :
    ApplyAgrees before (some x) (.ok .done)
  | underway {x : State} (known : x = .reloading ∨ x = .provisioningAndChecking) :
    ApplyAgrees before (some x) (.ok (.after 3000))
  | still (known : before = some .invalidRegion) :
    ApplyAgrees before (some .invalidRegion) (.ok (.after 3000))
  | failed {x : State} {e : Error} (known : x = .authorizing ∨ x = .generatingOutputs)
    (final : e.isPending = false) : ApplyAgrees before (some x) (.error e)

/-- An answer that does not ask for another pass at once, nor fails because a job still runs. -/
structure Composed (answered : Except Error Outcome) : Prop where
  requeue : ∀ o, answered = .ok o → o.requeue = false
  definite : Definite answered

theorem composed_done : Composed (.ok .done) := by
  refine ⟨fun o same => ?_, definite_ok _⟩
  cases same
  rfl

theorem composed_later : Composed (.ok (.after 3000)) := by
  refine ⟨fun o same => ?_, definite_ok _⟩
  cases same
  rfl

theorem composed_failed {e : Error} (final : e.isPending = false) : Composed (.error e) :=
  ⟨nofun, definite_error final⟩

theorem ApplyAgrees.composed {before after : Option State} {answered : Except Error Outcome}
    (agrees : ApplyAgrees before after answered) : Composed answered := by
  cases agrees with
  | done => exact composed_done
  | underway => exact composed_later
  | still => exact composed_later
  | failed _ final => exact composed_failed final

/-- A part of a pass answers in agreement with the status that it leaves, once its errors have been
told apart. -/
def Session.AppliedFrom (before : Option State) (t : Target)
    (ran : Except Error Outcome × Session) : Prop :=
  ∃ c', ran.2.store.read Configuration t.key = some c' ∧
    ApplyAgrees before c'.applyState (answer ran.1)

namespace Reconcile

theorem answer_of_definite {e : Error} (final : e.isPending = false) :
    answer (.error e) = .error e := by
  simp [answer, final]

end Reconcile

namespace Session

/-- A part that ends with a note agrees if the state that is noted does. -/
theorem appliedFrom_noted {before : Option State} {answered : Except Error Outcome} {state : State}
    {message : String} {outputs : Dict String String}
    (held : s.store.read Configuration t.key = some c₁)
    (agrees : ApplyAgrees before (some state) (answer answered)) :
    AppliedFrom before t (answered, s.edit t.key (withApplyStatus state message outputs)) := by
  obtain ⟨c₂, found, noted, -⟩ := read_noted state message outputs held
  exact ⟨c₂, found, noted ▸ agrees⟩

end Session

namespace Reconcile

theorem appliedFrom_recordSuccess {before : Option State} (keyed : s.store.WellKeyed)
    (held : s.store.read Configuration t.key = some c₁) :
    Session.AppliedFrom before t ((recordSuccess t c).on s) := by
  have definite := definite_generate (t := t) (c := c) keyed
  have kept : ((Outputs.generate c t).on s).2.store.read Configuration t.key = some c₁ :=
    (Store.read_congr (get?_generate keyed (by nofun))).trans held
  rw [on_recordSuccess]
  cases answered : ((Outputs.generate c t).on s).1 with
  | ok outputs => exact Session.appliedFrom_noted kept (.done (by decide))
  | error e =>
    refine Session.appliedFrom_noted kept ?_
    have final := definite e answered
    change ApplyAgrees before _ (answer (.error e))
    rw [answer_of_definite final]
    exact .failed (.inr rfl) final

/-- A job that runs leaves the state in which the configuration waits for it. -/
theorem appliedFrom_recordRunning {before : Option State} (keyed : s.store.WellKeyed)
    (held : s.store.read Configuration t.key = some c₁)
    (since : c₁.applyState = before ∨ c₁.applyState = some .reloading) :
    Session.AppliedFrom before t ((recordRunning t).on s) := by
  rw [on_recordRunning keyed, held]
  cases waiting : isWaiting ((some c₁).bind (·.applyState)) with
  | false => exact Session.appliedFrom_noted held (.underway (.inr rfl))
  | true =>
    refine ⟨c₁, held, ?_⟩
    change isWaiting c₁.applyState = true at waiting
    unfold isWaiting at waiting
    rcases Bool.or_eq_true_iff.mp waiting with provisioning | region
    · rw [of_decide_eq_true provisioning]
      exact .underway (.inr rfl)
    · have region := of_decide_eq_true region
      rw [region] at since ⊢
      exact .still (since.resolve_right nofun).symm

theorem appliedFrom_recordProgress {before : Option State} (keyed : s.store.WellKeyed)
    (held : s.store.read Configuration t.key = some c₁)
    (since : c₁.applyState = before ∨ c₁.applyState = some .reloading) (r : Report) :
    Session.AppliedFrom before t ((recordProgress t c r).on s) := by
  obtain ⟨progress, message⟩ := r
  cases progress with
  | succeeded => exact appliedFrom_recordSuccess keyed held
  | provisioning => exact appliedFrom_recordRunning keyed held since
  | initError | applyError | invalidRegion =>
    rw [on_recordFailure rfl]
    exact Session.appliedFrom_noted held (.done (by decide))

end Reconcile

namespace Session

/-- Getting ready leaves the state of applying, unless it notes that variables have changed. -/
theorem applyState_ready (settings : Settings) (b : Bundle) (env : Dict String String)
    (held : s.store.read Configuration t.key = some c₁) :
    ∃ c₂, (s.ready settings t b env).store.read Configuration t.key = some c₂ ∧
      (c₂.applyState = c₁.applyState ∨ c₂.applyState = some .reloading) := by
  have settled : (s.settleVariables t env).store.read Configuration t.key = some c₁ :=
    (Store.read_congr (get?_provide_of_ne _ _ (by nofun))).trans held
  rw [read_ready_eq]
  unfold reload
  split
  · obtain ⟨c₂, found, noted, -⟩ := read_noted .reloading
      "Configuration's variable has changed, and starts reloading" ∅ settled
    exact ⟨c₂, found, .inr noted⟩
  · exact ⟨c₁, settled, .inl rfl⟩

/-- Holding a configuration leaves its status. -/
theorem status_hold (held : s.store.read Configuration t.key = some c) :
    ∃ c₁, (s.hold t c).store.read Configuration t.key = some c₁ ∧ c₁.status = c.status := by
  unfold hold
  split
  · exact ⟨c, held, rfl⟩
  · obtain ⟨c₁, found, -, -, -, status⟩ := Configuration.read_edit note_withOwnFinalizer.gentle
      (note_withOwnFinalizer.spec c) held
    refine ⟨c₁, found, status.trans ?_⟩
    unfold withOwnFinalizer
    split <;> rfl

end Session

namespace Reconcile

theorem appliedFrom_run {before : Option State} (settings : Settings)
    (definite : ∀ s p region, Definite (resolve s p region)) (keyed : s.store.WellKeyed)
    (bundled : bundle t c = .ok b) (held : s.store.read Configuration t.key = some c₁)
    (since : c₁.applyState = before) :
    Session.AppliedFrom before t ((run settings resolve t c b).on s) := by
  rw [on_run keyed]
  cases resolved : resolveCredentials resolve c s.store with
  | error e =>
    refine Session.appliedFrom_noted held ?_
    have final := definite_resolveCredentials definite c s.store e resolved
    rw [answer_of_definite final]
    exact .failed (.inl rfl) final
  | ok credentials =>
    obtain ⟨env, settled⟩ := environment_of_bundle bundled credentials
    obtain ⟨c₂, found, kept⟩ := Session.applyState_ready settings b env held
    simp only [settled]
    exact appliedFrom_recordProgress (Session.wellKeyed_ready keyed settings t b env) found
      (since ▸ kept) _

theorem appliedFrom_apply (settings : Settings)
    (definite : ∀ s p region, Definite (resolve s p region)) (keyed : s.store.WellKeyed)
    (held : s.store.read Configuration t.key = some c) :
    Session.AppliedFrom c.applyState t ((apply settings resolve t c).on s) := by
  obtain ⟨c₁, found, status⟩ := Session.status_hold held
  have since : c₁.applyState = c.applyState := congrArg (·.bind (·.apply.state)) status
  have keyedHold := Session.wellKeyed_hold keyed t c
  rw [on_apply keyed (keyed.placed held)]
  cases bundled : bundle t c with
  | error e =>
    obtain ⟨fault, rfl⟩ := invalid_of_bundle bundled
    exact Session.appliedFrom_noted found (.done (by decide))
  | ok b =>
    have kept : ((s.hold t c).keep t b).store.read Configuration t.key = some c₁ :=
      (Store.read_congr (Session.get?_write_of_ne _ _ (by nofun))).trans found
    dsimp only
    split
    · exact Session.appliedFrom_noted kept (.underway (.inl rfl))
    · exact appliedFrom_run settings definite (Session.wellKeyed_keep keyedHold t b) bundled kept
        since

end Reconcile

/-! ### Destroying -/

/-- What a pass over a configuration that waits to go may answer with what it leaves. -/
inductive DestroyAgrees (c : Configuration) (key : ObjectKey) (s : Session) :
    Session → Except Error Outcome → Prop
  | unheld (free : hasOwnFinalizer c = false) : DestroyAgrees c key s s (.ok .done)
  | gone {s' : Session} (own : hasOwnFinalizer c = true) (gone : s'.store.get? key = none) :
    DestroyAgrees c key s s' (.ok .done)
  | released {s' : Session} {c' : Configuration} (own : hasOwnFinalizer c = true)
    (held : s'.store.get? key = some (.configuration c'))
    (destroyed : c'.destroyState = some .destroyed) (released : hasOwnFinalizer c' = false)
    (others : c'.metadata.hasFinalizers = true) : DestroyAgrees c key s s' (.ok .done)
  | underway {s' : Session} {c' : Configuration}
    (held : s'.store.get? key = some (.configuration c'))
    (known : c'.destroyState = some .destroying ∨ c'.destroyState = some .destroyFailed) :
    DestroyAgrees c key s s' (.ok (.after 3000))
  | failed {s' : Session} {c' : Configuration} {e : Error}
    (held : s'.store.get? key = some (.configuration c'))
    (known : c'.destroyState = some .destroyFailed) (final : e.isPending = false) :
    DestroyAgrees c key s s' (.error e)

theorem DestroyAgrees.composed {answered : Except Error Outcome}
    (agrees : DestroyAgrees c key s s' answered) : Composed answered := by
  cases agrees with
  | unheld => exact composed_done
  | gone => exact composed_done
  | released => exact composed_done
  | underway => exact composed_later
  | failed _ _ final => exact composed_failed final

namespace Session

theorem destroyState_noted (state : State) (message : String)
    (held : s.store.read Configuration key = some c) :
    ∃ c', (s.edit key (withDestroyStatus state message)).store.read Configuration key = some c' ∧
      c'.destroyState = some state := by
  have note := note_withDestroyStatus state message
  obtain ⟨c', found, -, -, -, status⟩ :=
    Configuration.read_edit note.gentle (note.spec c) held
  exact ⟨c', found, congrArg (·.bind (·.destroy.state)) status⟩

/-- Whatever is left of a configuration that was let go says that it is destroyed. -/
theorem destroyState_letGo {c₀ c' : Configuration}
    (held : s.store.read Configuration t.key = some c₀)
    (left : (s.letGo t c).store.get? t.key = some (.configuration c')) :
    c'.destroyState = some .destroyed := by
  obtain ⟨c₁, noted, destroyed⟩ :=
    destroyState_noted .destroyed "Cloud resources are destroyed" held
  have cleaned : (Session.cleanup _ t c).store.read Configuration t.key = some c₁ :=
    (Store.read_congr (get?_cleanup_of_configuration rfl)).trans noted
  obtain ⟨c₂, released, -, -, -, status⟩ :=
    Configuration.read_edit gentle_withoutOwnFinalizer rfl cleaned
  have stored := Store.read_eq_some_iff.mp released
  unfold letGo at left
  cases holds : (Resource.wrap c₂ : Object).hasFinalizers with
  | false => cases (get?_delete_free stored holds).symm.trans left
  | true =>
    cases (get?_delete_held stored holds).symm.trans left
    exact (congrArg (·.bind (·.destroy.state)) status).trans destroyed

end Session

namespace Reconcile

/-- Running the job that destroys ends with the note of how that went. -/
theorem destroyResources_agrees {e : Error} (settings : Settings)
    (definite : ∀ s p region, Definite (resolve s p region)) (keyed : s.store.WellKeyed)
    (held : s.store.read Configuration t.key = some c)
    (ran : (destroyResources settings resolve t c).on s = (.error e, s')) (before : Session) :
    DestroyAgrees c t.key before s' (answer (.error e)) := by
  have prepared := definite_prepare (t := t) (c := c) definite keyed
  have converged := converged_configuration (t := t) (c := c) settings resolve keyed
  rw [on_destroyResources keyed] at ran
  rcases first : (prepare resolve t c).on s with ⟨e' | ⟨i, changed⟩, s₁⟩
  · rw [first] at ran prepared
    cases ran
    have kept : s₁.store.read Configuration t.key = some c :=
      (Store.read_congr (get?_prepare_of_error resolve keyed first (by nofun))).trans held
    obtain ⟨c', found, noted⟩ := Session.destroyState_noted .destroyFailed e.message kept
    rw [answer_of_definite (prepared e rfl)]
    exact .failed (Store.read_eq_some_iff.mp found) noted (prepared e rfl)
  · have kept := (converged i changed).2
    rw [first] at ran kept
    obtain ⟨c₁, found, destroying⟩ := Session.destroyState_noted .destroying
      "Cloud resources are being destroyed..." ((Store.read_congr kept).trans held)
    dsimp only at ran
    split at ran
    · cases ran
    · cases ran
      exact .underway (Store.read_eq_some_iff.mp found) (.inl destroying)
    · cases ran
      obtain ⟨c₂, found₂, failed⟩ := Session.destroyState_noted .destroyFailed _ found
      exact .underway (Store.read_eq_some_iff.mp found₂) (.inr failed)

theorem destroyAgrees_letGo {c₀ : Configuration} (own : hasOwnFinalizer c = true)
    (held : s.store.read Configuration t.key = some c₀) (before : Session) :
    DestroyAgrees c t.key before (s.letGo t c) (.ok .done) := by
  rcases Session.letGo_cases (c := c) held with ⟨-, gone⟩ | ⟨-, c', left, released, others, -, -⟩
  · exact .gone own gone
  · exact .released own left (Session.destroyState_letGo held left) released others

theorem destroyAgrees_destroy (settings : Settings)
    (definite : ∀ s p region, Definite (resolve s p region)) (keyed : s.store.WellKeyed)
    (held : s.store.read Configuration t.key = some c) :
    DestroyAgrees c t.key s ((destroy settings resolve t c).on s).2
      (answer ((destroy settings resolve t c).on s).1) := by
  have changes : Changes t (t.Touches c) s ((destroyResources settings resolve t c).on s).2 :=
    within_destroyResources s keyed
  rw [on_destroy keyed]
  cases own : hasOwnFinalizer c with
  | false => exact .unheld own
  | true =>
    simp only [Bool.not_true, Bool.false_eq_true, if_false]
    split
    · rcases ran : (destroyResources settings resolve t c).on s with ⟨e | _, s'⟩
      · exact destroyResources_agrees settings definite keyed held ran s
      · rw [ran] at changes
        obtain ⟨c₀, found, -⟩ := changes.configuration Target.Touches.apart held
        exact destroyAgrees_letGo own found s
    · exact destroyAgrees_letGo own held s

end Reconcile

/-! ### Whole passes -/

/-- What a pass over a stored configuration answers agrees with the status that it leaves: if the
configuration is active with the state of applying, and if it waits to go with that of destroying,
or with it being gone or held by others alone. No pass asks to be called again at once, and none
fails only because a job still runs. -/
theorem answer_agrees_with_status (settings : Settings) (request : Request)
    (keyed : s.store.WellKeyed)
    (held : s.store.get? (request.key .configuration) = some (.configuration c)) :
    (c.metadata.lifecycle = .active →
      ∃ c', ((configurationPass settings Provider.resolve request).on s).2.store.get?
          (request.key .configuration) = some (.configuration c') ∧
        ApplyAgrees c.applyState c'.applyState
          ((configurationPass settings Provider.resolve request).on s).1) ∧
    (c.metadata.lifecycle = .terminating →
      DestroyAgrees c (request.key .configuration) s
        ((configurationPass settings Provider.resolve request).on s).2
        ((configurationPass settings Provider.resolve request).on s).1) ∧
    (∀ o, ((configurationPass settings Provider.resolve request).on s).1 = .ok o →
      o.requeue = false) ∧
    (∀ e, ((configurationPass settings Provider.resolve request).on s).1 = .error e →
      e.isPending = false) := by
  have read : s.store.read Configuration (request.key .configuration) = some c :=
    Store.read_eq_some_iff.mpr held
  have key : (Target.of settings c).key = request.key .configuration :=
    Target.key_of (keyed.placed read)
  have target : s.store.read Configuration (Target.of settings c).key = some c := key ▸ read
  cases lifecycle : c.metadata.lifecycle with
  | active =>
    rw [on_activePass keyed read lifecycle]
    obtain ⟨c', left, agrees⟩ := appliedFrom_apply settings Provider.definite_resolve keyed target
    refine ⟨fun _ => ⟨c', ?_, agrees⟩, nofun, agrees.composed.requeue, agrees.composed.definite⟩
    rw [← key]
    exact Store.read_eq_some_iff.mp left
  | terminating =>
    rw [on_terminatingPass keyed read lifecycle]
    have agrees := destroyAgrees_destroy settings Provider.definite_resolve keyed target
    exact ⟨nofun, fun _ => key ▸ agrees, agrees.composed.requeue, agrees.composed.definite⟩

namespace Sample

/-- The configuration of the small store, when it has been asked to go. -/
def departing : Configuration :=
  { configuration with
    metadata := { configuration.metadata with deletionTimestamp := some ⟨0, 0⟩ } }

/-- A small store with just that. -/
def departure : Session :=
  .holding (Sample.request.key .configuration) (.configuration departing)

theorem wellKeyed_departure : departure.store.WellKeyed := Session.wellKeyed_holding (by decide)

end Sample

/-- Without its provider, a configuration that is active fails to be authorized and says so, and one
that waits to go is gone or held by others. -/
theorem answer_agrees_with_status_sample :
    (Sample.session.store.WellKeyed ∧ ∃ c' e,
      ((configurationPass {} Provider.resolve Sample.request).on Sample.session).1 = .error e ∧
      ((configurationPass {} Provider.resolve Sample.request).on Sample.session).2.store.get?
        (Sample.request.key .configuration) = some (.configuration c') ∧
      (c'.applyState = some .authorizing ∨ c'.applyState = some .generatingOutputs)) ∧
    (Sample.departure.store.WellKeyed ∧
      ((configurationPass {} Provider.resolve Sample.request).on Sample.departure).1 = .ok .done ∧
      DestroyAgrees Sample.departing (Sample.request.key .configuration) Sample.departure
        ((configurationPass {} Provider.resolve Sample.request).on Sample.departure).2
        (.ok .done)) := by
  constructor
  · obtain ⟨active, -⟩ := answer_agrees_with_status (c := Sample.configuration) {} Sample.request
      Sample.wellKeyed_session rfl
    obtain ⟨c', left, agrees⟩ := active rfl
    have answered : ((configurationPass {} Provider.resolve Sample.request).on Sample.session).1 =
        .error (.provider (.notFound "default" "default")) := rfl
    rw [answered] at agrees
    refine ⟨Sample.wellKeyed_session, c', _, answered, left, ?_⟩
    generalize c'.applyState = state at agrees
    cases agrees with
    | failed known => exact known.imp (congrArg some) (congrArg some)
  · obtain ⟨-, terminating, -⟩ :=
      answer_agrees_with_status (c := Sample.departing) {} Sample.request
        Sample.wellKeyed_departure rfl
    have answered :
        ((configurationPass {} Provider.resolve Sample.request).on Sample.departure).1 =
          .ok .done := rfl
    exact ⟨Sample.wellKeyed_departure, answered, answered ▸ terminating rfl⟩

end Provisioner
