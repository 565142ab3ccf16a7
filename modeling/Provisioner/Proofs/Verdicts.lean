import Provisioner.Proofs.DestroyNotices
import Provisioner.Proofs.FixedPoint
import Provisioner.Proofs.Reachability
import Provisioner.Proofs.Retention

/-!
What a pass writes on its own configuration. A pass over an active one holds it by a finalizer and
may replace what is told of applying by a verdict as a whole; a pass over one that waits to go may
replace what is told of destroying, and takes the finalizer off when it lets the configuration go.
Several notes in one pass come to the last of them, so that what is left after a pass is told by one
edit of what was found. Each verdict goes by what that very pass finds out, and by nothing that was
told before.
-/

namespace Provisioner

open Reconcile
open Executor (Inputs Report)

variable {s s' : Session} {t : Target} {c c₁ c' : Configuration} {key : ObjectKey} {b : Bundle}
  {settings : Settings} {resolve : Resolver} {request : Request}

/-! ### Edits -/

/-- What waits to go already is left as it is by marking it. -/
theorem Session.marked_of_terminating {o : Object} (terminating : o.lifecycle = .terminating) :
    s.marked o = o := by
  unfold Object.lifecycle Metadata.lifecycle at terminating
  split at terminating
  · rename_i since
    obtain ⟨time, since⟩ := Option.isSome_iff_exists.mp since
    have same : (o.metadata.deletionTimestamp <|> some s.now) = o.metadata.deletionTimestamp := by
      rw [since]
      rfl
    unfold marked
    rw [same]
    exact o.withMetadata_metadata
  · cases terminating

namespace Configuration

/-- The configuration with another verdict on applying it, for its generation. -/
def judged (v : ApplyStatus) (c : Configuration) : Configuration :=
  { c with
    status := some
      { observedGeneration := c.metadata.generation.getD 0
        apply := v
        destroy := c.statusOrDefault.destroy } }

/-- The configuration as if nothing had been told of it yet. -/
def untold (c : Configuration) : Configuration := { c with status := none }

end Configuration

/-! ### Verdicts -/

/-- A pass that starts with a configuration gets as far as its job: the source renders, the
credentials are resolved, the environment is complete, and the job is in line in the session that
is reached. -/
def Reaches (settings : Settings) (resolve : Resolver) (t : Target) (c : Configuration)
    (s s' : Session) : Prop :=
  ∃ b credentials env,
    bundle t c = .ok b ∧
    resolveCredentials resolve c ((s.hold t c).keep t b).store = .ok credentials ∧
    environment c credentials = .ok env ∧
    s' = ((s.hold t c).keep t b).ready settings t b env

/-- The verdicts of a pass on applying a configuration, which starts in a session. Each is made from
what this pass finds out, and none from what was told before. What is reported of the job and the
outputs are those that the pass finds. -/
inductive Verdict (settings : Settings) (resolve : Resolver) (t : Target) (c : Configuration)
    (s : Session) : Configuration.ApplyStatus → Prop
  | invalid {fault : SpecFault} (failed : bundle t c = .error (.invalid fault)) :
    Verdict settings resolve t c s ⟨some .staticCheckFailed, fault.message, ∅⟩
  | otherSource {b : Bundle} (rendered : bundle t c = .ok b)
    (differs : s.store.bundleDiffers t b = true) :
    Verdict settings resolve t c s
      ⟨some .reloading, "Configuration's HCL has changed, and starts reloading", ∅⟩
  | unauthorized {b : Bundle} {e : Error} (rendered : bundle t c = .ok b)
    (refused : resolveCredentials resolve c ((s.hold t c).keep t b).store = .error e) :
    Verdict settings resolve t c s ⟨some .authorizing, e.message, ∅⟩
  | otherVariables {credentials env : Dict String String}
    (resolved : ∃ b, bundle t c = .ok b ∧
      resolveCredentials resolve c ((s.hold t c).keep t b).store = .ok credentials)
    (complete : environment c credentials = .ok env)
    (differ : s.store.variablesDiffer t env = true) :
    Verdict settings resolve t c s
      ⟨some .reloading, "Configuration's variable has changed, and starts reloading", ∅⟩
  | running {s' : Session} (reached : Reaches settings resolve t c s s')
    (waits : (s'.store.report (t.jobKey .apply)).progress = .provisioning) :
    Verdict settings resolve t c s ⟨some .provisioningAndChecking,
      "Cloud resources are being provisioned and provisioning status is checking...", ∅⟩
  | failed {state : Configuration.State}
    (reported : (s.store.report (t.jobKey .apply)).progress.failureState = some state) :
    Verdict settings resolve t c s
      ⟨some state, (s.store.report (t.jobKey .apply)).message, ∅⟩
  | unpublished {s' : Session} {e : Error} (reached : Reaches settings resolve t c s s')
    (done : (s.store.report (t.jobKey .apply)).progress = .succeeded)
    (refused : ((Outputs.generate c t).on s').1 = .error e) :
    Verdict settings resolve t c s
      ⟨some .generatingOutputs, "failed to generate outputs: " ++ e.message, ∅⟩
  | available {outputs : Dict String String}
    (done : (s.store.report (t.jobKey .apply)).progress = .succeeded)
    (found : Outputs.read s.store t = .ok outputs) :
    Verdict settings resolve t c s
      ⟨some .available, "Cloud resources are deployed and ready to use", outputs⟩

/-- There are outputs only where the cloud resources are there. -/
theorem Verdict.state_of_outputs {v : Configuration.ApplyStatus}
    (verdict : Verdict settings resolve t c s v) (outputs : v.outputs ≠ ∅) :
    v.state = some .available := by
  cases verdict with
  | available => rfl
  | _ => exact absurd rfl outputs

/-- What was told of a configuration has no part in a verdict on it: no step up to there looks at
its status. -/
theorem Verdict.untold {v : Configuration.ApplyStatus}
    (verdict : Verdict settings resolve t c s v) : Verdict settings resolve t c.untold s v := by
  cases verdict with
  | invalid failed => exact .invalid failed
  | otherSource rendered differs => exact .otherSource rendered differs
  | unauthorized rendered refused => exact .unauthorized rendered refused
  | otherVariables resolved complete differ => exact .otherVariables resolved complete differ
  | running reached waits => exact .running reached waits
  | failed reported => exact .failed reported
  | unpublished reached done refused => exact .unpublished reached done refused
  | available done found => exact .available done found

/-- What a pass over an active configuration may come to: what is told of applying stays, or it is
replaced by a verdict. -/
def Configuration.Judged (judges : ApplyStatus → Prop) (c c' : Configuration) : Prop :=
  c' = c ∨ ∃ v, judges v ∧ c' = c.judged v

namespace Configuration.Judged

variable {judges : ApplyStatus → Prop}

theorem refl (c : Configuration) : c.Judged judges c := .inl rfl

theorem generation (came : c.Judged judges c') : c'.metadata = c.metadata := by
  rcases came with rfl | ⟨v, -, rfl⟩ <;> rfl

/-- A further verdict replaces whatever has been told in the same pass. -/
theorem judged {v : ApplyStatus} (came : c.Judged judges c') (judged : judges v) :
    c.Judged judges (c'.judged v) := by
  refine .inr ⟨v, judged, ?_⟩
  rcases came with rfl | ⟨w, -, rfl⟩ <;> rfl

end Configuration.Judged

/-- The configuration under a key has come from one that a pass held and judged. -/
def Store.Bears (s : Store) (key : ObjectKey) (judges : Configuration.ApplyStatus → Prop)
    (c : Configuration) : Prop :=
  ∃ c', s.read Configuration key = some c' ∧ c.Judged judges c'

theorem Store.Bears.congr {store store' : Store} {judges : Configuration.ApplyStatus → Prop}
    (bears : store.Bears key judges c) (same : store'.get? key = store.get? key) :
    store'.Bears key judges c := by
  obtain ⟨c', held, came⟩ := bears
  exact ⟨c', (Store.read_congr same).trans held, came⟩

/-- A note on the configuration replaces what has been told of applying. -/
theorem Store.Bears.note {judges : Configuration.ApplyStatus → Prop}
    {state : Configuration.State} {message : String} {outputs : Dict String String}
    (bears : s.store.Bears key judges c) (told : c.metadata.generation.isSome)
    (judged : judges ⟨some state, message, outputs⟩) :
    (s.edit key (withApplyStatus state message outputs)).store.Bears key judges c := by
  obtain ⟨c', held, came⟩ := bears
  refine ⟨_, Configuration.read_edit_told (gentle_withApplyStatus state message outputs) rfl held ?_,
    came.judged judged⟩
  rwa [came.generation]

namespace Reconcile

theorem read_of_generate {outputs : Dict String String} (keyed : s.store.WellKeyed)
    (generated : ((Outputs.generate c t).on s).1 = .ok outputs) :
    Outputs.read s.store t = .ok outputs := by
  rw [on_generate keyed] at generated
  split at generated
  · cases generated
  · rename_i found read
    rw [read]
    split at generated
    · exact generated
    · split at generated
      · cases generated
      · exact generated

/-- Getting ready leaves what is reported of the job, or the job has just been started. -/
theorem report_ready (settings : Settings) (b : Bundle) (env : Dict String String) :
    (s.ready settings t b env).store.report (t.jobKey .apply) = s.store.report (t.jobKey .apply) ∨
    ((s.ready settings t b env).store.report (t.jobKey .apply)).progress = .provisioning := by
  refine (Session.report_converge _ settings t _ _ .apply).imp_left fun stays => stays.trans ?_
  exact Store.report_congr (Session.get?_beforeJob (by nofun) (by nofun) (by nofun) _)

/-- Recording how far the job has come replaces what is told of applying by a verdict, at most. -/
theorem bears_recordProgress (keyed : s'.store.WellKeyed) (told : c₁.metadata.generation.isSome)
    (bears : s'.store.Bears t.key (Verdict settings resolve t c s) c₁)
    (reached : Reaches settings resolve t c s s')
    (state : Outputs.read s'.store t = Outputs.read s.store t)
    (job : s'.store.report (t.jobKey .apply) = s.store.report (t.jobKey .apply) ∨
      (s'.store.report (t.jobKey .apply)).progress = .provisioning) :
    ((recordProgress t c (s'.store.report (t.jobKey .apply))).on s').2.store.Bears t.key
      (Verdict settings resolve t c s) c₁ := by
  cases progress : (s'.store.report (t.jobKey .apply)).progress with
  | provisioning =>
    have running : recordProgress t c (s'.store.report (t.jobKey .apply)) = recordRunning t := by
      unfold recordProgress
      rw [progress]
    rw [running, on_recordRunning keyed]
    dsimp only
    split
    · exact bears
    · exact bears.note told (.running reached progress)
  | succeeded =>
    have success : recordProgress t c (s'.store.report (t.jobKey .apply)) = recordSuccess t c := by
      unfold recordProgress
      rw [progress]
    have done : (s.store.report (t.jobKey .apply)).progress = .succeeded := by
      rcases job with same | waits
      · rw [← same, progress]
      · cases progress.symm.trans waits
    have bears := bears.congr (get?_generate (t := t) (c := c) keyed nofun)
    rw [success, on_recordSuccess]
    cases generated : ((Outputs.generate c t).on s').1 with
    | error e => exact bears.note told (.unpublished reached done generated)
    | ok outputs =>
      exact bears.note told (.available done (state.symm.trans (read_of_generate keyed generated)))
  | initError | applyError | invalidRegion =>
    have same : s'.store.report (t.jobKey .apply) = s.store.report (t.jobKey .apply) := by
      rcases job with same | waits
      · exact same
      · cases progress.symm.trans waits
    rw [same] at progress ⊢
    obtain ⟨state, failure⟩ : ∃ state,
        (s.store.report (t.jobKey .apply)).progress.failureState = some state := by
      rw [progress]
      exact ⟨_, rfl⟩
    have recorded := on_recordFailure (s := s') (t := t) (c := c) failure
      (s.store.report (t.jobKey .apply)).message
    rw [recorded]
    exact bears.note told (.failed failure)

/-- Getting ready notes at most that the variables have changed. -/
theorem bears_ready (env : Dict String String) (told : c₁.metadata.generation.isSome)
    (bears : s'.store.Bears t.key (Verdict settings resolve t c s) c₁)
    (noted : s'.store.variablesDiffer t env = true → Verdict settings resolve t c s
      ⟨some .reloading, "Configuration's variable has changed, and starts reloading", ∅⟩) :
    (s'.ready settings t b env).store.Bears t.key (Verdict settings resolve t c s) c₁ := by
  have settled : (s'.settleVariables t env).store.Bears t.key (Verdict settings resolve t c s) c₁ :=
    bears.congr (Session.get?_provide_of_ne _ _ (by nofun))
  have later : ∀ s₁ : Session, ((s₁.provideRole t).converge settings t (.of t b.text env)
      (s'.store.variablesDiffer t env) .apply).store.get? t.key = s₁.store.get? t.key := fun s₁ =>
    (Session.get?_converge settings _ _ ⟨by nofun, by nofun, by nofun⟩ (by nofun)).trans
      (Session.get?_provide_of_ne _ _ (by nofun))
  unfold Session.ready
  refine Store.Bears.congr ?_ (later _)
  unfold Session.reload
  split
  · rename_i differ
    exact settled.note told (noted differ)
  · exact settled

theorem bears_run (keyed : s.store.WellKeyed) (told : c₁.metadata.generation.isSome)
    (rendered : bundle t c = .ok b)
    (bears : ((s.hold t c).keep t b).store.Bears t.key (Verdict settings resolve t c s) c₁) :
    ((run settings resolve t c b).on ((s.hold t c).keep t b)).2.store.Bears t.key
      (Verdict settings resolve t c s) c₁ := by
  have keyed' := Session.wellKeyed_keep (Session.wellKeyed_hold keyed t c) t b
  have stays : ∀ key : ObjectKey, key ≠ t.key → key ≠ t.inputBundleKey →
      ((s.hold t c).keep t b).store.get? key = s.store.get? key :=
    fun _ => Session.get?_heldAndKept
  rw [on_run keyed']
  cases resolved : resolveCredentials resolve c ((s.hold t c).keep t b).store with
  | error e => exact bears.note told (.unauthorized rendered resolved)
  | ok credentials =>
    simp only
    cases complete : environment c credentials with
    | error e => exact bears
    | ok env =>
      have state : (((s.hold t c).keep t b).ready settings t b env).store.get? t.stateSecretKey =
          ((s.hold t c).keep t b).store.get? t.stateSecretKey :=
        Session.get?_ready settings ⟨by nofun, by nofun, by nofun⟩ (by nofun)
          (fun same => Names.stateSecret_ne_variableSecret _ _ (congrArg ObjectKey.name same))
          (by nofun)
      have job := report_ready (s := (s.hold t c).keep t b) (t := t) settings b env
      rw [Store.report_congr (stays (t.jobKey .apply) nofun nofun)] at job
      refine bears_recordProgress (Session.wellKeyed_ready keyed' settings t b env) told
        (bears_ready env told bears fun differ => ?_)
        ⟨b, credentials, env, rendered, resolved, complete, rfl⟩
        (read_congr (state.trans (stays _ nofun nofun))) job
      rw [Store.variablesDiffer_congr (stays _ nofun nofun)] at differ
      exact .otherVariables ⟨b, rendered, resolved⟩ complete differ

theorem read_hold (held : s.store.read Configuration t.key = some c)
    (told : c.metadata.generation.isSome) :
    (s.hold t c).store.read Configuration t.key = some (withOwnFinalizer c) := by
  unfold Session.hold
  split
  · rename_i own
    rw [held, withOwnFinalizer, if_pos own]
  · exact Configuration.read_edit_told note_withOwnFinalizer.gentle (note_withOwnFinalizer.spec c)
      held told

/-- A pass over an active configuration holds it and replaces what is told of applying by a verdict,
at most. -/
theorem bears_apply (keyed : s.store.WellKeyed) (settings : Settings) (resolve : Resolver)
    (held : s.store.read Configuration t.key = some c) (told : c.metadata.generation.isSome) :
    ((apply settings resolve t c).on s).2.store.Bears t.key (Verdict settings resolve t c s)
      (withOwnFinalizer c) := by
  have told' : (withOwnFinalizer c).metadata.generation.isSome := by
    rw [note_withOwnFinalizer.metadata]
    exact told
  have bears : (s.hold t c).store.Bears t.key (Verdict settings resolve t c s)
      (withOwnFinalizer c) := ⟨_, read_hold held told, .refl _⟩
  have keep : ∀ b, ((s.hold t c).keep t b).store.Bears t.key (Verdict settings resolve t c s)
      (withOwnFinalizer c) := fun b => bears.congr (Session.get?_write_of_ne _ _ nofun)
  have kept : (s.hold t c).store.get? t.inputBundleKey = s.store.get? t.inputBundleKey :=
    Session.get?_hold (by nofun)
  rw [on_apply keyed (keyed.placed held)]
  cases rendered : bundle t c with
  | error e =>
    cases e with
    | invalid fault => exact bears.note told' (.invalid rendered)
    | _ => exact bears
  | ok b =>
    simp only
    split
    · rename_i differs
      rw [Store.bundleDiffers_congr kept] at differs
      exact (keep b).note told' (.otherSource rendered differs)
    · exact bears_run keyed told' rendered (keep b)

/-! ### Destroying -/

/-- What destroying may come to before it is done: what is told of destroying may be replaced. -/
def Destroying (c c' : Configuration) : Prop :=
  c' = c ∨ ∃ state message, state ∈ [Configuration.State.destroying, .destroyFailed] ∧
    c' = withDestroyStatus state message c

theorem Destroying.metadata (came : Destroying c c') : c'.metadata = c.metadata := by
  rcases came with rfl | ⟨_, _, -, rfl⟩ <;> rfl

theorem Destroying.note {state : Configuration.State} (came : Destroying c c') (message : String)
    (listed : state ∈ [Configuration.State.destroying, .destroyFailed]) :
    Destroying c (withDestroyStatus state message c') := by
  refine .inr ⟨state, message, listed, ?_⟩
  rcases came with rfl | ⟨_, _, -, rfl⟩ <;> rfl

theorem read_destroyResources (keyed : s.store.WellKeyed) (settings : Settings)
    (resolve : Resolver) (held : s.store.read Configuration t.key = some c)
    (told : c.metadata.generation.isSome) :
    ∃ c', ((destroyResources settings resolve t c).on s).2.store.read Configuration t.key = some c' ∧
      Destroying c c' := by
  have noted : ∀ {s' : Session} {c' : Configuration} {state : Configuration.State}
      (message : String), s'.store.read Configuration t.key = some c' → Destroying c c' →
      state ∈ [Configuration.State.destroying, .destroyFailed] →
      ∃ c'', (s'.edit t.key (withDestroyStatus state message)).store.read Configuration t.key =
        some c'' ∧ Destroying c c'' := by
    intro s' c' state message held came listed
    refine ⟨_, Configuration.read_edit_told (note_withDestroyStatus state message).gentle rfl held ?_,
      came.note message listed⟩
    rwa [came.metadata]
  have prepared : ((prepare resolve t c).on s).2.store.read Configuration t.key = some c :=
    (Store.read_congr (get?_prepare resolve keyed (by nofun) (by nofun) (by nofun))).trans held
  rw [on_destroyResources keyed]
  rcases ran : (prepare resolve t c).on s with ⟨e | ⟨i, changed⟩, s₁⟩ <;> rw [ran] at prepared
  · exact noted e.message prepared (.inl rfl) (by simp)
  · have kept : (s₁.converge settings t i changed .destroy).store.get? t.key = s₁.store.get? t.key :=
      Session.get?_converge settings i changed ⟨by nofun, by nofun, by nofun⟩ (by nofun)
    have converged := (Store.read_congr kept).trans prepared
    obtain ⟨c₂, running, came⟩ := noted "Cloud resources are being destroyed..." converged (.inl rfl)
      (List.mem_cons_self : Configuration.State.destroying ∈ _)
    dsimp only
    split
    · exact ⟨c₂, running, came⟩
    · exact ⟨c₂, running, came⟩
    · exact noted _ running came (by simp)

/-- What is left of a configuration that has been let go has no finalizer of this library and is
told to be destroyed. -/
theorem read_letGo (held : s.store.read Configuration t.key = some c₁)
    (told : c₁.metadata.generation.isSome) (terminating : c₁.metadata.lifecycle = .terminating)
    (left : (s.letGo t c).store.read Configuration t.key = some c') :
    c' = withoutOwnFinalizer (withDestroyStatus .destroyed "Cloud resources are destroyed" c₁) := by
  have noted := Configuration.read_edit_told
    (note_withDestroyStatus .destroyed "Cloud resources are destroyed").gentle rfl held told
  have cleaned : (Session.cleanup _ t c).store.read Configuration t.key = some _ :=
    (Store.read_congr (Session.get?_cleanup_of_configuration rfl)).trans noted
  have released := Configuration.read_edit_told gentle_withoutOwnFinalizer rfl cleaned told
  have stored := Store.read_eq_some_iff.mp left
  unfold Session.letGo at stored
  dsimp only at stored
  rw [Session.get?_delete_self, Store.read_eq_some_iff.mp released, Option.bind_some] at stored
  unfold Session.remains at stored
  split at stored
  · have same := Option.some.inj stored
    rw [Session.marked_of_terminating] at same
    · cases same
      rfl
    · exact terminating
  · cases stored

/-- What a pass over a configuration that waits to go leaves of it, if anything. -/
theorem read_destroy (keyed : s.store.WellKeyed) (settings : Settings) (resolve : Resolver)
    (held : s.store.read Configuration t.key = some c) (told : c.metadata.generation.isSome)
    (terminating : c.metadata.lifecycle = .terminating)
    (left : ((destroy settings resolve t c).on s).2.store.read Configuration t.key = some c') :
    Destroying c c' ∨
      c' = withoutOwnFinalizer
        (withDestroyStatus .destroyed "Cloud resources are destroyed" c) := by
  rw [on_destroy keyed] at left
  split at left
  · cases held.symm.trans left
    exact .inl (.inl rfl)
  · split at left
    · obtain ⟨c₁, held₁, came⟩ := read_destroyResources keyed settings resolve held told
      rcases ran : (destroyResources settings resolve t c).on s with ⟨e | _, s₁⟩ <;>
        rw [ran] at left held₁
      · cases held₁.symm.trans left
        exact .inl came
      · right
        rw [read_letGo held₁ (came.metadata ▸ told) (came.metadata ▸ terminating) left]
        rcases came with rfl | ⟨_, _, -, rfl⟩ <;> rfl
    · exact .inr (read_letGo held told terminating left)

/-! ### Whole passes -/

/-- What a pass may change in its own configuration, in every session that can come about. What the
configuration asks for stays, and so does its metadata but for the finalizers. A pass over an active
configuration adds the finalizer of this library if it is missing, and may replace what is told of
applying by a verdict for the current generation. The verdict goes by what this pass finds out, as
if nothing had been told before, and has outputs only if the cloud resources are available. A pass
over one that waits to go leaves what is told of applying, and takes off just that finalizer,
together with telling that the configuration is destroyed. -/
theorem pass_changes_configuration (settings : Settings) (resolve : Resolver) (s : Session)
    (request : Request) (c c' : Configuration) (reachable : s.Reachable)
    (keyed : s.store.WellKeyed)
    (found : s.store.get? (request.key .configuration) = some (.configuration c))
    (left : ((configurationPass settings resolve request).on s).2.store.get?
      (request.key .configuration) = some (.configuration c')) :
    c'.spec = c.spec ∧
    c'.metadata = { c.metadata with finalizers := c'.metadata.finalizers } ∧
    match c.metadata.lifecycle with
    | .active =>
      c'.metadata.finalizers = (if hasOwnFinalizer c then c.metadata.finalizers
        else some (c.metadata.finalizerList ++ [Names.finalizer])) ∧
      c'.statusOrDefault.destroy = c.statusOrDefault.destroy ∧
      (c'.status = c.status ∨
        Verdict settings resolve (.of settings c) c.untold s c'.statusOrDefault.apply ∧
        c.metadata.generation = some c'.statusOrDefault.observedGeneration ∧
        (c'.statusOrDefault.apply.outputs ≠ ∅ → c'.applyState = some .available))
    | .terminating =>
      c'.statusOrDefault.apply = c.statusOrDefault.apply ∧
      c'.statusOrDefault.observedGeneration = c.statusOrDefault.observedGeneration ∧
      (c'.metadata.finalizers = c.metadata.finalizers ∨
        c'.metadata.finalizerList = c.metadata.finalizerList.filter (· ≠ Names.finalizer) ∧
        c'.destroyState = some .destroyed) := by
  have held : s.store.read Configuration (request.key .configuration) = some c :=
    Store.read_eq_some_iff.mpr found
  have left : _ = some c' := Store.read_eq_some_iff.mpr left
  have told := reachable.told held
  have here : (Target.of settings c).key = request.key .configuration :=
    Target.key_of (keyed.placed held)
  have held' := held
  rw [← here] at held'
  cases lifecycle : c.metadata.lifecycle with
  | active =>
    obtain ⟨c₁, held₁, came⟩ := bears_apply keyed settings resolve held' told
    rw [on_activePass keyed held lifecycle, ← here] at left
    cases left.symm.trans held₁
    have finalizers : (withOwnFinalizer c).metadata.finalizers = (if hasOwnFinalizer c then
        c.metadata.finalizers else some (c.metadata.finalizerList ++ [Names.finalizer])) := by
      unfold withOwnFinalizer
      split <;> rfl
    have status : (withOwnFinalizer c).status = c.status := by
      unfold withOwnFinalizer
      split <;> rfl
    rcases came with rfl | ⟨v, verdict, rfl⟩
    · refine ⟨note_withOwnFinalizer.spec c, note_withOwnFinalizer.metadata c, finalizers, ?_,
        .inl status⟩
      unfold Configuration.statusOrDefault
      rw [status]
    · refine ⟨note_withOwnFinalizer.spec c, note_withOwnFinalizer.metadata c, finalizers, ?_,
        .inr ⟨verdict.untold, ?_, fun outputs => verdict.state_of_outputs outputs⟩⟩
      · change (withOwnFinalizer c).statusOrDefault.destroy = _
        unfold Configuration.statusOrDefault
        rw [status]
      · obtain ⟨g, generation⟩ := Option.isSome_iff_exists.mp told
        change _ = some ((withOwnFinalizer c).metadata.generation.getD 0)
        rw [note_withOwnFinalizer.metadata, generation]
        rfl
  | terminating =>
    rw [on_terminatingPass keyed held lifecycle, ← here] at left
    rcases read_destroy keyed settings resolve held' told lifecycle left with
      (rfl | ⟨state, message, -, rfl⟩) | rfl
    · exact ⟨rfl, rfl, rfl, rfl, .inl rfl⟩
    · exact ⟨rfl, rfl, rfl, rfl, .inl rfl⟩
    · exact ⟨rfl, rfl, rfl, rfl, .inr ⟨rfl, rfl⟩⟩

end Reconcile

namespace Sample

/-- The configuration as it is stored once it has been added. -/
def arrived : Configuration :=
  { added with
    metadata :=
      { added.metadata with generation := some 1, creationTimestamp := some ⟨0, 0⟩ } }

/-- The session after that. -/
def arrival : Session := ((Pass.addObject (.configuration added)).on empty).2

theorem reachable_arrival : arrival.Reachable := (Session.Reachable.empty ⟨0, 0⟩).add _

theorem wellKeyed_arrival : arrival.store.WellKeyed := by
  have added : (empty.perform {} anonymous (.write (.configuration added))).store.WellKeyed :=
    Session.wellKeyed_perform wellKeyed_empty _
  exact added

end Sample

namespace Reconcile

/-- The first pass over a configuration that has just been added holds it. -/
theorem pass_changes_configuration_arrival :
    Sample.arrival.Reachable ∧ Sample.arrival.store.WellKeyed ∧
    Sample.arrival.store.get? (Sample.request.key .configuration) =
      some (.configuration Sample.arrived) ∧
    ∃ c', ((configurationPass {} Provider.resolve Sample.request).on
        Sample.arrival).2.store.get? (Sample.request.key .configuration) =
        some (.configuration c') ∧
      c'.spec = Sample.arrived.spec ∧ c'.metadata.finalizers = some [Names.finalizer] := by
  have found : Sample.arrival.store.get? (Sample.request.key .configuration) =
      some (.configuration Sample.arrived) := rfl
  have read : Sample.arrival.store.read Configuration (Sample.request.key .configuration) =
      some Sample.arrived := Store.read_eq_some_iff.mpr found
  have held : Sample.arrival.store.read Configuration (Target.of {} Sample.arrived).key =
      some Sample.arrived := read
  obtain ⟨c', left, -⟩ := held_apply {} Provider.resolve Sample.wellKeyed_arrival
    (Sample.wellKeyed_arrival.placed held) held
  have left : ((configurationPass {} Provider.resolve Sample.request).on
      Sample.arrival).2.store.get? (Sample.request.key .configuration) =
      some (.configuration c') := by
    rw [on_activePass Sample.wellKeyed_arrival read rfl]
    exact Store.read_eq_some_iff.mp left
  obtain ⟨spec, -, finalizers, -⟩ := pass_changes_configuration {} Provider.resolve Sample.arrival
    Sample.request Sample.arrived c' Sample.reachable_arrival Sample.wellKeyed_arrival found left
  exact ⟨Sample.reachable_arrival, Sample.wellKeyed_arrival, found, c', left, spec, finalizers⟩

end Reconcile

end Provisioner
