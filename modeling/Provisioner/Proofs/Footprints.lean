import Provisioner.Proofs.Changes

/-!
The parts of a pass over a configuration stay within the changes of `Changes`. Each part is followed
through its branches once; an answer may end it anywhere. Which secret the outputs are written to
depends on the store: it is the one that is found where the configuration asks for them, and it is
written under its own key, which is where it was found if every object is under its own key.
-/

namespace Provisioner

open Reconcile
open Executor (Inputs Report)

variable {α β τ : Type} [Resource τ] {s s' : Session} {t : Target} {c : Configuration}
  {key : ObjectKey} {touched : ObjectKey → Prop} {resolve : Resolver} {settings : Settings}

/-! ### Stores that outputs can be published in -/

/-- The keys that a pass writes to on its way whatever is in the store. -/
inductive Target.Generates (t : Target) : ObjectKey → Prop
  | inputBundle : Generates t t.inputBundleKey
  | variableSecret : Generates t t.variableSecretKey
  | job (e : Execution) : Generates t (t.jobKey e)
  | role : Generates t t.roleKey
  | binding : Generates t t.bindingKey
  | account : Generates t t.accountKey

theorem Target.Generates.touches (generated : t.Generates key) : t.Touches c key := by
  cases generated with
  | inputBundle => exact .inputBundle
  | variableSecret => exact .variableSecret
  | job e => exact .job e
  | role => exact .role
  | binding => exact .binding
  | account => exact .account

/-- The outputs of a configuration are published under touched keys: under the key where it asks for
them if there is no secret, and if there is one that belongs to no other configuration, under the
key that the secret has of its own. -/
def Store.Admits (s : Store) (t : Target) (c : Configuration) (touched : ObjectKey → Prop) : Prop :=
  ∀ ns name, c.connectionSecret? = some (ns, name) →
    (s.read Secret ⟨.secret, ns, name⟩ = none → touched ⟨.secret, ns, name⟩) ∧
    ∀ secret own, s.read Secret ⟨.secret, ns, name⟩ = some secret →
      Outputs.otherOwner? secret t = none → (Resource.wrap secret).key? = some own → touched own

theorem Store.WellKeyed.admits {s : Store} (keyed : s.WellKeyed)
    (published : ∀ key, Target.Publishes c key → touched key) : s.Admits t c touched := by
  intro ns name asked
  have here := published _ ⟨ns, name, asked, rfl⟩
  refine ⟨fun _ => here, fun secret own held _ named => ?_⟩
  have placed := keyed _ _ (Store.read_eq_some_iff.mp held)
  cases named.symm.trans placed
  exact here

/-- What is read where a deletion was asked for is what was there, but for the time of it. -/
theorem Session.read_delete_secret {secret' : Secret}
    (left : (s.delete key).2.store.read Secret key = some secret') :
    ∃ secret, s.store.read Secret key = some secret ∧
      secret'.metadata = { secret.metadata with
        deletionTimestamp := secret'.metadata.deletionTimestamp } := by
  have stored := Store.read_eq_some_iff.mp left
  unfold delete at stored
  cases held : s.store.get? key with
  | none =>
    rw [held] at stored
    exact absurd (held.symm.trans stored) nofun
  | some o =>
    rw [held] at stored
    simp only at stored
    split at stored
    · rw [get?_put, if_pos rfl] at stored
      cases o with
      | secret x =>
        cases stored
        exact ⟨x, Store.read_eq_some_iff.mpr held, rfl⟩
      | _ => cases stored
    · rw [get?_remove, if_pos rfl] at stored
      cases stored

/-- What is written under a touched key leaves the store one that admits the outputs. -/
theorem Store.Admits.write {o : Object} (admits : s.store.Admits t c touched) (here : touched key)
    (named : o.key? = some key) : (s.write key o).store.Admits t c touched := by
  intro ns name asked
  obtain ⟨missing, found⟩ := admits ns name asked
  by_cases there : (⟨.secret, ns, name⟩ : ObjectKey) = key
  · subst there
    refine ⟨fun _ => here, fun secret own held free bears => ?_⟩
    have stored := Store.read_eq_some_iff.mp held
    rw [Session.get?_write_self] at stored
    rcases Object.stored_cases s.now o (s.store.get? ⟨.secret, ns, name⟩) with
      ⟨p, before, stays, -⟩ | ⟨g, d, replaced⟩
    · rw [stays] at stored
      cases stored
      exact found secret own (Store.read_eq_some_iff.mpr before) free bears
    · rw [replaced] at stored
      rw [← Option.some.inj stored, Object.key?_timed, named] at bears
      cases bears
      exact here
  · rw [Store.read_congr (Session.get?_write_of_ne s o there)]
    exact ⟨missing, found⟩

theorem Store.Admits.delete (admits : s.store.Admits t c touched) (here : touched key) :
    (s.delete key).2.store.Admits t c touched := by
  intro ns name asked
  obtain ⟨missing, found⟩ := admits ns name asked
  by_cases there : (⟨.secret, ns, name⟩ : ObjectKey) = key
  · subst there
    refine ⟨fun _ => here, fun secret own held free bears => ?_⟩
    obtain ⟨secret₀, before, metadata⟩ := Session.read_delete_secret held
    refine found secret₀ own before ?_ ?_
    · unfold Outputs.otherOwner? at free ⊢
      rw [metadata] at free
      exact free
    · rw [key?_wrap] at bears ⊢
      change secret₀.metadata.key? _ = _
      change secret.metadata.key? _ = _ at bears
      rw [metadata] at bears
      exact bears
  · rw [Store.read_congr (Session.get?_delete_of_ne s there)]
    exact ⟨missing, found⟩

theorem Changes.admits (changes : Changes t touched s s') (admits : s.store.Admits t c touched) :
    s'.store.Admits t c touched := by
  induction changes with
  | refl => exact admits
  | step _ last ih =>
    cases last with
    | write here named => exact ih.write here named
    | delete here => exact ih.delete here
    | note =>
      intro ns name asked
      rw [Store.read_congr (Session.get?_edit_of_ne _ _ (by nofun))]
      exact ih ns name asked
    | handOver => exact ih

namespace Pass

/-- Whatever becomes of the pass, it changes nothing but what a pass may change on its way, in every
store where the outputs are published under touched keys. -/
def Confined (t : Target) (c : Configuration) (touched : ObjectKey → Prop) (p : Pass α) : Prop :=
  ∀ s : Session, s.store.Admits t c touched → Changes t touched s (p.on s).2

namespace Confined

theorem of_unchanged {p : Pass α} (unchanged : ∀ s, (p.on s).2 = s) : Confined t c touched p := by
  intro s _
  rw [unchanged s]
  exact .refl

theorem pure (a : α) : Confined t c touched (Pure.pure a) := of_unchanged fun _ => rfl

theorem throw (e : Error) : Confined t c touched (throw e : Pass α) := of_unchanged fun _ => rfl

theorem ask (question : Store → Except Error α) : Confined t c touched (Pass.ask question) :=
  of_unchanged fun _ => by rw [on_ask]

theorem bind {p : Pass α} {f : α → Pass β} (first : Confined t c touched p)
    (next : ∀ a, Confined t c touched (f a)) : Confined t c touched (p >>= f) := by
  intro s admits
  have changes := first s admits
  rw [on_bind]
  split
  · rename_i a s' ran
    rw [ran] at changes
    exact changes.trans (next a s' (changes.admits admits))
  · rename_i e s' ran
    rw [ran] at changes
    exact changes

theorem tryCatch {p : Pass α} {handle : Error → Pass α} (body : Confined t c touched p)
    (handler : ∀ e, Confined t c touched (handle e)) :
    Confined t c touched (tryCatchThe Error p handle) := by
  intro s admits
  have changes := body s admits
  rw [on_tryCatch]
  split
  · rename_i a s' ran
    rw [ran] at changes
    exact changes
  · rename_i e s' ran
    rw [ran] at changes
    exact changes.trans (handler e s' (changes.admits admits))

theorem map {p : Pass α} (f : α → β) (body : Confined t c touched p) :
    Confined t c touched (f <$> p) := by
  intro s admits
  rw [on_map]
  exact body s admits

theorem update {r : τ} (here : touched key) (named : (Resource.wrap r).key? = some key) :
    Confined t c touched (Pass.update r) := by
  intro s _
  rw [on_update named]
  exact .single (.write here named)

theorem delete (here : touched key) (stale : key = t.variableSecretKey ∨ ∃ e, key = t.jobKey e) :
    Confined t c touched (Pass.delete key) := fun s _ => by
  rw [on_delete]
  exact .single (.delete here stale)

theorem edit {f : Configuration → Configuration} (note : Note f) :
    Confined t c touched (updateWith t.key f) := by
  intro s _
  rw [snd_updateWith rfl]
  exact .single (.note note)

/-- Noting something on the configuration is always within reach. -/
theorem note {f : Configuration → Configuration} (note : Note f) :
    Confined t c touched (attempt (updateWith t.key f)) := by
  intro s _
  rw [on_attempt_updateWith rfl]
  exact .single (.note note)

theorem ensure {r : τ} (here : touched key) (named : (Resource.wrap r).key? = some key) :
    Confined t c touched (Access.ensure r) := by
  unfold Access.ensure keyOf
  rw [named]
  refine (pure key).bind fun _ => (ask _).bind fun found => ?_
  cases found with
  | none => exact update here named
  | some _ => exact pure ()

end Confined

end Pass

open Pass

/-! ### Keys of generated objects -/

theorem key?_bundleMap (t : Target) (b : Bundle) :
    (Resource.wrap (bundleMap t b)).key? = some t.inputBundleKey := by
  simp [key?_wrap, Metadata.key?, Resource.metadata, Resource.kind, bundleMap,
    Target.inputBundleKey, Target.inputBundle, Names.inputBundle]

/-- The variable secret of a target with some content. -/
def variableSecret (t : Target) (env : Dict String String) : Secret :=
  Secret.ofTexts t.ns t.variableSecret env (some t.labels)

theorem key?_variableSecret (t : Target) (env : Dict String String) :
    (Resource.wrap (variableSecret t env)).key? = some t.variableSecretKey := by
  simp [key?_wrap, Metadata.key?, Resource.metadata, Resource.kind, variableSecret, Secret.ofTexts,
    Target.variableSecretKey, Target.variableSecret, Names.variableSecret]

theorem key?_job (settings : Settings) (t : Target) (i : Inputs) (e : Execution) :
    (Resource.wrap (Executor.job settings t i e)).key? = some (t.jobKey e) := by
  simp [key?_wrap, Metadata.key?, Resource.metadata, Resource.kind, Executor.job, Target.jobKey,
    Target.jobName]

theorem key?_role (t : Target) :
    (Resource.wrap (Access.role (Names.clusterRole t.ns))).key? = some t.roleKey := by
  simp [key?_wrap, Metadata.key?, Resource.metadata, Resource.kind, Access.role, Target.roleKey,
    Names.clusterRole]

theorem key?_binding (t : Target) (role account : String) :
    (Resource.wrap (Access.binding t.ns role account)).key? = some t.bindingKey := by
  simp [key?_wrap, Metadata.key?, Resource.metadata, Resource.kind, Access.binding,
    Target.bindingKey, Names.clusterRoleBinding]

theorem key?_account (t : Target) :
    (Resource.wrap (Access.account t.ns Names.serviceAccount)).key? = some t.accountKey := by
  simp [key?_wrap, Metadata.key?, Resource.metadata, Resource.kind, Access.account,
    Target.accountKey, Names.serviceAccount]

/-- The secret that a configuration asks for its outputs in has a name. -/
theorem key?_outputs {ns name : String} (asked : c.connectionSecret? = some (ns, name))
    (outputs : Dict String String) :
    (Resource.wrap (Secret.ofTexts ns name outputs (some t.labels))).key? =
      some ⟨.secret, ns, name⟩ := by
  have nonempty : name ≠ "" := by
    unfold Configuration.connectionSecret? at asked
    obtain ⟨reference, kept, named⟩ := Option.map_eq_some_iff.mp asked
    cases named
    simpa using (Option.filter_eq_some_iff.mp kept).2
  simp [key?_wrap, Metadata.key?, Resource.metadata, Resource.kind, Secret.ofTexts, nonempty]

/-! ### Parts of passes -/

namespace Reconcile

theorem confined_setApplyStatus {state : Configuration.State}
    (listed : state ∈ Configuration.State.ofApplying) (message : String)
    (outputs : Dict String String) :
    Confined t c touched (setApplyStatus t.key state message outputs) :=
  .note (note_withApplyStatus listed message outputs)

theorem confined_setDestroyStatus (state : Configuration.State) (message : String) :
    Confined t c touched (setDestroyStatus t.key state message) :=
  .note (note_withDestroyStatus state message)

section

variable (included : ∀ key, t.Generates key → touched key)
include included

theorem confined_renderInputs : Confined t c touched (renderInputs t c) := by
  unfold renderInputs
  refine (Confined.ask _).bind fun b => (Confined.ask _).bind fun kept => ?_
  exact (Confined.update (included _ .inputBundle) (key?_bundleMap t b)).bind fun _ => .pure _

theorem confined_writeVariableSecret (env : Dict String String) :
    Confined t c touched (writeVariableSecret t env) :=
  .update (included _ .variableSecret) (key?_variableSecret t env)

theorem confined_syncVariables (credentials : Dict String String) :
    Confined t c touched (syncVariables t c credentials) := by
  unfold syncVariables
  refine (Confined.ask _).bind fun desired => (Confined.ask _).bind fun found => ?_
  cases found with
  | none => exact (confined_writeVariableSecret included desired).bind fun _ => .pure _
  | some secret => exact .pure _

theorem confined_ensureRole : Confined t c touched (Access.ensureRole (Names.clusterRole t.ns)) :=
  .ensure (included _ .role) (key?_role t)

theorem confined_ensureAccount :
    Confined t c touched (Access.ensureAccount t.ns Names.serviceAccount) :=
  .ensure (included _ .account) (key?_account t)

theorem confined_ensureBinding (role account : String) :
    Confined t c touched (Access.ensureBinding t.ns role account) :=
  .ensure (included _ .binding) (key?_binding t role account)

theorem confined_triggerJob (i : Inputs) (e : Execution) :
    Confined t c touched (triggerJob (Executor.job settings t i e)) := by
  intro s _
  unfold triggerJob
  rw [on_bind, on_add (key?_job settings t i e)]
  exact .step (.single (.write (included _ (.job e)) (key?_job settings t i e)))
    (.handOver (included _ (.job e)))

theorem confined_startJob (i : Inputs) (e : Execution) :
    Confined t c touched (startJob t i (Executor.job settings t i e)) := by
  unfold startJob
  refine (confined_writeVariableSecret included i.env).bind fun _ => ?_
  refine (confined_ensureAccount included).bind fun _ => ?_
  refine (confined_ensureBinding included _ _).bind fun _ => ?_
  exact (confined_triggerJob included i e).bind fun _ => .pure _

theorem confined_convergeJob (i : Inputs) (changed : Bool) (e : Execution) :
    Confined t c touched (convergeJob settings t i changed e) := by
  unfold convergeJob
  refine (Confined.ask _).bind fun existing => ?_
  cases Executor.plan changed existing (Executor.job settings t i e) with
  | unchanged => exact .pure _
  | trigger => exact confined_startJob included i e
  | recreate =>
    refine (Confined.delete (included _ (.job e)) (.inr ⟨e, rfl⟩)).bind fun _ => ?_
    exact (Confined.delete (included _ .variableSecret) (.inl rfl)).bind fun _ =>
      confined_startJob included i e

theorem confined_prepare : Confined t c touched (prepare resolve t c) := by
  unfold prepare
  refine (confined_renderInputs included).bind fun rendered => ?_
  refine (Confined.ask _).bind fun credentials => ?_
  refine (confined_syncVariables included credentials).bind fun synced => ?_
  exact (confined_ensureRole included).bind fun _ => .pure _

theorem confined_destroyResources :
    Confined t c touched (destroyResources settings resolve t c) := by
  unfold destroyResources
  refine ((confined_prepare included).tryCatch fun e => ?_).bind fun prepared => ?_
  · exact (confined_setDestroyStatus _ _).bind fun _ => .throw e
  refine (confined_convergeJob included _ _ _).bind fun _ => ?_
  refine (confined_setDestroyStatus _ _).bind fun _ => ?_
  refine (Confined.ask _).bind fun report => ?_
  split
  · exact .pure _
  · exact .throw _
  · exact (confined_setDestroyStatus _ _).bind fun _ => .throw _

end

/-- The secret that outputs are published in is the one that is found, under its own key. -/
theorem confined_publish {ns name : String} (asked : c.connectionSecret? = some (ns, name))
    (outputs : Dict String String) :
    Confined t c touched (Outputs.publish t ns name outputs) := by
  intro s admits
  obtain ⟨missing, found⟩ := admits ns name asked
  unfold Outputs.publish
  rw [on_bind, on_findNamed]
  cases answered : s.store.findNamed Secret ns name with
  | error e => exact .refl
  | ok answer =>
    have held : s.store.read Secret ⟨.secret, ns, name⟩ = answer := Store.read_of_find answered
    cases answer with
    | none => exact Confined.update (missing held) (key?_outputs asked outputs) s admits
    | some secret =>
      simp only
      split
      · exact .refl
      · rename_i free
        unfold Pass.update Pass.add Pass.addObject keyOf
        -- the refreshed secret has the key of the one that was found
        have same : (Resource.wrap (Outputs.refreshed secret outputs)).key? =
            (Resource.wrap secret).key? := rfl
        rw [same]
        cases named : (Resource.wrap secret).key? with
        | none => exact .refl
        | some own => exact .single (.write (found secret own held free named) (same.trans named))

theorem confined_generate : Confined t c touched (Outputs.generate c t) := by
  unfold Outputs.generate
  refine (Confined.ask _).bind fun outputs => ?_
  split
  · exact .pure _
  · rename_i ns name asked
    exact (confined_publish asked outputs).bind fun _ => .pure _

theorem confined_recordSuccess : Confined t c touched (recordSuccess t c) := by
  unfold recordSuccess
  refine (confined_generate.tryCatch fun e => ?_).bind fun outputs => ?_
  · exact (confined_setApplyStatus (by decide) _ _).bind fun _ => .throw e
  · exact (confined_setApplyStatus (by decide) _ _).bind fun _ => .pure _

theorem confined_recordRunning : Confined t c touched (recordRunning t) := by
  unfold recordRunning
  refine (Confined.ask _).bind fun current => ?_
  dsimp only
  split
  · exact (confined_setApplyStatus (by decide) _ _).bind fun _ => .throw _
  · exact .throw _

theorem confined_recordProgress (r : Report) : Confined t c touched (recordProgress t c r) := by
  unfold recordProgress
  split
  · exact confined_recordSuccess
  · exact confined_recordRunning
  · refine (confined_setApplyStatus ?_ _ _).bind fun _ => .pure _
    cases r.progress <;> decide

theorem confined_authorize : Confined t c touched (authorize resolve t c) :=
  (Confined.ask _).tryCatch fun e =>
    (confined_setApplyStatus (by decide) _ _).bind fun _ => .throw e

/-- The finalizer is added under the key that the configuration has of its own. -/
theorem confined_ensureFinalizer
    (placed : ∀ key, (Resource.wrap c).key? = some key → key = t.key) :
    Confined t c touched (ensureFinalizer c) := by
  unfold ensureFinalizer keyOf
  split
  · change ∀ key, Object.key? (.configuration c) = some key → key = t.key at placed
    cases named : Object.key? (.configuration c) with
    | none => exact .of_unchanged fun _ => rfl
    | some key =>
      rw [placed key named]
      change Confined t c touched (updateWith t.key withOwnFinalizer >>= fun _ => Pure.pure ())
      exact (Confined.edit note_withOwnFinalizer).bind fun _ => .pure _
  · exact .pure _

section

variable (included : ∀ key, t.Generates key → touched key)
include included

theorem confined_run (b : Bundle) : Confined t c touched (run settings resolve t c b) := by
  unfold run
  refine confined_authorize.bind fun credentials => ?_
  refine (confined_syncVariables included credentials).bind fun synced => ?_
  obtain ⟨env, differ⟩ := synced
  have rest : Confined t c touched (do
      Access.ensureRole (Names.clusterRole t.ns)
      convergeJob settings t (.of t b.text env) differ .apply
      recordProgress t c (← Pass.ask (jobReport (t.jobKey .apply)))) := by
    refine (confined_ensureRole included).bind fun _ => ?_
    refine (confined_convergeJob included _ _ _).bind fun _ => ?_
    exact (Confined.ask _).bind fun r => confined_recordProgress r
  dsimp only
  split
  · exact (confined_setApplyStatus (by decide) _ _).bind fun _ => rest
  · exact rest

/-- What follows once an active configuration is held. -/
theorem confined_applyHeld (settings : Settings) (resolve : Resolver) :
    Confined t c touched (do
      match ← (apply.observing (renderInputs t c)) with
      | .error (.invalid e) =>
        setApplyStatus t.key .staticCheckFailed e.message
        return Outcome.done
      | .error e => throw e
      | .ok (b, differs) =>
        if differs then
          setApplyStatus t.key .reloading "Configuration's HCL has changed, and starts reloading"
          return .after Outcome.delay
        else run settings resolve t c b) := by
  unfold apply.observing
  have rendering := (confined_renderInputs (c := c) included).map (Except.ok (ε := Error))
  refine (rendering.tryCatch fun e => .pure _).bind fun rendered => ?_
  split
  · exact (confined_setApplyStatus (by decide) _ _).bind fun _ => .pure _
  · exact .throw _
  · split
    · exact (confined_setApplyStatus (by decide) _ _).bind fun _ => .pure _
    · exact confined_run included _

theorem confined_apply (placed : ∀ key, (Resource.wrap c).key? = some key → key = t.key) :
    Confined t c touched (apply settings resolve t c) :=
  (confined_ensureFinalizer placed).bind fun _ => confined_applyHeld included settings resolve

end

end Reconcile

/-! ### Where every object is under its own key -/

namespace Pass

/-- The pass changes nothing but what a pass may change on its way, in every store where every
object is under its own key. -/
def Within (t : Target) (touched : ObjectKey → Prop) (p : Pass α) : Prop :=
  ∀ s : Session, s.store.WellKeyed → Changes t touched s (p.on s).2

theorem Confined.within {p : Pass α} (confined : Confined t c touched p)
    (published : ∀ key, Target.Publishes c key → touched key) : Within t touched p :=
  fun s keyed => confined s (keyed.admits published)

/-- Where the outputs are published is touched. -/
theorem Confined.touching {p : Pass α} (confined : Confined t c (t.Touches c) p) :
    Within t (t.Touches c) p := confined.within fun _ => .connection

end Pass

namespace Reconcile

theorem within_convergeJob (i : Inputs) (changed : Bool) (e : Execution) :
    Within t (t.Touches c) (convergeJob settings t i changed e) :=
  (confined_convergeJob (fun _ => Target.Generates.touches) i changed e).touching

theorem within_prepare : Within t (t.Touches c) (prepare resolve t c) :=
  (confined_prepare fun _ => Target.Generates.touches).touching

theorem within_destroyResources : Within t (t.Touches c) (destroyResources settings resolve t c) :=
  (confined_destroyResources fun _ => Target.Generates.touches).touching

theorem within_generate : Within t (Target.Publishes c) (Outputs.generate c t) :=
  confined_generate.within fun _ => id

theorem within_recordProgress (r : Report) :
    Within t (Target.Publishes c) (recordProgress t c r) :=
  (confined_recordProgress r).within fun _ => id

theorem within_run (b : Bundle) : Within t (t.Touches c) (run settings resolve t c b) :=
  (confined_run (fun _ => Target.Generates.touches) b).touching

section

variable (placed : (Resource.wrap c).key? = some t.key)
include placed

theorem placed_of_key (key : ObjectKey) (named : (Resource.wrap c).key? = some key) : key = t.key :=
  Option.some.inj (named.symm.trans placed)

theorem within_ensureFinalizer : Within t (t.Touches c) (ensureFinalizer c) :=
  (confined_ensureFinalizer (placed_of_key placed)).touching

theorem within_apply : Within t (t.Touches c) (apply settings resolve t c) :=
  (confined_apply (fun _ => Target.Generates.touches) (placed_of_key placed)).touching

end

/-- What follows once an active configuration is held. -/
theorem within_applyHeld (settings : Settings) (resolve : Resolver) :
    Within t (t.Touches c) (do
      match ← (apply.observing (renderInputs t c)) with
      | .error (.invalid e) =>
        setApplyStatus t.key .staticCheckFailed e.message
        return Outcome.done
      | .error e => throw e
      | .ok (b, differs) =>
        if differs then
          setApplyStatus t.key .reloading "Configuration's HCL has changed, and starts reloading"
          return .after Outcome.delay
        else run settings resolve t c b) :=
  (confined_applyHeld (fun _ => Target.Generates.touches) settings resolve).touching

end Reconcile

end Provisioner
