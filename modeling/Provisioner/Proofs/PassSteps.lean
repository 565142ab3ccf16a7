import Provisioner.Proofs.Footprints

/-!
The parts of a pass, step by step. Where every object is under its own key no search fails, so each
part is an equation: what it answers, and which writes lead to the session that it leaves.
-/

namespace Provisioner

open Reconcile
open Executor (Inputs Report)

variable {s : Session} {t : Target} {c : Configuration} {resolve : Resolver} {settings : Settings}

/-! ### Status -/

namespace Reconcile

@[simp] theorem on_setApplyStatus (state : Configuration.State) (message : String)
    (outputs : Dict String String) :
    (setApplyStatus t.key state message outputs).on s =
      (.ok (), s.edit t.key (withApplyStatus state message outputs)) :=
  Pass.on_attempt_updateWith rfl _

@[simp] theorem on_setDestroyStatus (state : Configuration.State) (message : String) :
    (setDestroyStatus t.key state message).on s =
      (.ok (), s.edit t.key (withDestroyStatus state message)) :=
  Pass.on_attempt_updateWith rfl _

end Reconcile

/-! ### Inputs -/

@[simp] theorem mapError_ok {ε ε' α : Type} (f : ε → ε') (a : α) :
    (Except.ok a : Except ε α).mapError f = .ok a := rfl

theorem eq_ok_of_toOption {ε α : Type} {e : Except ε α} {a : α} (found : e.toOption = some a) :
    e = .ok a := by
  cases e with
  | error e => cases found
  | ok b => exact congrArg Except.ok (Option.some.inj found)

namespace Session

/-- Keeps the rendered source. -/
def keep (s : Session) (t : Target) (b : Bundle) : Session :=
  s.write t.inputBundleKey (Resource.wrap (bundleMap t b))

/-- Makes the variable secret unless there is one. -/
def settleVariables (s : Session) (t : Target) (env : Dict String String) : Session :=
  s.provide t.variableSecretKey (Resource.wrap (variableSecret t env))

def provideRole (s : Session) (t : Target) : Session :=
  s.provide t.roleKey (Resource.wrap (Access.role (Names.clusterRole t.ns)))

theorem wellKeyed_keep (keyed : s.store.WellKeyed) (t : Target) (b : Bundle) :
    (s.keep t b).store.WellKeyed := wellKeyed_write keyed (key?_bundleMap t b)

theorem wellKeyed_settleVariables (keyed : s.store.WellKeyed) (t : Target)
    (env : Dict String String) : (s.settleVariables t env).store.WellKeyed :=
  wellKeyed_provide keyed (key?_variableSecret t env)

theorem wellKeyed_provideRole (keyed : s.store.WellKeyed) (t : Target) :
    (s.provideRole t).store.WellKeyed := wellKeyed_provide keyed (key?_role t)

end Session

namespace Store

/-- Whether the source that is kept differs from a bundle. -/
def bundleDiffers (s : Store) (t : Target) (b : Bundle) : Bool :=
  Reconcile.bundleDiffers t (s.read ConfigMap t.inputBundleKey) b

/-- Whether the variables that are kept differ from an environment. -/
def variablesDiffer (s : Store) (t : Target) (env : Dict String String) : Bool :=
  (s.read Secret t.variableSecretKey).any fun secret => Terraform.variablesDiffer secret.texts env

end Store

theorem on_ensure {τ : Type} [Resource τ] {r : τ} {key : ObjectKey} (kinded : s.store.Kinded)
    (named : (Resource.wrap r).key? = some key) (kind : key.kind = Resource.kind τ) :
    (Access.ensure r).on s = (.ok (), s.provide key (Resource.wrap r)) := by
  unfold Access.ensure Pass.keyOf Session.provide
  rw [named]
  change ((Pass.find τ key >>= fun found =>
    if found.isNone then Pass.update r else pure ()).on s) = _
  rw [Pass.on_bind, Pass.on_find, kinded.find kind]
  cases held : s.store.get? key with
  | none =>
    rw [(kinded.read_eq_none_iff kind).mpr held]
    exact Pass.on_update named
  | some o =>
    obtain ⟨found, read, -⟩ := kinded.read_of_get? (τ := τ) kind held
    rw [read]
    rfl

namespace Reconcile

theorem on_ensureRole (keyed : s.store.WellKeyed) :
    (Access.ensureRole (Names.clusterRole t.ns)).on s = (.ok (), s.provideRole t) :=
  on_ensure keyed.kinded (key?_role t) rfl

theorem on_renderInputs (keyed : s.store.WellKeyed) :
    (renderInputs t c).on s =
      match bundle t c with
      | .ok b => (.ok (b, s.store.bundleDiffers t b), s.keep t b)
      | .error e => (.error e, s) := by
  unfold renderInputs
  rw [Pass.on_bind, Pass.on_ask]
  cases bundle t c with
  | error e => rfl
  | ok b =>
    simp only
    rw [Pass.on_bind, Pass.on_findNamed, keyed.findNamed]
    simp only
    rw [Pass.on_bind, Pass.on_update (key?_bundleMap t b)]
    rfl

theorem on_writeVariableSecret (env : Dict String String) :
    (writeVariableSecret t env).on s =
      (.ok (), s.write t.variableSecretKey (Resource.wrap (variableSecret t env))) :=
  Pass.on_update (key?_variableSecret t env)

theorem on_syncVariables (keyed : s.store.WellKeyed) (credentials : Dict String String) :
    (syncVariables t c credentials).on s =
      match environment c credentials with
      | .ok env => (.ok (env, s.store.variablesDiffer t env), s.settleVariables t env)
      | .error e => (.error e, s) := by
  unfold syncVariables
  rw [Pass.on_bind, Pass.on_ask]
  cases environment c credentials with
  | error e => rfl
  | ok env =>
    have search : s.store.findNamed Secret t.ns t.variableSecret =
        .ok (s.store.read Secret t.variableSecretKey) := keyed.findNamed _ _
    simp only
    rw [Pass.on_bind, Pass.on_findNamed, search]
    unfold Session.settleVariables Session.provide Store.variablesDiffer
    cases held : s.store.get? t.variableSecretKey with
    | none =>
      rw [(keyed.read_eq_none_iff (τ := Secret) rfl).mpr held]
      simp only
      rw [Pass.on_bind, on_writeVariableSecret]
      rfl
    | some o =>
      obtain ⟨secret, found, -⟩ := keyed.read_of_get? (τ := Secret) rfl held
      rw [found]
      rfl

end Reconcile

/-! ### Jobs -/

namespace Session

/-- Makes the job of an execution, and before it everything that it needs. -/
def start (s : Session) (settings : Settings) (t : Target) (i : Inputs) (e : Execution) :
    Session :=
  let s := s.write t.variableSecretKey (Resource.wrap (variableSecret t i.env))
  let s := s.provide t.accountKey (Resource.wrap (Access.account t.ns Names.serviceAccount))
  let s := s.provide t.bindingKey
    (Resource.wrap (Access.binding t.ns (Names.clusterRole t.ns) Names.serviceAccount))
  (s.write (t.jobKey e) (Resource.wrap (Executor.job settings t i e))).handOver (t.jobKey e)

/-- What to do about the job of an execution. -/
def plan (s : Session) (settings : Settings) (t : Target) (i : Inputs) (changed : Bool)
    (e : Execution) : Executor.JobPlan :=
  Executor.plan changed (s.store.read Job (t.jobKey e)) (Executor.job settings t i e)

/-- Brings the job of an execution in line with its inputs. -/
def converge (s : Session) (settings : Settings) (t : Target) (i : Inputs) (changed : Bool)
    (e : Execution) : Session :=
  match s.plan settings t i changed e with
  | .unchanged => s
  | .recreate => ((s.delete (t.jobKey e)).2.delete t.variableSecretKey).2.start settings t i e
  | .trigger => s.start settings t i e

end Session

namespace Reconcile

theorem on_startJob (kinded : s.store.Kinded) (i : Inputs) (e : Execution) :
    (startJob t i (Executor.job settings t i e)).on s = (.ok (), s.start settings t i e) := by
  have first : (s.write t.variableSecretKey
      (Resource.wrap (variableSecret t i.env))).store.Kinded := Session.kinded_write kinded rfl
  have second : ((s.write t.variableSecretKey (Resource.wrap (variableSecret t i.env))).provide
      t.accountKey (Resource.wrap (Access.account t.ns Names.serviceAccount))).store.Kinded :=
    Session.kinded_provide first rfl
  unfold startJob Access.ensureAccount Access.ensureBinding triggerJob
  rw [Pass.on_bind, on_writeVariableSecret]
  simp only
  rw [Pass.on_bind, on_ensure first (key?_account t) rfl]
  simp only
  rw [Pass.on_bind, on_ensure second (key?_binding t _ _) rfl]
  simp only
  rw [Pass.on_bind, Pass.on_bind, Pass.on_add (key?_job settings t i e)]
  rfl

theorem on_convergeJob (kinded : s.store.Kinded) (i : Inputs) (changed : Bool) (e : Execution) :
    (convergeJob settings t i changed e).on s = (.ok (), s.converge settings t i changed e) := by
  unfold convergeJob Session.converge Session.plan
  rw [Pass.on_bind, Pass.on_find, kinded.find rfl]
  simp only
  cases Executor.plan changed (s.store.read Job (t.jobKey e)) (Executor.job settings t i e) with
  | unchanged => rfl
  | trigger => exact on_startJob kinded i e
  | recreate =>
    simp only
    rw [Pass.on_bind, Pass.on_delete]
    simp only
    rw [Pass.on_bind, Pass.on_delete]
    exact on_startJob (Session.kinded_delete (Session.kinded_delete kinded _) _) i e

end Reconcile

theorem Session.wellKeyed_converge (keyed : s.store.WellKeyed) (settings : Settings) (t : Target)
    (i : Inputs) (changed : Bool) (e : Execution) :
    (s.converge settings t i changed e).store.WellKeyed := by
  have changes : Changes t (t.Touches default) s ((convergeJob settings t i changed e).on s).2 :=
    within_convergeJob i changed e s keyed
  rw [on_convergeJob keyed.kinded] at changes
  exact changes.wellKeyed keyed

theorem Session.wellKeyed_note (keyed : s.store.WellKeyed) (key : ObjectKey)
    {f : Configuration → Configuration} (note : Note f) : (s.edit key f).store.WellKeyed :=
  wellKeyed_edit keyed key note.gentle.keepsKey

namespace Store

/-- How far the job under a key has come. -/
def report (s : Store) (key : ObjectKey) : Report :=
  match s.read Job key with
  | some j => Executor.report j
  | none => ⟨.provisioning, "job not observed yet"⟩

theorem WellKeyed.jobReport {s : Store} (keyed : s.WellKeyed) (e : Execution) :
    jobReport (t.jobKey e) s = .ok (s.report (t.jobKey e)) := by
  unfold Reconcile.jobReport Store.report
  rw [keyed.find rfl]
  cases s.read Job (t.jobKey e) <;> rfl

end Store

/-! ### Destroying -/

/-- The key of the provider that a configuration refers to. -/
def Configuration.providerKey (c : Configuration) : ObjectKey :=
  ⟨.provider, c.providerReference.1, c.providerReference.2⟩

namespace Store

/-- Whether a configuration can go without destroying anything. -/
def deletable (s : Store) (c : Configuration) : Bool :=
  !((s.read Provider c.providerKey).any (·.isReady)) || !isProvisioned c.applyState

theorem WellKeyed.isDeletable {s : Store} (keyed : s.WellKeyed) :
    isDeletable c s = .ok (s.deletable c) := by
  unfold Reconcile.isDeletable
  simp only [keyed.findNamed]
  rfl

end Store

namespace Session

/-- Deletes what is under some keys, one after the other. -/
def deleteAll (s : Session) (keys : List ObjectKey) : Session :=
  keys.foldl (fun s key => (s.delete key).2) s

theorem wellKeyed_deleteAll (keyed : s.store.WellKeyed) (keys : List ObjectKey) :
    (s.deleteAll keys).store.WellKeyed := by
  induction keys generalizing s with
  | nil => exact keyed
  | cons key rest ih => exact ih (wellKeyed_delete keyed key)

theorem get?_deleteAll_of_not_mem {key : ObjectKey} {keys : List ObjectKey} (other : key ∉ keys) :
    (s.deleteAll keys).store.get? key = s.store.get? key := by
  induction keys generalizing s with
  | nil => rfl
  | cons first rest ih =>
    rw [List.mem_cons, not_or] at other
    obtain ⟨apart, elsewhere⟩ := other
    exact (ih elsewhere).trans (get?_delete_of_ne s apart)

theorem get?_deleteAll_of_free {key : ObjectKey} {keys : List ObjectKey} (listed : key ∈ keys)
    (free : ∀ o, s.store.get? key = some o → o.hasFinalizers = false) :
    (s.deleteAll keys).store.get? key = none := by
  induction keys generalizing s with
  | nil => cases listed
  | cons first rest ih =>
    by_cases later : key ∈ rest
    · refine ih later fun o held => ?_
      by_cases here : key = first
      · subst here
        rw [get?_delete_of_free free] at held
        cases held
      · exact free o ((get?_delete_of_ne s here).symm.trans held)
    · rcases List.mem_cons.mp listed with rfl | later'
      · exact (get?_deleteAll_of_not_mem later).trans (get?_delete_of_free free)
      · exact absurd later' later

@[simp] theorem triggered_deleteAll (s : Session) (keys : List ObjectKey) :
    (s.deleteAll keys).triggered = s.triggered := by
  induction keys generalizing s with
  | nil => rfl
  | cons first rest ih => exact (ih _).trans (triggered_delete s first)

/-- Removes what was generated for a target, and its own secret for the outputs. -/
def cleanup (s : Session) (t : Target) (c : Configuration) : Session :=
  s.deleteAll (generatedKeys t ++ (ownConnectionKey? t c s.store).toList)

/-- Lets a configuration go: notes that, cleans up, takes off the finalizer and deletes it. -/
def letGo (s : Session) (t : Target) (c : Configuration) : Session :=
  let s := s.edit t.key (withDestroyStatus .destroyed "Cloud resources are destroyed")
  (((s.cleanup t c).edit t.key withoutOwnFinalizer).delete t.key).2

end Session

namespace Reconcile

theorem on_forM_delete (keys : List ObjectKey) :
    (keys.forM fun key => discard (Pass.delete key)).on s = (.ok (), s.deleteAll keys) := by
  induction keys generalizing s with
  | nil => rfl
  | cons key rest ih =>
    change (discard (Pass.delete key) >>= fun _ =>
      rest.forM fun key => discard (Pass.delete key)).on s = _
    rw [Pass.on_bind, Pass.on_discard, Pass.on_delete]
    exact ih

theorem on_cleanup : (cleanup t c).on s = (.ok (), s.cleanup t c) := by
  unfold cleanup
  rw [Pass.on_bind, Pass.on_get]
  exact on_forM_delete _

theorem on_prepare (keyed : s.store.WellKeyed) :
    (prepare resolve t c).on s =
      match bundle t c with
      | .error e => (.error e, s)
      | .ok b =>
        match resolveCredentials resolve c (s.keep t b).store with
        | .error e => (.error e, s.keep t b)
        | .ok credentials =>
          match environment c credentials with
          | .error e => (.error e, s.keep t b)
          | .ok env =>
            (.ok (.of t b.text env,
              s.store.bundleDiffers t b || (s.keep t b).store.variablesDiffer t env),
             ((s.keep t b).settleVariables t env).provideRole t) := by
  unfold prepare
  rw [Pass.on_bind, on_renderInputs keyed]
  cases bundle t c with
  | error e => rfl
  | ok b =>
    have kept := Session.wellKeyed_keep keyed t b
    simp only
    rw [Pass.on_bind, Pass.on_ask]
    cases resolveCredentials resolve c (s.keep t b).store with
    | error e => rfl
    | ok credentials =>
      simp only
      rw [Pass.on_bind, on_syncVariables kept]
      cases environment c credentials with
      | error e => rfl
      | ok env =>
        simp only
        rw [Pass.on_bind, on_ensureRole (Session.wellKeyed_settleVariables kept t env)]
        rfl

theorem on_destroyResources (keyed : s.store.WellKeyed) :
    (destroyResources settings resolve t c).on s =
      match (prepare resolve t c).on s with
      | (.error e, s₁) => (.error e, s₁.edit t.key (withDestroyStatus .destroyFailed e.message))
      | (.ok (i, changed), s₁) =>
        let s₂ := (s₁.converge settings t i changed .destroy).edit t.key
          (withDestroyStatus .destroying "Cloud resources are being destroyed...")
        let report := s₂.store.report (t.jobKey .destroy)
        match report.progress with
        | .succeeded => (.ok (), s₂)
        | .provisioning => (.error .destroyPending, s₂)
        | _ =>
          (.error .destroyPending,
            s₂.edit t.key (withDestroyStatus .destroyFailed report.message)) := by
  have changes : Changes t (t.Touches c) s ((prepare resolve t c).on s).2 := within_prepare s keyed
  unfold destroyResources
  rw [Pass.on_bind, Pass.on_tryCatch]
  rcases ran : (prepare resolve t c).on s with ⟨e | ⟨i, changed⟩, s₁⟩ <;> rw [ran] at changes
  · simp only
    rw [Pass.on_bind, on_setDestroyStatus]
    rfl
  · have prepared : s₁.store.WellKeyed := changes.wellKeyed keyed
    have noted := Session.wellKeyed_note
      (Session.wellKeyed_converge prepared settings t i changed .destroy) t.key
      (note_withDestroyStatus .destroying "Cloud resources are being destroyed...")
    simp only
    rw [Pass.on_bind, on_convergeJob prepared.kinded]
    simp only
    rw [Pass.on_bind, on_setDestroyStatus]
    simp only
    rw [Pass.on_bind, Pass.on_ask, noted.jobReport]
    generalize Store.report _ (t.jobKey .destroy) = report
    obtain ⟨progress, message⟩ := report
    cases progress with
    | succeeded => rfl
    | provisioning => rfl
    | initError | applyError | invalidRegion =>
      simp only
      rw [Pass.on_bind, on_setDestroyStatus]
      rfl

/-- How every pass ends that lets a configuration go. -/
def release (t : Target) (c : Configuration) : Pass Outcome := do
  setDestroyStatus t.key .destroyed "Cloud resources are destroyed"
  cleanup t c
  let _ ← Pass.updateWith t.key withoutOwnFinalizer
  let _ ← Pass.delete t.key
  return .done

/-- What is left of letting a configuration go, whatever is in the store: it has all been done, or
all but the last deletion. -/
theorem snd_release (t : Target) (c : Configuration) (s : Session) :
    ((release t c).on s).2 = s.letGo t c ∨
      ((release t c).on s).2 = ((s.edit t.key
        (withDestroyStatus .destroyed "Cloud resources are destroyed")).cleanup t c).edit t.key
          withoutOwnFinalizer := by
  have edited : ∀ s' : Session, ((Pass.updateWith t.key withoutOwnFinalizer).on s').2 =
      s'.edit t.key withoutOwnFinalizer :=
    fun _ => Pass.snd_updateWith rfl withoutOwnFinalizer
  unfold release
  rw [Pass.on_bind, on_setDestroyStatus]
  simp only
  rw [Pass.on_bind, on_cleanup]
  simp only
  rw [Pass.on_bind]
  unfold Session.letGo
  dsimp only
  rw [← edited]
  rcases (Pass.updateWith t.key withoutOwnFinalizer).on _ with ⟨e | found, s'⟩
  · exact .inr rfl
  · exact .inl rfl

theorem on_release (keyed : s.store.WellKeyed) :
    (release t c).on s = (.ok .done, s.letGo t c) := by
  have noted := Session.wellKeyed_note keyed t.key
    (note_withDestroyStatus .destroyed "Cloud resources are destroyed")
  have cleaned : (Session.cleanup _ t c).store.WellKeyed := Session.wellKeyed_deleteAll noted _
  have kind : t.key.kind = Resource.kind Configuration := rfl
  obtain ⟨found, released⟩ := Pass.on_updateWith cleaned kind withoutOwnFinalizer
  unfold release
  rw [Pass.on_bind, on_setDestroyStatus]
  simp only
  rw [Pass.on_bind, on_cleanup]
  simp only
  rw [Pass.on_bind, released]
  rfl

theorem on_destroy (keyed : s.store.WellKeyed) :
    (destroy settings resolve t c).on s =
      if !hasOwnFinalizer c then (.ok .done, s)
      else if t.deleteResource && !s.store.deletable c then
        match (destroyResources settings resolve t c).on s with
        | (.error e, s') => (.error e, s')
        | (.ok (), s') => (.ok .done, s'.letGo t c)
      else (.ok .done, s.letGo t c) := by
  unfold destroy
  split
  · rfl
  · rw [Pass.on_bind, Pass.on_ask, keyed.isDeletable]
    dsimp only
    split
    · rw [Pass.on_bind]
      have changes : Changes t (t.Touches c) s ((destroyResources settings resolve t c).on s).2 :=
        within_destroyResources s keyed
      rcases ran : (destroyResources settings resolve t c).on s with ⟨answer, s'⟩
      rw [ran] at changes
      cases answer with
      | error e => rfl
      | ok _ => exact on_release (changes.wellKeyed keyed)
    · exact on_release keyed

end Reconcile

end Provisioner
