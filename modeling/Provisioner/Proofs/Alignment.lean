import Provisioner.Proofs.ApplySteps
import Provisioner.Proofs.CredentialLookup

/-!
What is settled once a job has been handed over. The rendered source, the variable secret and the
fingerprint of the job then tell of the same inputs, and as long as those three objects stay, a pass
that finds the same inputs again sees no change in any of them and leaves the job alone.
-/

namespace Provisioner

open Reconcile
open Executor (Inputs)

variable {s s' : Session} {t : Target} {b : Bundle} {env : Dict String String} {e : Execution}
  {settings : Settings}

/-! ### Variables -/

/-- A secret that holds texts only is read as those texts. -/
theorem Secret.texts_of_stringData {secret : Secret} {texts : Dict String String}
    (empty : secret.data = none) (held : secret.stringData = some texts) : secret.texts = texts := by
  unfold Secret.texts
  rw [empty, held]
  exact Dict.empty_overlay texts

theorem Terraform.variablesDiffer_self (env : Dict String String) :
    Terraform.variablesDiffer env env = false := by
  unfold Terraform.variablesDiffer
  rw [Bool.or_eq_false_iff]
  refine ⟨by simp, List.any_eq_false.mpr fun entry listed => ?_⟩
  rw [Dict.get?_eq_some_iff.mpr listed]
  simp

/-! ### Alignment -/

/-- The fingerprint that the job under a key tells, if there is one. -/
def Store.fingerprint? (s : Store) (key : ObjectKey) : Option String :=
  (s.read Job key).bind Executor.fingerprint?

theorem Store.fingerprint?_congr {s s' : Store} {key : ObjectKey}
    (same : s'.get? key = s.get? key) : s'.fingerprint? key = s.fingerprint? key := by
  unfold Store.fingerprint?
  rw [read_congr same]

/-- Source, variables and job tell of the same inputs. -/
structure Aligned (t : Target) (b : Bundle) (env : Dict String String) (e : Execution)
    (s : Store) : Prop where
  source : s.bundleDiffers t b = false
  secret : (s.read Secret t.variableSecretKey).isSome
  values : s.variablesDiffer t env = false
  job : s.fingerprint? (t.jobKey e) = some (Inputs.of t b.text env).fingerprint

theorem Aligned.congr {s s' : Store} (aligned : Aligned t b env e s)
    (source : s'.bundleDiffers t b = false)
    (secret : s'.get? t.variableSecretKey = s.get? t.variableSecretKey)
    (job : s'.fingerprint? (t.jobKey e) = s.fingerprint? (t.jobKey e)) : Aligned t b env e s' where
  source := source
  secret := by
    rw [Store.read_congr secret]
    exact aligned.secret
  values := by
    unfold Store.variablesDiffer
    rw [Store.read_congr secret]
    exact aligned.values
  job := job.trans aligned.job

namespace Store

theorem bundleDiffers_congr {s s' : Store}
    (same : s'.get? t.inputBundleKey = s.get? t.inputBundleKey) :
    s'.bundleDiffers t b = s.bundleDiffers t b := by
  unfold Store.bundleDiffers
  rw [read_congr same]

theorem variablesDiffer_congr {s s' : Store}
    (same : s'.get? t.variableSecretKey = s.get? t.variableSecretKey) :
    s'.variablesDiffer t env = s.variablesDiffer t env := by
  unfold Store.variablesDiffer
  rw [read_congr same]

end Store

namespace Session

/-- A source that was just kept does not differ. -/
theorem bundleDiffers_keep (s : Session) (t : Target) (b : Bundle) :
    (s.keep t b).store.bundleDiffers t b = false := by
  obtain ⟨kept, found, data⟩ := read_write_configMap (s := s) (bundleMap t b)
    (rfl : t.inputBundleKey.kind = .configMap)
  have read : (s.keep t b).store.read ConfigMap t.inputBundleKey = some kept := found
  unfold Store.bundleDiffers Reconcile.bundleDiffers
  rw [read, Option.bind_some, data]
  simp [bundleMap, Bundle.data]

/-- Of the kinds of other objects starting a job writes only the variable secret. -/
theorem get?_start {key : ObjectKey} (settings : Settings) (i : Inputs)
    (kinds : key.kind ≠ .job ∧ key.kind ≠ .serviceAccount ∧ key.kind ≠ .clusterRoleBinding) :
    (s.start settings t i e).store.get? key =
      (s.write t.variableSecretKey (Resource.wrap (variableSecret t i.env))).store.get? key := by
  obtain ⟨job, account, binding⟩ := kinds
  refine (get?_write_of_ne _ _ fun here => ?_).trans ((get?_provide_of_ne _ _ fun here => ?_).trans
    (get?_provide_of_ne _ _ fun here => ?_))
  · exact job (here ▸ rfl)
  · exact binding (here ▸ rfl)
  · exact account (here ▸ rfl)

theorem get?_converge {key : ObjectKey} (settings : Settings) (i : Inputs) (changed : Bool)
    (kinds : key.kind ≠ .job ∧ key.kind ≠ .serviceAccount ∧ key.kind ≠ .clusterRoleBinding)
    (other : key ≠ t.variableSecretKey) :
    (s.converge settings t i changed e).store.get? key = s.store.get? key := by
  unfold converge
  split
  · rfl
  · refine ((get?_start settings i kinds).trans (get?_write_of_ne _ _ other)).trans ?_
    refine (get?_delete_of_ne _ other).trans (get?_delete_of_ne _ ?_)
    rintro rfl
    exact kinds.1 rfl
  · exact (get?_start settings i kinds).trans (get?_write_of_ne _ _ other)

/-- Once a job has been started, it is aligned with the variables and the source that is kept. -/
theorem aligned_start (settings : Settings) (source : s.store.bundleDiffers t b = false) :
    Aligned t b env e (s.start settings t (.of t b.text env) e).store := by
  have written : (s.start settings t (.of t b.text env) e).store.get? t.variableSecretKey =
      (s.write t.variableSecretKey (Resource.wrap (variableSecret t env))).store.get?
        t.variableSecretKey :=
    get?_start settings (Inputs.of t b.text env) ⟨by nofun, by nofun, by nofun⟩
  obtain ⟨secret, found, empty, texts⟩ := read_write_secret (s := s) (variableSecret t env)
    (rfl : t.variableSecretKey.kind = .secret) rfl
  have read : (s.start settings t (.of t b.text env) e).store.read Secret t.variableSecretKey =
      some secret := (Store.read_congr written).trans found
  have settled := Secret.texts_of_stringData empty texts
  obtain ⟨j, job, -, made⟩ := read_start s settings t (.of t b.text env) e
  refine ⟨?_, ?_, ?_, Option.bind_eq_some_iff.mpr ⟨j, job, made⟩⟩
  · rw [Store.bundleDiffers_congr, source]
    exact (get?_start settings _ ⟨by nofun, by nofun, by nofun⟩).trans
      (get?_write_of_ne _ _ (by nofun))
  · rw [read]
    rfl
  · unfold Store.variablesDiffer
    rw [read, Option.any_some, settled]
    exact Terraform.variablesDiffer_self env

theorem triggered_start (settings : Settings) (i : Inputs) :
    (s.start settings t i e).triggered = s.triggered ++ [t.jobKey e] := by
  unfold start handOver provide
  dsimp only
  repeat' split
  all_goals simp

/-- A job is left alone and nothing is done, or it is handed over and then aligned. -/
theorem converge_outcome (settings : Settings) (env : Dict String String)
    (source : s.store.bundleDiffers t b = false) (changed : Bool) :
    (s.plan settings t (.of t b.text env) changed e = .unchanged ∧
      s.converge settings t (.of t b.text env) changed e = s) ∨
    (s.converge settings t (.of t b.text env) changed e).triggered =
        s.triggered ++ [t.jobKey e] ∧
      Aligned t b env e (s.converge settings t (.of t b.text env) changed e).store ∧
      ∃ j, (s.converge settings t (.of t b.text env) changed e).store.read Job (t.jobKey e) =
        some j ∧ j.status = none := by
  unfold converge
  cases s.plan settings t (.of t b.text env) changed e with
  | unchanged => exact .inl ⟨rfl, rfl⟩
  | trigger =>
    obtain ⟨j, found, new, -⟩ := read_start s settings t (.of t b.text env) e
    exact .inr ⟨triggered_start settings _, aligned_start settings source, j, found, new⟩
  | recreate =>
    have kept : ((s.delete (t.jobKey e)).2.delete t.variableSecretKey).2.store.bundleDiffers t b =
        false := by
      rw [Store.bundleDiffers_congr, source]
      exact (get?_delete_of_ne _ (by nofun)).trans (get?_delete_of_ne s (by nofun))
    obtain ⟨j, found, new, -⟩ := read_start _ settings t (.of t b.text env) e
    refine .inr ⟨?_, aligned_start settings kept, j, found, new⟩
    simp only
    rw [triggered_start, triggered_delete, triggered_delete]

/-- Whatever is done about a job, it is aligned afterwards. -/
theorem aligned_converge (settings : Settings) (env : Dict String String)
    (source : s.store.bundleDiffers t b = false)
    (secret : (s.store.read Secret t.variableSecretKey).isSome) :
    Aligned t b env e
      (s.converge settings t (.of t b.text env) (s.store.variablesDiffer t env) e).store := by
  rcases converge_outcome settings env source (s.store.variablesDiffer t env) with
    ⟨planned, stays⟩ | ⟨-, aligned, -⟩
  · obtain ⟨values, job⟩ := (plan_unchanged_iff settings t _ _ e).mp planned
    rw [stays]
    exact ⟨source, secret, values, Option.bind_eq_some_iff.mpr job⟩
  · exact aligned

/-- An aligned job is left alone. -/
theorem converge_of_aligned (settings : Settings) (aligned : Aligned t b env e s.store) :
    s.converge settings t (.of t b.text env) false e = s := by
  have planned : s.plan settings t (.of t b.text env) false e = .unchanged :=
    (plan_unchanged_iff settings t _ false e).mpr ⟨rfl, Option.bind_eq_some_iff.mp aligned.job⟩
  unfold converge
  rw [planned]

end Session

/-! ### Alignment through the rest of a pass -/

section Rest

variable {c : Configuration}

/-- Recording how a pass went, and publishing outputs, keeps what is aligned. -/
theorem Aligned.changes (aligned : Aligned t b env e s.store)
    (changes : Changes t (Target.Publishes c) s s')
    (apart : ¬ Target.Publishes c t.variableSecretKey) : Aligned t b env e s'.store := by
  refine aligned.congr ?_ (changes.get? (by nofun) apart)
    (Store.fingerprint?_congr (changes.get? (by nofun) ?_))
  · rw [Store.bundleDiffers_congr (changes.get? (by nofun) ?_), aligned.source]
    exact fun published => nomatch published.kind
  · exact fun published => nomatch published.kind

theorem Aligned.keep (aligned : Aligned t b env e s.store) :
    Aligned t b env e (s.keep t b).store :=
  aligned.congr (Session.bundleDiffers_keep _ t b) (Session.get?_write_of_ne _ _ (by nofun))
    (Store.fingerprint?_congr (Session.get?_write_of_ne _ _ (by nofun)))

theorem Aligned.provideRole (aligned : Aligned t b env e s.store) :
    Aligned t b env e (s.provideRole t).store := by
  refine aligned.congr ?_ (Session.get?_provide_of_ne _ _ (by nofun))
    (Store.fingerprint?_congr (Session.get?_provide_of_ne _ _ (by nofun)))
  exact (Store.bundleDiffers_congr (Session.get?_provide_of_ne _ _ (by nofun))).trans aligned.source

theorem Aligned.note (aligned : Aligned t b env e s.store) {f : Configuration → Configuration} :
    Aligned t b env e (s.edit t.key f).store := by
  refine aligned.congr ?_ (Session.get?_edit_of_ne _ _ (by nofun))
    (Store.fingerprint?_congr (Session.get?_edit_of_ne _ _ (by nofun)))
  rw [Store.bundleDiffers_congr (Session.get?_edit_of_ne _ _ (by nofun)), aligned.source]

namespace Session

/-- There is nothing to settle where there is a variable secret. -/
theorem settleVariables_of_aligned (aligned : Aligned t b env e s.store) :
    s.settleVariables t env = s := by
  obtain ⟨secret, found⟩ := Option.isSome_iff_exists.mp aligned.secret
  refine provide_of_isSome ?_
  rw [Store.read_eq_some_iff.mp found]
  rfl

/-- Where all is aligned only the role may still have to be provided. -/
theorem ready_of_aligned (settings : Settings) (aligned : Aligned t b env .apply s.store) :
    s.ready settings t b env = s.provideRole t := by
  unfold ready
  simp only [aligned.values, settleVariables_of_aligned aligned]
  exact converge_of_aligned settings aligned.provideRole

@[simp] theorem triggered_provide (s : Session) (key : ObjectKey) (o : Object) :
    (s.provide key o).triggered = s.triggered := by
  unfold provide
  split <;> simp

@[simp] theorem triggered_keep : (s.keep t b).triggered = s.triggered := triggered_write _ _ _

@[simp] theorem triggered_settleVariables : (s.settleVariables t env).triggered = s.triggered :=
  triggered_provide _ _ _

@[simp] theorem triggered_provideRole : (s.provideRole t).triggered = s.triggered :=
  triggered_provide _ _ _

@[simp] theorem triggered_reload (differ : Bool) :
    (s.reload t differ).triggered = s.triggered := by
  unfold reload
  split <;> simp

@[simp] theorem triggered_hold : (s.hold t c).triggered = s.triggered := by
  unfold hold
  split <;> simp

/-- Settling variables, noting that and providing the role leaves the source alone. -/
theorem bundleDiffers_beforeJob (differ : Bool) :
    (((s.settleVariables t env).reload t differ).provideRole t).store.bundleDiffers t b =
      s.store.bundleDiffers t b :=
  Store.bundleDiffers_congr (get?_beforeJob (by nofun) (by nofun) (by nofun) differ)

/-- Getting ready hands over at most the job that applies, and then all is aligned. -/
theorem ready_outcome (settings : Settings) (env : Dict String String)
    (source : s.store.bundleDiffers t b = false) :
    (s.ready settings t b env).triggered = s.triggered ∨
    (s.ready settings t b env).triggered = s.triggered ++ [t.jobKey .apply] ∧
      Aligned t b env .apply (s.ready settings t b env).store := by
  unfold ready
  dsimp only
  generalize s.store.variablesDiffer t env = differ
  rcases converge_outcome settings env ((bundleDiffers_beforeJob differ).trans source) differ with
    ⟨-, stays⟩ | ⟨handed, aligned, -⟩
  · left
    rw [stays]
    simp
  · right
    refine ⟨?_, aligned⟩
    rw [handed]
    simp

/-- Settling the variables leaves whether they differ. -/
theorem variablesDiffer_settleVariables (keyed : s.store.WellKeyed) :
    (s.settleVariables t env).store.variablesDiffer t env = s.store.variablesDiffer t env := by
  unfold settleVariables provide
  cases held : s.store.get? t.variableSecretKey with
  | some o => rfl
  | none =>
    obtain ⟨secret, found, empty, texts⟩ := read_write_secret (s := s) (variableSecret t env)
      (rfl : t.variableSecretKey.kind = .secret) rfl
    have missing : s.store.read Secret t.variableSecretKey = none :=
      (keyed.read_eq_none_iff rfl).mpr held
    have read : (s.write t.variableSecretKey (Resource.wrap (variableSecret t env))).store.read Secret
        t.variableSecretKey = some secret := found
    simp only [Option.isNone_none, if_true]
    unfold Store.variablesDiffer
    rw [read, missing, Option.any_some, Secret.texts_of_stringData empty texts]
    exact Terraform.variablesDiffer_self env

/-- Once it is ready, all is aligned with what a configuration asks for. -/
theorem aligned_ready (keyed : s.store.WellKeyed) (settings : Settings)
    (env : Dict String String) (source : s.store.bundleDiffers t b = false) :
    Aligned t b env .apply (s.ready settings t b env).store := by
  have settled := wellKeyed_settleVariables keyed t env
  generalize differed : s.store.variablesDiffer t env = differ
  have role := wellKeyed_provideRole (wellKeyed_reload settled t differ) t
  have kept : (((s.settleVariables t env).reload t differ).provideRole t).store.get?
      t.variableSecretKey = (s.settleVariables t env).store.get? t.variableSecretKey :=
    (get?_provide_of_ne _ _ (by nofun)).trans (get?_reload (by nofun) differ)
  have secret : (((s.settleVariables t env).reload t differ).provideRole t).store.read Secret
      t.variableSecretKey |>.isSome := by
    rw [Store.read_congr kept]
    have there := isSome_get?_provide s t.variableSecretKey (Resource.wrap (variableSecret t env))
    obtain ⟨o, held⟩ := Option.isSome_iff_exists.mp there
    obtain ⟨secret, found, -⟩ := settled.read_of_get? (τ := Secret) rfl held
    rw [found]
    rfl
  have differ' : (((s.settleVariables t env).reload t differ).provideRole t).store.variablesDiffer t
      env = differ := by
    rw [Store.variablesDiffer_congr kept, variablesDiffer_settleVariables keyed, differed]
  have aligned := aligned_converge (e := .apply) settings env
    ((bundleDiffers_beforeJob differ).trans source) secret
  rw [differ'] at aligned
  unfold ready
  dsimp only
  rwa [differed]

end Session

end Rest

end Provisioner
