import Provisioner.Proofs.Alignment

/-!
What passes hand over. A pass over an active configuration hands over the job that applies it, or
nothing; a pass over one that is waiting to go hands over the job that destroys it, or nothing. After
a job has been handed over all is aligned, and a pass that finds all aligned with what it asks for
hands over nothing and leaves it so.
-/

namespace Provisioner

open Reconcile
open Executor (Inputs)

variable {s s' : Session} {t : Target} {c : Configuration} {b : Bundle}
  {env : Dict String String} {e : Execution}

/-- The variables that a configuration asks for, credentials included. -/
def Store.desired (resolve : Resolver) (s : Store) (c : Configuration) :
    Except Error (Dict String String) := do
  let credentials ← resolveCredentials resolve c s
  environment c credentials

theorem Store.desired_of_ok {resolve : Resolver} {s : Store} {credentials : Dict String String}
    (resolved : resolveCredentials resolve c s = .ok credentials) :
    s.desired resolve c = environment c credentials := by
  unfold Store.desired
  rw [resolved]
  rfl

theorem Configuration.Alike.desired {c' : Configuration} (alike : c.Alike c') (resolve : Resolver)
    (s : Store) : s.desired resolve c' = s.desired resolve c := by
  unfold Store.desired
  rw [alike.resolveCredentials]
  simp only [alike.environment]

/-! ### Applying -/

theorem Aligned.hold (aligned : Aligned t b env e s.store) :
    Aligned t b env e (s.hold t c).store := by
  unfold Session.hold
  split
  · exact aligned
  · exact aligned.note

/-- A pass that applies hands over nothing, or the job that applies, and then all is aligned. -/
theorem apply_outcome (settings : Settings) (resolve : Resolver) (keyed : s.store.WellKeyed)
    (placed : (Resource.wrap c).key? = some t.key)
    (apart : ¬ Target.Publishes c t.variableSecretKey) :
    ((apply settings resolve t c).on s).2.triggered = s.triggered ∨
    ((apply settings resolve t c).on s).2.triggered = s.triggered ++ [t.jobKey .apply] ∧
      ∃ b env, bundle t c = .ok b ∧ ((s.hold t c).keep t b).store.desired resolve c = .ok env ∧
        Aligned t b env .apply ((apply settings resolve t c).on s).2.store := by
  have held := Session.wellKeyed_hold keyed t c
  rw [on_apply keyed placed]
  cases bundled : bundle t c with
  | error e => cases e <;> exact .inl (by simp)
  | ok b =>
    have kept := Session.wellKeyed_keep held t b
    simp only
    split
    · exact .inl (by simp)
    rw [on_run kept]
    cases resolved : resolveCredentials resolve c ((s.hold t c).keep t b).store with
    | error e => exact .inl (by simp)
    | ok credentials =>
      cases settled : environment c credentials with
      | error e => exact .inl (by simp [settled])
      | ok env =>
        simp only [settled]
        have ready := Session.wellKeyed_ready kept settings t b env
        have changes := within_recordProgress (t := t) (c := c)
          ((((s.hold t c).keep t b).ready settings t b env).store.report (t.jobKey .apply)) _ ready
        rw [changes.triggered fun e published => nomatch published.kind]
        rcases Session.ready_outcome settings env
          (Session.bundleDiffers_keep _ t b) with same | ⟨handed, aligned⟩
        · exact .inl (by rw [same]; simp)
        · refine .inr ⟨by rw [handed]; simp, b, env, rfl, ?_, aligned.changes changes apart⟩
          rw [Store.desired_of_ok resolved, settled]

/-- Where all is aligned a pass that applies hands over nothing, and all stays aligned. -/
theorem apply_of_aligned (settings : Settings) (resolve : Resolver) (keyed : s.store.WellKeyed)
    (placed : (Resource.wrap c).key? = some t.key)
    (apart : ¬ Target.Publishes c t.variableSecretKey) (bundled : bundle t c = .ok b)
    (steady : ∀ env', ((s.hold t c).keep t b).store.desired resolve c = .ok env' → env' = env)
    (aligned : Aligned t b env .apply s.store) :
    ((apply settings resolve t c).on s).2.triggered = s.triggered ∧
      Aligned t b env .apply ((apply settings resolve t c).on s).2.store := by
  have held := Session.wellKeyed_hold keyed t c
  have kept := Session.wellKeyed_keep held t b
  have alignedHeld : Aligned t b env .apply (s.hold t c).store := aligned.hold
  have alignedKept := alignedHeld.keep
  rw [on_apply keyed placed, bundled]
  simp only
  rw [if_neg (by simp [alignedHeld.source]), on_run kept]
  cases resolved : resolveCredentials resolve c ((s.hold t c).keep t b).store with
  | error e => exact ⟨by simp, alignedKept.note⟩
  | ok credentials =>
    cases settled : environment c credentials with
    | error e => exact ⟨by simp [settled], by simpa only [settled] using alignedKept⟩
    | ok env' =>
      have same : env' = env := steady env' (by rw [Store.desired_of_ok resolved, settled])
      subst same
      simp only [settled]
      have ready := Session.wellKeyed_ready kept settings t b env'
      rw [Session.ready_of_aligned settings alignedKept] at ready ⊢
      have changes := within_recordProgress (t := t) (c := c)
        ((((s.hold t c).keep t b).provideRole t).store.report (t.jobKey .apply)) _ ready
      refine ⟨?_, alignedKept.provideRole.changes changes apart⟩
      rw [changes.triggered fun e published => nomatch published.kind]
      simp

/-! ### Destroying -/

theorem Aligned.settleVariables (aligned : Aligned t b env e s.store) :
    Aligned t b env e (s.settleVariables t env).store := by
  rw [Session.settleVariables_of_aligned aligned]
  exact aligned

/-- What preparing a destroy job answers and leaves. -/
theorem prepare_cases (resolve : Resolver) (keyed : s.store.WellKeyed) :
    (∃ e, (prepare resolve t c).on s = (.error e, s)) ∨
    ∃ b, bundle t c = .ok b ∧
      ((∃ e, (prepare resolve t c).on s = (.error e, s.keep t b)) ∨
      ∃ env, (s.keep t b).store.desired resolve c = .ok env ∧
        (prepare resolve t c).on s =
          (.ok (.of t b.text env,
            s.store.bundleDiffers t b || (s.keep t b).store.variablesDiffer t env),
           ((s.keep t b).settleVariables t env).provideRole t)) := by
  rw [on_prepare keyed]
  cases bundled : bundle t c with
  | error e => exact .inl ⟨e, rfl⟩
  | ok b =>
    refine .inr ⟨b, rfl, ?_⟩
    cases resolved : resolveCredentials resolve c (s.keep t b).store with
    | error e => exact .inl ⟨e, by simp only [resolved]⟩
    | ok credentials =>
      cases settled : environment c credentials with
      | error e => exact .inl ⟨e, by simp only [resolved, settled]⟩
      | ok env =>
        refine .inr ⟨env, ?_, by simp only [resolved, settled]⟩
        rw [Store.desired_of_ok resolved, settled]

/-- Once the inputs are prepared and the job is in line, destroying only notes how it went. -/
theorem destroyResources_notes (settings : Settings) {resolve : Resolver} {i : Inputs}
    {changed : Bool} (keyed : s.store.WellKeyed)
    (ran : (prepare resolve t c).on s = (.ok (i, changed), s')) :
    Changes t (Target.Publishes c) (s'.converge settings t i changed .destroy)
      ((destroyResources settings resolve t c).on s).2 := by
  have noted : Changes t (Target.Publishes c) (s'.converge settings t i changed .destroy) _ :=
    .single (.note (note_withDestroyStatus .destroying "Cloud resources are being destroyed..."))
  rw [on_destroyResources keyed, ran]
  simp only
  split
  · exact noted
  · exact noted
  · exact .step noted (.note (note_withDestroyStatus _ _))

/-- Where the inputs cannot be prepared nothing is handed over, and all that was aligned stays so. -/
theorem destroyResources_of_error (settings : Settings) {resolve : Resolver} {e : Error}
    (keyed : s.store.WellKeyed) (ran : (prepare resolve t c).on s = (.error e, s')) :
    ((destroyResources settings resolve t c).on s).2 =
      s'.edit t.key (withDestroyStatus .destroyFailed e.message) := by
  rw [on_destroyResources keyed, ran]

/-- Destroying hands over nothing, or the job that destroys, and then all is aligned. -/
theorem destroyResources_outcome (settings : Settings) (resolve : Resolver)
    (keyed : s.store.WellKeyed) (apart : ¬ Target.Publishes c t.variableSecretKey) :
    ((destroyResources settings resolve t c).on s).2.triggered = s.triggered ∨
    ((destroyResources settings resolve t c).on s).2.triggered =
        s.triggered ++ [t.jobKey .destroy] ∧
      ∃ b env, bundle t c = .ok b ∧ (s.keep t b).store.desired resolve c = .ok env ∧
        Aligned t b env .destroy ((destroyResources settings resolve t c).on s).2.store := by
  rcases prepare_cases resolve keyed (t := t) (c := c) with
    ⟨e, ran⟩ | ⟨b, bundled, ⟨e, ran⟩ | ⟨env, desired, ran⟩⟩
  · left
    rw [destroyResources_of_error settings keyed ran, Session.triggered_edit]
  · left
    rw [destroyResources_of_error settings keyed ran, Session.triggered_edit,
      Session.triggered_keep]
  · have kept := Session.wellKeyed_keep keyed t b
    have prepared := Session.wellKeyed_provideRole (Session.wellKeyed_settleVariables kept t env) t
    have source : (((s.keep t b).settleVariables t env).provideRole t).store.bundleDiffers t b =
        false := (Session.bundleDiffers_beforeJob false).trans (Session.bundleDiffers_keep _ t b)
    have notes := destroyResources_notes settings keyed ran
    rw [notes.triggered fun e published => nomatch published.kind]
    rcases Session.converge_outcome (e := .destroy) settings env source
      (s.store.bundleDiffers t b || (s.keep t b).store.variablesDiffer t env) with
      ⟨-, same⟩ | ⟨handed, aligned, -⟩
    · left
      rw [same]
      simp
    · refine .inr ⟨by rw [handed]; simp, b, env, bundled, desired, aligned.changes notes apart⟩

/-- Where all is aligned destroying hands over nothing, and all stays aligned. -/
theorem destroyResources_of_aligned (settings : Settings) (resolve : Resolver)
    (keyed : s.store.WellKeyed) (apart : ¬ Target.Publishes c t.variableSecretKey)
    (bundled : bundle t c = .ok b)
    (steady : ∀ env', (s.keep t b).store.desired resolve c = .ok env' → env' = env)
    (aligned : Aligned t b env .destroy s.store) :
    ((destroyResources settings resolve t c).on s).2.triggered = s.triggered ∧
      Aligned t b env .destroy ((destroyResources settings resolve t c).on s).2.store := by
  have alignedKept := aligned.keep
  rcases prepare_cases resolve keyed (t := t) (c := c) with
    ⟨e, ran⟩ | ⟨b', bundled', ⟨e, ran⟩ | ⟨env', desired, ran⟩⟩
  · rw [destroyResources_of_error settings keyed ran]
    exact ⟨Session.triggered_edit _ _ _, aligned.note⟩
  · cases bundled.symm.trans bundled'
    rw [destroyResources_of_error settings keyed ran]
    exact ⟨by simp, alignedKept.note⟩
  · cases bundled.symm.trans bundled'
    cases steady env' desired
    have notes := destroyResources_notes settings keyed ran
    have ready : Aligned t b env .destroy
        (((s.keep t b).settleVariables t env).provideRole t).store :=
      alignedKept.settleVariables.provideRole
    rw [aligned.source, alignedKept.values, Bool.or_false,
      Session.converge_of_aligned settings ready] at notes
    refine ⟨?_, ready.changes notes apart⟩
    rw [notes.triggered fun e published => nomatch published.kind]
    simp

end Provisioner
