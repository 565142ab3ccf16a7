import Provisioner.Proofs.PassOutcomes

/-!
A pass over an active configuration, step by step, as equations like those for destroying: the
configuration is held, its source is rendered and kept, credentials and variables are settled, the
job is brought in line, and last the progress of the job is recorded.
-/

namespace Provisioner

open Reconcile
open Executor (Inputs Report)

variable {s : Session} {t : Target} {c : Configuration} {resolve : Resolver} {settings : Settings}

namespace Session

/-- Holds a configuration by the finalizer of this library. -/
def hold (s : Session) (t : Target) (c : Configuration) : Session :=
  if hasOwnFinalizer c then s else s.edit t.key withOwnFinalizer

/-- Notes that variables have changed. -/
def reload (s : Session) (t : Target) (differ : Bool) : Session :=
  if differ then
    s.edit t.key
      (withApplyStatus .reloading "Configuration's variable has changed, and starts reloading" ∅)
  else s

/-- Settles the variables and brings the job that applies a bundle in line. -/
def ready (s : Session) (settings : Settings) (t : Target) (b : Bundle)
    (env : Dict String String) : Session :=
  let differ := s.store.variablesDiffer t env
  (((s.settleVariables t env).reload t differ).provideRole t).converge settings t
    (.of t b.text env) differ .apply

theorem wellKeyed_hold (keyed : s.store.WellKeyed) (t : Target) (c : Configuration) :
    (s.hold t c).store.WellKeyed := by
  unfold hold
  split
  · exact keyed
  · exact wellKeyed_note keyed t.key note_withOwnFinalizer

theorem hold_of_own (own : hasOwnFinalizer c = true) : s.hold t c = s := by
  unfold hold
  rw [if_pos own]

theorem get?_hold {key : ObjectKey} (other : key ≠ t.key) :
    (s.hold t c).store.get? key = s.store.get? key := by
  unfold hold
  split
  · rfl
  · exact get?_edit_of_ne _ _ other

/-- Holding a configuration and keeping its source writes to nothing else. -/
theorem get?_heldAndKept {b : Bundle} {key : ObjectKey} (other : key ≠ t.key)
    (apart : key ≠ t.inputBundleKey) :
    ((s.hold t c).keep t b).store.get? key = s.store.get? key :=
  (get?_write_of_ne _ _ apart).trans (get?_hold other)

theorem get?_reload {key : ObjectKey} (other : key ≠ t.key) (differ : Bool) :
    (s.reload t differ).store.get? key = s.store.get? key := by
  unfold reload
  split
  · exact get?_edit_of_ne _ _ other
  · rfl

/-- Settling variables, noting that and providing the role writes to nothing else. -/
theorem get?_beforeJob {env : Dict String String} {key : ObjectKey} (role : key ≠ t.roleKey)
    (secret : key ≠ t.variableSecretKey) (other : key ≠ t.key) (differ : Bool) :
    (((s.settleVariables t env).reload t differ).provideRole t).store.get? key =
      s.store.get? key :=
  (get?_provide_of_ne _ _ role).trans
    ((get?_reload other differ).trans (get?_provide_of_ne _ _ secret))

theorem wellKeyed_reload (keyed : s.store.WellKeyed) (t : Target) (differ : Bool) :
    (s.reload t differ).store.WellKeyed := by
  unfold reload
  split
  · exact wellKeyed_note keyed t.key (note_withApplyStatus (by decide) _ _)
  · exact keyed

theorem wellKeyed_ready (keyed : s.store.WellKeyed) (settings : Settings) (t : Target) (b : Bundle)
    (env : Dict String String) : (s.ready settings t b env).store.WellKeyed := by
  refine wellKeyed_converge (wellKeyed_provideRole ?_ t) settings t _ _ .apply
  exact wellKeyed_reload (wellKeyed_settleVariables keyed t env) t _

end Session

namespace Reconcile

theorem on_authorize :
    (authorize resolve t c).on s =
      match resolveCredentials resolve c s.store with
      | .ok credentials => (.ok credentials, s)
      | .error e => (.error e, s.edit t.key (withApplyStatus .authorizing e.message ∅)) := by
  unfold authorize
  rw [Pass.on_tryCatch, Pass.on_ask]
  cases resolveCredentials resolve c s.store with
  | ok credentials => rfl
  | error e =>
    simp only
    rw [Pass.on_bind, on_setApplyStatus]
    rfl

theorem on_run (keyed : s.store.WellKeyed) (b : Bundle) :
    (run settings resolve t c b).on s =
      match resolveCredentials resolve c s.store with
      | .error e => (.error e, s.edit t.key (withApplyStatus .authorizing e.message ∅))
      | .ok credentials =>
        match environment c credentials with
        | .error e => (.error e, s)
        | .ok env =>
          (recordProgress t c ((s.ready settings t b env).store.report (t.jobKey .apply))).on
            (s.ready settings t b env) := by
  unfold run
  rw [Pass.on_bind, on_authorize]
  cases resolveCredentials resolve c s.store with
  | error e => rfl
  | ok credentials =>
    simp only
    rw [Pass.on_bind, on_syncVariables keyed]
    cases environment c credentials with
    | error e => rfl
    | ok env =>
      have settled := Session.wellKeyed_settleVariables keyed t env
      have rest : ∀ s' : Session, s'.store.WellKeyed → ∀ differ : Bool,
          (do
            Access.ensureRole (Names.clusterRole t.ns)
            convergeJob settings t (.of t b.text env) differ .apply
            recordProgress t c (← Pass.ask (jobReport (t.jobKey .apply)))).on s' =
          let s'' := (s'.provideRole t).converge settings t (.of t b.text env) differ .apply
          (recordProgress t c (s''.store.report (t.jobKey .apply))).on s'' := by
        intro s' keyed' differ
        have role := Session.wellKeyed_provideRole keyed' t
        have converged := Session.wellKeyed_converge role settings t (.of t b.text env) differ .apply
        rw [Pass.on_bind, on_ensureRole keyed']
        simp only
        rw [Pass.on_bind, on_convergeJob role.kinded]
        simp only
        rw [Pass.on_bind, Pass.on_ask, converged.jobReport]
      unfold Session.ready Session.reload
      dsimp only
      cases s.store.variablesDiffer t env with
      | true =>
        rw [if_pos rfl, Pass.on_bind, on_setApplyStatus]
        exact rest _ (Session.wellKeyed_note settled t.key (note_withApplyStatus (by decide) _ _)) true
      | false => exact rest _ settled false

theorem on_apply (keyed : s.store.WellKeyed) (placed : (Resource.wrap c).key? = some t.key) :
    (apply settings resolve t c).on s =
      match bundle t c with
      | .error (.invalid e) =>
        (.ok .done, (s.hold t c).edit t.key (withApplyStatus .staticCheckFailed e.message ∅))
      | .error e => (.error e, s.hold t c)
      | .ok b =>
        if (s.hold t c).store.bundleDiffers t b then
          (.ok (.after Outcome.delay),
            ((s.hold t c).keep t b).edit t.key
              (withApplyStatus .reloading "Configuration's HCL has changed, and starts reloading" ∅))
        else (run settings resolve t c b).on ((s.hold t c).keep t b) := by
  have held := Session.wellKeyed_hold keyed t c
  unfold apply apply.observing
  rw [Pass.on_bind, on_ensureFinalizer keyed placed]
  change Pass.on (tryCatchThe Error (Except.ok <$> renderInputs t c)
    (fun e => pure (Except.error e)) >>= _) (s.hold t c) = _
  rw [Pass.on_bind, Pass.on_tryCatch, Pass.on_map, on_renderInputs held]
  cases bundle t c with
  | error e =>
    cases e with
    | invalid e =>
      simp only [Except.map, Pass.on_pure]
      rw [Pass.on_bind, on_setApplyStatus]
      rfl
    | _ => rfl
  | ok b =>
    simp only [Except.map]
    split
    · rw [Pass.on_bind, on_setApplyStatus]
      rfl
    · rfl

end Reconcile

end Provisioner
