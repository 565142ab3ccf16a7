import Provisioner.Proofs.History
import Provisioner.Proofs.Notices

/-!
Passes over a configuration that waits to go, and what they say of it. A pass that leaves the stored
configuration as it found it says nothing, with one exception: where the destroy job has failed the
pass notes that the job is at work before it looks, and then that it has failed, and each note is
told. So a failed destroy job makes every pass call for the next ones.
-/

namespace Provisioner

open Reconcile
open Executor (Inputs Progress Report)

variable {s s' : Session} {t : Target} {c c' : Configuration} {key : ObjectKey}
  {settings : Settings} {resolve : Resolver} {request : Request}

/-- Whether a pass over a configuration has to destroy its cloud resources before it can go. -/
def Store.mustDestroy (s : Store) (settings : Settings) (c : Configuration) : Bool :=
  hasOwnFinalizer c && ((Target.of settings c).deleteResource && !s.deletable c)

namespace Session

/-- How far the destroy job of a configuration has come once it is in line with its inputs; none if
they cannot be prepared. -/
def destroyReport (s : Session) (settings : Settings) (resolve : Resolver) (c : Configuration) :
    Option Report :=
  let t := Target.of settings c
  match (prepare resolve t c).on s with
  | (.ok (i, changed), s') =>
    some ((s'.converge settings t i changed .destroy).store.report (t.jobKey .destroy))
  | _ => none

/-- Whether a pass over a configuration that waits to go finds that its destroy job has failed. -/
def fails (s : Session) (settings : Settings) (resolve : Resolver) (c : Configuration) : Bool :=
  s.store.mustDestroy settings c &&
    (s.destroyReport settings resolve c).any (·.progress.failureState.isSome)

/-! ### Notes on a configuration -/

theorem announcement_edit (f : Configuration → Configuration) (k : ObjectKey) :
    (s.edit key f).store.announcement k = s.store.announcement k :=
  Store.announcement_congr (writes_edit s key f).listeners k

/-- Two notes that do not tell the same are both announced if the configuration is in the end what
it was. -/
theorem sent_edit_edit {f g : Configuration → Configuration} (gentleF : Gentle f)
    (gentleG : Gentle g) (specF : ∀ c, (f c).spec = c.spec) (specG : ∀ c, (g c).spec = c.spec)
    (apart : ∀ c c', (f c).destroyState ≠ (g c').destroyState)
    (held : s.store.read Configuration key = some c)
    (same : ((s.edit key f).edit key g).store.get? key = s.store.get? key) :
    ((s.edit key f).edit key g).sent =
      s.sent ++ (s.store.announcement key ++ s.store.announcement key) := by
  obtain ⟨c₁, first, -, -, -, status₁⟩ := Configuration.read_edit gentleF (specF c) held
  obtain ⟨c₂, second, -, -, -, status₂⟩ := Configuration.read_edit gentleG (specG c₁) first
  have final : c₂ = c := by
    have stored := (Store.read_congr (τ := Configuration) same).symm.trans second
    exact Option.some.inj (stored.symm.trans held)
  have other : c₁ ≠ c := by
    rintro rfl
    refine apart c₁ c₁ ?_
    unfold Configuration.destroyState
    rw [← status₁, ← status₂, final]
  have changed : ∀ {s s' : Session} {c c' : Configuration},
      s.store.read Configuration key = some c → s'.store.read Configuration key = some c' → c' ≠ c →
      s'.store.get? key ≠ s.store.get? key := by
    intro s s' c c' before after differ stays
    rw [Store.read_congr stays, before] at after
    exact differ (Option.some.inj after).symm
  have one := (writes_edit s key f).sent_of_changed (changed held first other)
  have two := (writes_edit (s.edit key f) key g).sent_of_changed
    (changed first second (final ▸ other.symm))
  rw [two, one, announcement_edit, List.append_assoc]

/-- Where its generation is told, an edit leaves the configuration just as edited. -/
theorem read_edit_told {f : Configuration → Configuration} (gentle : Gentle f)
    (spec : (f c).spec = c.spec) (told : c.metadata.generation.isSome)
    (held : s.store.read Configuration key = some c) :
    (s.edit key f).store.read Configuration key = some (f c) := by
  obtain ⟨g, generation⟩ := Option.isSome_iff_exists.mp told
  have edited : (f c).metadata.generation = some g := by
    rw [show (f c).metadata = _ from gentle.metadata c]
    exact generation
  obtain ⟨c', found, metadata', -, spec', status'⟩ := Configuration.read_edit gentle spec held
  have same : c'.metadata.generation = (f c).metadata.generation := by
    rw [edited]
    rcases edit_cases gentle held with ⟨stays, -⟩ | replaced
    · rw [stays, held] at found
      cases found
      exact generation
    · have stored := get?_put s key key (Resource.wrap (f c)).counted
      rw [← replaced, if_pos rfl] at stored
      have counted : (Resource.wrap (f c)).counted = Resource.wrap c' :=
        Option.some.inj (stored.symm.trans (Store.read_eq_some_iff.mp found))
      have counted : (f c).counted = c' := Object.configuration.inj counted
      rw [← counted]
      change some ((f c).metadata.generation.getD 1) = some g
      rw [edited]
      rfl
  rw [same] at metadata'
  have whole : c' = f c := by
    obtain ⟨m, sp, st⟩ := c'
    simp only at metadata' spec' status'
    rw [metadata', spec', status', ← spec]
  rw [found, whole]

/-- Where a failed destroy job is already told of, noting it anew leaves the configuration as it
was, though it is noted in between that the job is at work. -/
theorem get?_edit_edit {f g : Configuration → Configuration} (gentleF : Gentle f)
    (gentleG : Gentle g) (specF : ∀ c, (f c).spec = c.spec) (specG : ∀ c, (g c).spec = c.spec)
    (told : c.metadata.generation.isSome) (back : g (f c) = c)
    (held : s.store.read Configuration key = some c) :
    ((s.edit key f).edit key g).store.get? key = s.store.get? key := by
  have first := read_edit_told gentleF (specF c) told held
  have told' : (f c).metadata.generation.isSome := by
    rw [show (f c).metadata = _ from gentleF.metadata c]
    exact told
  have second := read_edit_told gentleG (specG (f c)) told' first
  rw [back] at second
  rw [Store.read_eq_some_iff.mp second, Store.read_eq_some_iff.mp held]

/-- Letting a configuration go does not leave it as it was. -/
theorem letGo_changes {c₀ : Configuration} (own : hasOwnFinalizer c = true)
    (before : s.store.read Configuration t.key = some c)
    (held : s'.store.read Configuration t.key = some c₀) :
    (s'.letGo t c).store.get? t.key ≠ s.store.get? t.key := by
  rw [Store.read_eq_some_iff.mp before]
  intro same
  rcases letGo_cases (c := c) held with ⟨-, gone⟩ | ⟨-, c', left, free, -⟩
  · exact absurd (gone.symm.trans same) nofun
  · cases left.symm.trans same
    rw [own] at free
    cases free

end Session

namespace Store

theorem report_congr {s s' : Store} (same : s'.get? key = s.get? key) :
    s'.report key = s.report key := by
  unfold report
  rw [read_congr same]

end Store

/-- Convergence leaves what is reported of a job, or the job has just been started. -/
theorem Session.report_converge (s : Session) (settings : Settings) (t : Target)
    (i : Inputs) (changed : Bool) (e : Execution) :
    (s.converge settings t i changed e).store.report (t.jobKey e) = s.store.report (t.jobKey e) ∨
    ((s.converge settings t i changed e).store.report (t.jobKey e)).progress = .provisioning := by
  rcases converge_cases s settings t i changed e with ⟨-, stays⟩ | ⟨j, found, new, -⟩
  · rw [stays]
    exact .inl rfl
  · refine .inr ?_
    unfold Store.report Executor.report
    simp only [found, new]

namespace Reconcile

/-! ### Passes -/

/-- What preparing and converging leave: the configuration as it was, of which nothing was said. -/
theorem converged_configuration (settings : Settings) (resolve : Resolver)
    (keyed : s.store.WellKeyed)
    (i : Inputs) (changed : Bool) :
    let s' := ((prepare resolve t c).on s).2.converge settings t i changed .destroy
    s.Quiet .configuration s' ∧ s'.store.get? t.key = s.store.get? t.key := by
  have prepared : ((prepare resolve t c).on s).2.store.get? t.key = s.store.get? t.key :=
    get?_prepare resolve keyed nofun nofun nofun
  have quiet := (quiet_prepare (t := t) (c := c) resolve keyed).trans
    (Session.quiet_converge settings i changed .destroy (t := t))
  have kinds : Kind.configuration ≠ .job ∧ Kind.configuration ≠ .serviceAccount ∧
      Kind.configuration ≠ .clusterRoleBinding := by decide
  refine ⟨quiet, ?_⟩
  rw [Session.get?_converge settings i changed kinds (by nofun), prepared]

/-- The note that the destroy job is at work. -/
def withDestroying : Configuration → Configuration :=
  withDestroyStatus .destroying "Cloud resources are being destroyed..."

theorem note_withDestroying : Note withDestroying := note_withDestroyStatus _ _

/-- All that destroying can come to, as far as the configuration is concerned: nothing; or it is let
go; or one thing is noted, which is that its inputs cannot be prepared or that the job is at work;
or the destroy job has failed, which is noted after the job was noted to be at work. -/
inductive Outcomes (settings : Settings) (resolve : Resolver) (t : Target) (c : Configuration)
    (s : Session) : Session → Prop
  | free (own : hasOwnFinalizer c = false) : Outcomes settings resolve t c s s
  | letGo {s' : Session} {c₀ : Configuration} (own : hasOwnFinalizer c = true)
    (held : s'.store.read Configuration t.key = some c₀)
    (done : s.store.mustDestroy settings c = true →
      ∃ r, s.destroyReport settings resolve c = some r ∧ r.progress = .succeeded) :
    Outcomes settings resolve t c s (s'.letGo t c)
  | refused {s' : Session} {e : Error} (pending : s.store.mustDestroy settings c = true)
    (answered : ((prepare resolve t c).on s).1 = .error e)
    (unknown : s.destroyReport settings resolve c = none) (quiet : s.Quiet .configuration s')
    (kept : ∀ key, key.kind ≠ .configMap → s'.store.get? key = s.store.get? key) :
    Outcomes settings resolve t c s (s'.edit t.key (withDestroyStatus .destroyFailed e.message))
  | running {s' : Session} {r : Report} (pending : s.store.mustDestroy settings c = true)
    (found : s.destroyReport settings resolve c = some r) (working : r.progress = .provisioning)
    (quiet : s.Quiet .configuration s') (kept : s'.store.get? t.key = s.store.get? t.key)
    (report : s'.store.report (t.jobKey .destroy) = r) :
    Outcomes settings resolve t c s (s'.edit t.key withDestroying)
  | failed {s' : Session} {r : Report} (pending : s.store.mustDestroy settings c = true)
    (found : s.destroyReport settings resolve c = some r) (bad : r.progress.failureState.isSome)
    (quiet : s.Quiet .configuration s') (kept : s'.store.get? t.key = s.store.get? t.key)
    (report : s'.store.report (t.jobKey .destroy) = r)
    (before : s.store.report (t.jobKey .destroy) = r) :
    Outcomes settings resolve t c s
      ((s'.edit t.key withDestroying).edit t.key (withDestroyStatus .destroyFailed r.message))

/-- Where the inputs of a destroy job cannot be prepared, nothing but the kept source is written. -/
theorem get?_prepare_of_error {e : Error} {s₁ : Session} (resolve : Resolver)
    (keyed : s.store.WellKeyed) (ran : (prepare resolve t c).on s = (.error e, s₁))
    (other : key.kind ≠ .configMap) : s₁.store.get? key = s.store.get? key := by
  have apart : key ≠ t.inputBundleKey := fun here => other (here ▸ rfl)
  rcases prepare_cases resolve keyed (t := t) (c := c) with
    ⟨e', ran'⟩ | ⟨b, -, ⟨e', ran'⟩ | ⟨env, -, ran'⟩⟩ <;> cases ran.symm.trans ran'
  · rfl
  · exact Session.get?_write_of_ne _ _ apart

theorem destroy_outcomes (settings : Settings) (resolve : Resolver) (keyed : s.store.WellKeyed)
    (target : Target.of settings c = t) (held : s.store.read Configuration t.key = some c) :
    Outcomes settings resolve t c s ((destroy settings resolve t c).on s).2 := by
  rw [on_destroy keyed]
  cases own : hasOwnFinalizer c with
  | false => exact .free own
  | true =>
    simp only [Bool.not_true, Bool.false_eq_true, if_false]
    have must : s.store.mustDestroy settings c = (t.deleteResource && !s.store.deletable c) := by
      unfold Store.mustDestroy
      rw [target, own]
      rfl
    cases pending : t.deleteResource && !s.store.deletable c with
    | false =>
      rw [pending] at must
      exact .letGo own held fun pending => by rw [must] at pending; cases pending
    | true =>
      rw [pending] at must
      have changes : Changes t (t.Touches c) s ((prepare resolve t c).on s).2 :=
        within_prepare s keyed
      have prepared := changes.wellKeyed keyed
      have jobs : ((prepare resolve t c).on s).2.store.get? (t.jobKey .destroy) =
          s.store.get? (t.jobKey .destroy) := get?_prepare resolve keyed nofun nofun nofun
      have said := quiet_prepare (t := t) (c := c) resolve keyed
      have converged := converged_configuration (t := t) (c := c) settings resolve keyed
      have reported : s.destroyReport settings resolve c = match (prepare resolve t c).on s with
          | (.ok (i, changed), s') =>
            some ((s'.converge settings t i changed .destroy).store.report (t.jobKey .destroy))
          | _ => none := by
        rw [← target]
        rfl
      simp only [if_true]
      rw [on_destroyResources keyed]
      rcases ran : (prepare resolve t c).on s with ⟨e | ⟨i, changed⟩, s₁⟩ <;>
        rw [ran] at prepared jobs said converged reported
      · exact .refused must (by rw [ran]) reported said fun _ =>
          get?_prepare_of_error resolve keyed ran
      · obtain ⟨quiet, kept⟩ := converged i changed
        have job : t.jobKey .destroy ≠ t.key := nofun
        have noted := note_withDestroying.read_edit ((Store.read_congr kept).trans held)
        have stays := Session.report_converge s₁ settings t i changed .destroy
        rw [Store.report_congr jobs] at stays
        simp only at reported
        simp only [Store.report_congr (Session.get?_edit_of_ne _ _ job)]
        generalize report : (s₁.converge settings t i changed .destroy).store.report
          (t.jobKey .destroy) = r at stays reported ⊢
        obtain ⟨progress, message⟩ := r
        cases progress with
        | succeeded =>
          obtain ⟨c₁, found, -⟩ := noted
          exact .letGo own found fun _ => ⟨_, reported, rfl⟩
        | provisioning => exact .running must reported rfl quiet kept report
        | initError | applyError | invalidRegion =>
          refine .failed must reported rfl quiet kept report ?_
          rcases stays with same | provisioning
          · exact same.symm
          · cases provisioning

/-- A note that leaves the configuration as it was is told to nobody. -/
theorem told_noted {state : Configuration.State} {message : String}
    (held : s.store.read Configuration t.key = some c) (quiet : s.Quiet .configuration s')
    (kept : s'.store.get? t.key = s.store.get? t.key)
    (same : (s'.edit t.key (withDestroyStatus state message)).store.get? t.key =
      s.store.get? t.key) :
    (s'.edit t.key (withDestroyStatus state message)).told .configuration =
      s.told .configuration := by
  have held' := (Store.read_congr (τ := Configuration) kept).trans held
  rw [Session.edit_of_same (note_withDestroyStatus _ _).gentle held' (same.trans kept.symm),
    quiet.told]

/-- Destroying says nothing of a configuration that is left as it was found, or the destroy job has
failed and two notices are told. -/
theorem told_destroy (keyed : s.store.WellKeyed) (target : Target.of settings c = t)
    (held : s.store.read Configuration t.key = some c)
    (same : ((destroy settings resolve t c).on s).2.store.get? t.key = s.store.get? t.key) :
    ((destroy settings resolve t c).on s).2.told .configuration =
      s.told .configuration ++
        if s.fails settings resolve c then
          s.store.announcement t.key ++ s.store.announcement t.key
        else [] := by
  have outcome := destroy_outcomes settings resolve keyed target held
  generalize ((destroy settings resolve t c).on s).2 = s' at outcome same ⊢
  cases outcome with
  | free own => simp [Session.fails, Store.mustDestroy, own]
  | letGo own held' => exact absurd same (Session.letGo_changes own held held')
  | refused pending answered unknown quiet kept =>
    rw [told_noted held quiet (kept _ (by nofun)) same]
    simp [Session.fails, unknown]
  | running pending found working quiet kept report =>
    rw [withDestroying, told_noted held quiet kept same]
    simp [Session.fails, found, working, Progress.failureState]
  | @failed s₁ r pending found bad quiet kept report before =>
    have failed : s.fails settings resolve c = true := by simp [Session.fails, pending, found, bad]
    have held₁ := (Store.read_congr (τ := Configuration) kept).trans held
    have differ : ∀ c c' : Configuration, (withDestroying c).destroyState ≠
        (withDestroyStatus .destroyFailed r.message c').destroyState := by
      intro c c'
      simp [withDestroying, withDestroyStatus, Configuration.destroyState]
    have sent := Session.sent_edit_edit note_withDestroying.gentle
      (note_withDestroyStatus _ _).gentle (fun _ => rfl) (fun _ => rfl) differ held₁
      (same.trans kept.symm)
    rw [Store.announcement_congr quiet.listeners] at sent
    rw [failed, if_pos rfl, Session.told_append sent, quiet.told]
    intro n listed
    have here : n ∈ s.store.announcement t.key := (List.mem_append.mp listed).elim id id
    rw [Session.key_of_announcement here]
    rfl

end Reconcile

end Provisioner
