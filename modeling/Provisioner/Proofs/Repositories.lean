import Provisioner.Proofs.Debounce
import Provisioner.Proofs.Remit
import Provisioner.Proofs.VariableChanges

/-!
Whether a source is in a repository is decided twice. A specification is looked over for what has
content, and a target takes every repository that is named with at least a blank. So the two agree
unless a blank repository is named beside a source that is given inline. Where they agree just the
jobs of sources in repositories clone one, and just the sources that are given inline are looked
over for changes.
-/

namespace Provisioner

open Reconcile
open Provisioner.Configuration (Spec SourceType)
open Executor (Inputs)

variable {s s' s'' : Session} {t : Target} {c : Configuration} {settings : Settings}
  {resolve : Resolver} {spec : Spec} {type : SourceType} {e : Execution} {key : ObjectKey}

/-! ### The two decisions -/

/-- The repository that is named is blank, though not empty. -/
def Configuration.Spec.NamesBlank (spec : Spec) : Prop :=
  ∃ name, spec.remote = some name ∧ name ≠ "" ∧ Text.hasContent name = false

/-- A target is in a repository if the source is, and else if a blank one is named. -/
theorem Target.isSome_remote_iff (settings : Settings)
    (source : Terraform.sourceType c.spec = .ok type) :
    (Target.of settings c).remote.isSome ↔ type = .remote ∨ c.spec.NamesBlank := by
  have content : c.spec.remote.any Text.hasContent = true ↔ .remote = type :=
    Terraform.hasContent_iff_of_sourceType source .remote
  constructor
  · intro isSome
    obtain ⟨name, given, named⟩ : ∃ name, c.spec.remote = some name ∧ name ≠ "" := by
      simpa [Target.of, Option.any_eq_true] using isSome
    cases filled : Text.hasContent name with
    | false => exact .inr ⟨name, given, named, filled⟩
    | true =>
      rw [given] at content
      exact .inl (content.mp filled).symm
  · rintro (rfl | ⟨name, given, named, -⟩)
    · exact Target.isSome_remote settings source
    · simp [Target.of, given, named]

/-! ### Jobs -/

/-- The containers that a job runs first. -/
def Job.initContainers (j : Job) : List Container :=
  ((j.spec.bind (·.template.spec)).bind (·.initContainers)).getD []

/-- The job clones a repository before it runs. -/
def Job.Clones (j : Job) : Prop :=
  ∃ container ∈ j.initContainers, container.name = "git-configuration"

theorem Job.Clones.congr {j j' : Job} (same : j.spec = j'.spec) : j.Clones ↔ j'.Clones := by
  unfold Clones Job.initContainers
  rw [same]

theorem Executor.clones_job (settings : Settings) (t : Target) (i : Inputs) (e : Execution) :
    (job settings t i e).Clones ↔ i.remote.isSome := by
  have first : (job settings t i e).initContainers = initContainers settings t i := rfl
  unfold Job.Clones
  rw [first, initContainers]
  cases i.remote with
  | none => simp [prepareContainer, terraformContainer, container]
  | some remote => simp [cloneContainer, container]

/-- The jobs that are there afterwards under the keys of a target were there before, with the same
specification, or are made from inputs of the target. -/
def Session.Builds (settings : Settings) (t : Target) (s s' : Session) : Prop :=
  ∀ e j, s'.store.read Job (t.jobKey e) = some j →
    (∃ j', s.store.read Job (t.jobKey e) = some j' ∧ j.spec = j'.spec) ∨
      ∃ text env, j.spec = (Executor.job settings t (.of t text env) e).spec

namespace Session.Builds

theorem trans (first : Builds settings t s s') (second : Builds settings t s' s'') :
    Builds settings t s s'' := by
  intro e j held
  rcases second e j held with ⟨j', held', same⟩ | made
  · rcases first e j' held' with ⟨j₀, before, same'⟩ | ⟨text, env, made⟩
    · exact .inl ⟨j₀, before, same.trans same'⟩
    · exact .inr ⟨text, env, same.trans made⟩
  · exact .inr made

theorem of_get? (same : ∀ e, s'.store.get? (t.jobKey e) = s.store.get? (t.jobKey e)) :
    Builds settings t s s' := fun e j held =>
  .inl ⟨j, (Store.read_congr (same e)).symm.trans held, rfl⟩

theorem refl : Builds settings t s s := of_get? fun _ => rfl

theorem edit (s : Session) (f : Configuration → Configuration) :
    Builds settings t s (s.edit t.key f) := of_get? fun _ => get?_edit_of_ne _ _ (by nofun)

theorem spares (spares : SparesJobs t s s') : Builds settings t s s' := of_get? spares.get?_jobKey

/-- What waits to go keeps its specification. -/
theorem delete (s : Session) (key : ObjectKey) : Builds settings t s (s.delete key).2 := by
  intro e j held
  by_cases here : t.jobKey e = key
  · subst here
    have stored := Store.read_eq_some_iff.mp held
    rw [get?_delete_self] at stored
    obtain ⟨o, before, left⟩ := Option.bind_eq_some_iff.mp stored
    unfold remains at left
    split at left
    · cases o with
      | job j' =>
        cases left
        exact .inl ⟨j', Store.read_eq_some_iff.mpr before, rfl⟩
      | _ => cases left
    · cases left
  · exact .inl ⟨j, (Store.read_congr (get?_delete_of_ne s here)).symm.trans held, rfl⟩

theorem deleteAll (s : Session) (keys : List ObjectKey) :
    Builds settings t s (s.deleteAll keys) := by
  induction keys generalizing s with
  | nil => exact refl
  | cons key rest ih => exact (delete s key).trans (ih _)

/-- A job that is written is there as it is, or there was one already that is written alike. -/
theorem write (s : Session) (text : String) (env : Dict String String) (e : Execution) :
    Builds settings t s (s.write (t.jobKey e)
      (Resource.wrap (Executor.job settings t (.of t text env) e))) := by
  intro e' j held
  by_cases here : t.jobKey e' = t.jobKey e
  · have stored := Store.read_eq_some_iff.mp held
    cases (Target.jobName_injective (congrArg ObjectKey.name here)).2
    rw [get?_write_self] at stored
    rcases Object.stored_cases s.now _ (s.store.get? (t.jobKey e)) with
      ⟨p, before, stays, -⟩ | ⟨g, d, replaced⟩
    · rw [stays] at stored
      exact .inl ⟨j, Store.read_eq_some_iff.mpr (before.trans stored), rfl⟩
    · rw [replaced] at stored
      cases stored
      exact .inr ⟨text, env, rfl⟩
  · exact .inl ⟨j, (Store.read_congr (get?_write_of_ne s _ here)).symm.trans held, rfl⟩

theorem start (s : Session) (text : String) (env : Dict String String) (e : Execution) :
    Builds settings t s (s.start settings t (.of t text env) e) := by
  refine trans (of_get? fun _ => ?_) (write _ text env e)
  exact (get?_provide_of_ne _ _ (by nofun)).trans ((get?_provide_of_ne _ _ (by nofun)).trans
    (get?_write_of_ne _ _ (by nofun)))

theorem converge (s : Session) (text : String) (env : Dict String String) (changed : Bool)
    (e : Execution) : Builds settings t s (s.converge settings t (.of t text env) changed e) := by
  unfold Session.converge
  split
  · exact refl
  · exact ((delete s _).trans (delete _ _)).trans (start _ text env e)
  · exact start s text env e

theorem ready (s : Session) (b : Bundle) (env : Dict String String) :
    Builds settings t s (s.ready settings t b env) := by
  have reloaded (s : Session) (differ : Bool) : Builds settings t s (s.reload t differ) := by
    unfold Session.reload
    split
    · exact edit s _
    · exact refl
  have settled : Builds settings t s (s.settleVariables t env) :=
    of_get? fun _ => get?_provide_of_ne _ _ (by nofun)
  exact ((settled.trans (reloaded _ _)).trans (spares (.provideRole _ t))).trans
    (converge _ b.text env _ .apply)

theorem apply (keyed : s.store.WellKeyed) (placed : (Resource.wrap c).key? = some t.key) :
    Builds settings t s ((Reconcile.apply settings resolve t c).on s).2 := by
  rcases SparesJobs.apply_cases settings resolve keyed placed with
    spared | ⟨b, env, -, -, recorded⟩
  · exact spares spared
  · have kept : Builds settings t s ((s.hold t c).keep t b) :=
      spares ((SparesJobs.hold s t c).trans (SparesJobs.keep _ t b))
    exact (kept.trans (ready _ b env)).trans (spares recorded)

theorem destroyResources (keyed : s.store.WellKeyed) :
    Builds settings t s ((Reconcile.destroyResources settings resolve t c).on s).2 := by
  have kept (b : Bundle) : Builds settings t s (s.keep t b) := spares (.keep s t b)
  rcases prepare_cases resolve keyed (t := t) (c := c) with
    ⟨e, ran⟩ | ⟨b, -, ⟨e, ran⟩ | ⟨env, -, ran⟩⟩
  · rw [destroyResources_of_error settings keyed ran]
    exact edit _ _
  · rw [destroyResources_of_error settings keyed ran]
    exact (kept b).trans (edit _ _)
  · have notes := destroyResources_notes settings keyed ran
    have spared : SparesJobs t _ ((Reconcile.destroyResources settings resolve t c).on s).2 :=
      .of_changes notes fun _ published job => nomatch published.kind.symm.trans job
    refine trans ((kept b).trans (of_get? fun e => get?_job_beforeConverge env e)) ?_
    exact (converge _ b.text env _ .destroy).trans (spares spared)

theorem letGo (s : Session) : Builds settings t s (s.letGo t c) :=
  (((edit s _).trans (deleteAll _ _)).trans (edit _ _)).trans (delete _ _)

/-- All jobs that a pass over a configuration makes are made from inputs of its target. -/
theorem configurationPass {request : Request} (keyed : s.store.WellKeyed)
    (held : s.store.read Configuration (request.key .configuration) = some c)
    (target : Target.of settings c = t) :
    Builds settings t s ((Reconcile.configurationPass settings resolve request).on s).2 := by
  have placed : (Resource.wrap c).key? = some t.key := by
    rw [← target, Target.key_of (keyed.placed held), keyed.placed held]
  cases lifecycle : c.metadata.lifecycle with
  | active =>
    rw [on_activePass keyed held lifecycle, target]
    exact apply keyed placed
  | terminating =>
    have destroyed : Builds settings t s
        ((Reconcile.destroyResources settings resolve t c).on s).2 := destroyResources keyed
    rw [on_terminatingPass keyed held lifecycle, target, on_destroy keyed]
    split
    · exact refl
    · split
      · rcases ran : (Reconcile.destroyResources settings resolve t c).on s with ⟨e | _, s₁⟩ <;>
          rw [ran] at destroyed
        · exact destroyed
        · exact destroyed.trans (letGo s₁)
      · exact letGo s

end Session.Builds

/-- The two notions of a source in a repository. A target is in one if its source is, and else if a
blank repository is named. Where no blank one is named they are the same, and then the jobs of a
configuration clone a repository just if its source is in one, those that are desired and those
that its passes make, and another text in the place of its source counts as a change just if its
source is given inline. -/
theorem one_notion_of_remote (settings : Settings) (c : Configuration) (type : SourceType)
    (accepted : Terraform.validate c.spec = .ok type) :
    let t := Target.of settings c
    (t.remote.isSome ↔ type = .remote ∨ c.spec.NamesBlank) ∧
    (¬ c.spec.NamesBlank →
      (t.remote.isSome ↔ type = .remote) ∧
      (∀ text env e, (Executor.job settings t (.of t text env) e).Clones ↔ type = .remote) ∧
      ∀ s : Session, s.store.WellKeyed →
        (∃ text differs, Terraform.render c.spec type t.name t.stateNs = .ok text ∧
          ((renderInputs t c).on s).1 = .ok (⟨type, text⟩, differs) ∧
          (differs = true ↔ type ≠ .remote ∧ s.store.KeepsOther t ⟨type, text⟩)) ∧
        ∀ resolve request, s.store.get? (request.key .configuration) = some (.configuration c) →
          ∀ e j, ((configurationPass settings resolve request).on s).2.store.get? (t.jobKey e) =
              some (.job j) →
            (∃ j', s.store.get? (t.jobKey e) = some (.job j') ∧ j.spec = j'.spec) ∨
              (j.Clones ↔ type = .remote)) := by
  intro t
  have named := Target.isSome_remote_iff settings (Terraform.sourceType_of_validate accepted)
  refine ⟨named, fun unblank => ?_⟩
  have same : t.remote.isSome ↔ type = .remote := named.trans (or_iff_left unblank)
  have clones (text : String) (env : Dict String String) (e : Execution) :
      (Executor.job settings t (.of t text env) e).Clones ↔ type = .remote :=
    (Executor.clones_job settings t _ e).trans same
  refine ⟨same, clones, fun s keyed => ⟨?_, fun resolve request held e j left => ?_⟩⟩
  · obtain ⟨text, rendered, bundled⟩ := bundle_of_validate accepted t
    refine ⟨text, s.store.bundleDiffers t ⟨type, text⟩, rendered, ?_, ?_⟩
    · rw [on_renderInputs keyed, bundled]
    · rw [Store.bundleDiffers_iff, ne_eq, ← same, Option.not_isSome_iff_eq_none]
  · have builds : Session.Builds settings t s
        ((configurationPass settings resolve request).on s).2 :=
      .configurationPass keyed (Store.read_eq_some_iff.mpr held) rfl
    rcases builds e j (Store.read_eq_some_iff.mpr left) with ⟨j', before, spec⟩ | ⟨text, env, spec⟩
    · exact .inl ⟨j', Store.read_eq_some_iff.mp before, spec⟩
    · exact .inr ((Job.Clones.congr spec).trans (clones text env e))

/-- A configuration with its source inline, and one with its source in a repository. -/
theorem one_notion_of_remote_sample :
    let cloned := Sample.located "https://git.example.com/infra" "network"
    (Terraform.validate Sample.configuration.spec = .ok .hcl ∧
      ¬ Sample.configuration.spec.NamesBlank ∧
      (Sample.reloading Sample.configuration "main.tf.json").store.WellKeyed ∧
      ∃ j, (Sample.reloaded Sample.configuration "main.tf.json").2.store.get?
          (Sample.webTarget.jobKey .apply) = some (.job j) ∧ ¬ j.Clones) ∧
    Terraform.validate cloned.spec = .ok .remote ∧ ¬ cloned.spec.NamesBlank ∧
    ∀ text env e, (Executor.job {} (.of {} cloned) (.of (.of {} cloned) text env) e).Clones := by
  intro cloned
  have inline : Terraform.validate Sample.configuration.spec = .ok .hcl := rfl
  have unblank : ¬ Sample.configuration.spec.NamesBlank := by
    rintro ⟨name, given, -⟩
    cases given
  have keyed : (Sample.reloading Sample.configuration "main.tf.json").store.WellKeyed :=
    Sample.wellKeyed_reloading rfl
  have remote : Terraform.validate cloned.spec = .ok .remote :=
    eq_ok_of_toOption (by decide +kernel)
  have unblank' : ¬ cloned.spec.NamesBlank := by
    rintro ⟨name, given, -, blank⟩
    cases given
    exact absurd blank (by decide +kernel)
  have made : ((Sample.reloaded Sample.configuration "main.tf.json").2.store.read Job
      (Sample.webTarget.jobKey .apply)).isSome := by decide +kernel
  obtain ⟨j, found⟩ := Option.isSome_iff_exists.mp made
  have left := Store.read_eq_some_iff.mp found
  refine ⟨⟨inline, unblank, keyed, j, left, fun clones => ?_⟩, remote, unblank',
    fun text env e => ?_⟩
  · obtain ⟨-, -, passes⟩ := (one_notion_of_remote {} Sample.configuration .hcl inline).2 unblank
    rcases (passes _ keyed).2 Provider.resolve Sample.request Sample.get?_reloading .apply j left
      with ⟨j', before, -⟩ | same
    · cases before
    · cases same.mp clones
  · exact (((one_notion_of_remote {} cloned .remote remote).2 unblank').2.1 text env e).mpr rfl

/-- Where a blank repository is named beside a source that is given inline, the job clones it, and
the source is not looked over for changes. -/
theorem blank_repository_cloned :
    Terraform.validate Sample.blank.spec = .ok .hcl ∧
    (Target.of {} Sample.blank).remote = some " " ∧
    (∀ text env e, (Executor.job {} (.of {} Sample.blank)
      (.of (.of {} Sample.blank) text env) e).Clones) ∧
    (Sample.reloading Sample.blank "main.tf").store.KeepsOther (.of {} Sample.blank)
      Sample.webBundle ∧
    ((renderInputs (.of {} Sample.blank) Sample.blank).on
      (Sample.reloading Sample.blank "main.tf")).1 = .ok (Sample.webBundle, false) :=
  ⟨rfl, rfl, fun text env e => (Executor.clones_job _ _ _ e).mpr rfl,
    ⟨_, _, _, rfl, rfl, rfl, by decide⟩, rfl⟩

end Provisioner
