import Provisioner.Proofs.FixedPoint
import Provisioner.Proofs.Retention

/-!
A configuration that a pass has found available stays available. Such a pass saw its job succeed, so
it found nothing new in its inputs and left the job alone; apart from its own status it wrote only
the secret that the configuration asks for its outputs in. As long as that is none of the secrets
that passes read, the next pass sees the same inputs, the same job and the same state, and publishes
the same outputs. The labels of a secret keep a configuration from publishing in what belongs to
another one, but not from publishing in what is generated for itself.
-/

namespace Provisioner

open Reconcile
open Executor (Inputs Report)

variable {s s' : Session} {t : Target} {c c₁ c' : Configuration} {b : Bundle}
  {env credentials outputs : Dict String String} {settings : Settings}
  {request : Request} {key : ObjectKey}

/-- The keys of the secrets that a pass over an active configuration reads: of its variables, its
state and its credentials. -/
def Store.readSecrets (s : Store) (t : Target) (c : Configuration) : List ObjectKey :=
  [t.variableSecretKey, t.stateSecretKey] ++ (s.credentialKey? c).toList

theorem Store.kind_of_readSecrets {s : Store} (listed : key ∈ s.readSecrets t c) :
    key.kind = .secret := by
  unfold Store.readSecrets at listed
  simp only [List.cons_append, List.nil_append, List.mem_cons, Option.mem_toList] at listed
  rcases listed with rfl | rfl | kept
  · rfl
  · rfl
  · exact Store.kind_of_credentialKey kept

/-! ### What is there, and what is published -/

namespace Session

/-- What is there already is not provided. -/
theorem get?_settleVariables_of_isSome (env : Dict String String)
    (there : (s.store.get? key).isSome) :
    (s.settleVariables t env).store.get? key = s.store.get? key :=
  get?_provide_of_isSome _ there

theorem get?_provideRole_of_isSome (there : (s.store.get? key).isSome) :
    (s.provideRole t).store.get? key = s.store.get? key :=
  get?_provide_of_isSome _ there

/-- What has been published is what the secret reads as. Its labels tell its owner if there was none
before, and else are those that it had. -/
theorem read_publish (s : Session) (t : Target) (ns name : String) (outputs : Dict String String) :
    ∃ secret, (s.publish t ns name outputs).store.read Secret ⟨.secret, ns, name⟩ = some secret ∧
      secret.texts = outputs ∧
      secret.metadata.labels =
        match s.store.read Secret ⟨.secret, ns, name⟩ with
        | none => some t.labels
        | some before => before.metadata.labels := by
  have written (secret : Secret) (empty : secret.data = none)
      (texts : secret.stringData = some outputs) :
      ∃ secret', (s.write ⟨.secret, ns, name⟩ (Resource.wrap secret)).store.read Secret
        ⟨.secret, ns, name⟩ = some secret' ∧ secret'.texts = outputs ∧
        secret'.metadata.labels = secret.metadata.labels := by
    obtain ⟨secret', found, g, c, d, alike⟩ :=
      s.read_write secret (rfl : (⟨.secret, ns, name⟩ : ObjectKey).kind = .secret)
    have labels := Object.labels_of_same alike
    rw [Object.metadata_timed] at labels
    refine ⟨secret', found, ?_, labels.symm⟩
    exact Secret.texts_of_stringData (Secret.data_none_of_same alike empty)
      ((Secret.stringData_of_same alike).symm.trans texts)
  unfold publish
  cases s.store.read Secret ⟨.secret, ns, name⟩ with
  | none => exact written (Secret.ofTexts ns name outputs (some t.labels)) rfl rfl
  | some before => exact written (Outputs.refreshed before outputs) rfl rfl

end Session

/-! ### What an available configuration tells of the pass -/

namespace Reconcile

/-- A pass is done only if what it did answered so. -/
theorem done_of_answer {answered : Except Error Outcome} (done : answer answered = .ok .done) :
    answered = .ok .done := by
  cases answered with
  | ok outcome => exact done
  | error e =>
    unfold answer at done
    cases pending : e.isPending <;> simp only [pending] at done <;> cases done

theorem recordProgress_of_succeeded {r : Report} (succeeded : r.progress = .succeeded) :
    recordProgress t c r = recordSuccess t c := by
  obtain ⟨progress, message⟩ := r
  cases succeeded
  rfl

/-- Progress that is recorded as available is that the job succeeded and there are outputs. -/
theorem succeeded_of_recorded {r : Report} (keyed : s.store.WellKeyed)
    (held : s.store.read Configuration t.key = some c₁)
    (done : ((recordProgress t c r).on s).1 = .ok .done)
    (left : ((recordProgress t c r).on s).2.store.read Configuration t.key = some c')
    (available : c'.applyState = some .available) :
    r.progress = .succeeded ∧ ∃ outputs, ((Outputs.generate c t).on s).1 = .ok outputs := by
  obtain ⟨progress, message⟩ := r
  cases failure : progress.failureState with
  | some state =>
    obtain ⟨c₂, found, noted, -⟩ := Session.read_noted state message ∅ held
    rw [on_recordFailure failure, found] at left
    cases left
    cases noted.symm.trans available
    cases progress <;> cases failure
  | none =>
    cases progress with
    | initError | applyError | invalidRegion => cases failure
    | provisioning =>
      have running : (recordProgress t c ⟨.provisioning, message⟩).on s = (recordRunning t).on s :=
        rfl
      rw [running, on_recordRunning keyed] at done
      cases done
    | succeeded =>
      rw [recordProgress_of_succeeded rfl, on_recordSuccess] at done
      cases generated : ((Outputs.generate c t).on s).1 with
      | ok outputs => exact ⟨rfl, outputs, rfl⟩
      | error e =>
        rw [generated] at done
        cases done

end Reconcile

/-- A job that succeeded is not new, so nothing differed from what it was started for. -/
theorem Session.ready_of_succeeded (source : s.store.bundleDiffers t b = false)
    (succeeded : ((s.ready settings t b env).store.report (t.jobKey .apply)).progress =
      .succeeded) :
    s.ready settings t b env = (s.settleVariables t env).provideRole t := by
  unfold ready at succeeded ⊢
  dsimp only at succeeded ⊢
  generalize s.store.variablesDiffer t env = differ at succeeded ⊢
  rcases converge_outcome settings env ((bundleDiffers_beforeJob differ).trans source)
    differ with ⟨planned, stays⟩ | ⟨-, -, j, found, new⟩
  · obtain ⟨rfl, -⟩ := (plan_unchanged_iff settings t _ _ _).mp planned
    exact stays
  · unfold Store.report at succeeded
    rw [found] at succeeded
    obtain ⟨status, -, held, -⟩ := succeeded_of_report succeeded
    cases new.symm.trans held

/-- Variables that differ from those asked for have the job started again. -/
theorem Session.ready_of_differ (settings : Settings)
    (source : s.store.bundleDiffers t b = false) (differ : s.store.variablesDiffer t env = true) :
    (s.ready settings t b env).triggered = s.triggered ++ [t.jobKey .apply] ∧
    ∃ j, (s.ready settings t b env).store.read Job (t.jobKey .apply) = some j ∧
      j.status = none := by
  unfold ready
  dsimp only
  rw [differ]
  rcases converge_outcome settings env ((bundleDiffers_beforeJob true).trans source) true with
    ⟨planned, -⟩ | ⟨handed, -, started⟩
  · cases ((plan_unchanged_iff settings t _ _ _).mp planned).1
  · refine ⟨?_, started⟩
    rw [handed]
    simp

/-- What a run meets that finds its job succeeded and its outputs there: it only has to provide what
may be missing, and publishes. -/
structure Session.Succeeds (settings : Settings) (t : Target) (c : Configuration) (b : Bundle)
    (credentials env outputs : Dict String String) (s : Session) : Prop where
  resolved : resolveCredentials Provider.resolve c s.store = .ok credentials
  settled : environment c credentials = .ok env
  ready : s.ready settings t b env = (s.settleVariables t env).provideRole t
  reported : ((s.ready settings t b env).store.report (t.jobKey .apply)).progress = .succeeded
  generated : ((Outputs.generate c t).on (s.ready settings t b env)).1 = .ok outputs

namespace Session.Succeeds

/-- A run that leaves its configuration available has met all that. -/
theorem of_run (keyed : s.store.WellKeyed) (source : s.store.bundleDiffers t b = false)
    (held : s.store.read Configuration t.key = some c₁)
    (done : ((run settings Provider.resolve t c b).on s).1 = .ok .done)
    (left : ((run settings Provider.resolve t c b).on s).2.store.read Configuration t.key = some c')
    (available : c'.applyState = some .available) :
    ∃ credentials env outputs, s.Succeeds settings t c b credentials env outputs := by
  rw [on_run keyed] at done left
  cases resolved : resolveCredentials Provider.resolve c s.store with
  | error e =>
    rw [resolved] at done
    cases done
  | ok credentials =>
    cases settled : environment c credentials with
    | error e =>
      simp only [resolved, settled] at done
      cases done
    | ok env =>
      simp only [resolved, settled] at done left
      have ready := Session.wellKeyed_ready keyed settings t b env
      obtain ⟨c₂, held₂, -⟩ := Session.read_ready (b := b) settings env held
      obtain ⟨succeeded, outputs, generated⟩ :=
        succeeded_of_recorded ready held₂ done left available
      exact ⟨credentials, env, outputs, resolved, settled,
        Session.ready_of_succeeded source succeeded, succeeded, generated⟩

/-- All is met where source, variables and job are aligned with what the configuration asks for, the
job has succeeded, and its outputs can be read and published. -/
theorem of_aligned {j : Job} (keyed : s.store.WellKeyed) (aligned : Aligned t b env .apply s.store)
    (resolved : resolveCredentials Provider.resolve c s.store = .ok credentials)
    (settled : environment c credentials = .ok env)
    (found : s.store.read Job (t.jobKey .apply) = some j)
    (reported : (Executor.report j).progress = .succeeded)
    (read : Outputs.read s.store t = .ok outputs)
    (free : ∀ ns name, c.connectionSecret? = some (ns, name) →
      s.store.otherOwner? t ns name = none) :
    s.Succeeds settings t c b credentials env outputs := by
  have ready : s.ready settings t b env = s.provideRole t :=
    Session.ready_of_aligned settings aligned
  have role := Session.wellKeyed_provideRole keyed t
  refine ⟨resolved, settled, ?_, ?_, ?_⟩
  · rw [ready, Session.settleVariables_of_aligned aligned]
  · have found : (s.provideRole t).store.read Job (t.jobKey .apply) = some j :=
      (Store.read_congr (Session.get?_provide_of_ne _ _ (by nofun))).trans found
    rw [ready]
    unfold Store.report
    rw [found]
    exact reported
  · have read : Outputs.read (s.provideRole t).store t = .ok outputs :=
      (read_congr (Session.get?_provide_of_ne _ _ (by nofun))).trans read
    rw [ready, on_generate role, read]
    cases asked : c.connectionSecret? with
    | none => rfl
    | some place =>
      obtain ⟨ns, name⟩ := place
      have free : (s.provideRole t).store.otherOwner? t ns name = none :=
        (Store.otherOwner?_congr (Session.get?_provide_of_ne _ _ (by nofun))).trans
          (free ns name asked)
      simp only [free]

variable (succeeds : s.Succeeds settings t c b credentials env outputs)
include succeeds

theorem on_run (keyed : s.store.WellKeyed) :
    (run settings Provider.resolve t c b).on s =
      (.ok .done, ((Outputs.generate c t).on (s.ready settings t b env)).2.edit t.key
        (withOutputs (.ok outputs))) := by
  obtain ⟨resolved, settled, -, reported, generated⟩ := succeeds
  rw [Reconcile.on_run keyed, resolved]
  simp only [settled]
  rw [recordProgress_of_succeeded reported, on_recordSuccess, generated]
  rfl

/-- What is there is left alone, but for the configuration itself and the secret of its outputs. -/
theorem get? (keyed : s.store.WellKeyed) (there : (s.store.get? key).isSome) (other : key ≠ t.key)
    (unpublished : ¬ Target.Publishes c key) :
    ((run settings Provider.resolve t c b).on s).2.store.get? key = s.store.get? key := by
  have ready := Session.wellKeyed_ready keyed settings t b env
  rw [succeeds.on_run keyed]
  refine (Session.get?_edit_of_ne _ _ other).trans
    (((within_generate _ ready).get? other unpublished).trans ?_)
  rw [succeeds.ready]
  have settled := Session.get?_settleVariables_of_isSome (t := t) env there
  rw [← settled] at there
  exact (Session.get?_provideRole_of_isSome there).trans settled

/-- The credentials are resolved again, unless the outputs were written over them. -/
theorem resolved_again (keyed : s.store.WellKeyed)
    (apart : ∀ key, s.store.credentialKey? c = some key → ¬ Target.Publishes c key) :
    resolveCredentials Provider.resolve c ((run settings Provider.resolve t c b).on s).2.store =
      .ok credentials := by
  have changes : Changes t (t.Touches c) s ((run settings Provider.resolve t c b).on s).2 :=
    within_run b s keyed
  have provider : ((run settings Provider.resolve t c b).on s).2.store.get? c.providerKey =
      s.store.get? c.providerKey := changes.get? (by nofun) fun touched => touched.not_provider rfl
  refine (resolveCredentials_congr provider fun key kept => ?_).trans succeeds.resolved
  refine succeeds.get? keyed (keyed.isSome_of_resolved succeeds.resolved kept) ?_ (apart key kept)
  rintro rfl
  cases Store.kind_of_credentialKey kept

/-- The next run publishes the same and notes the same once more. -/
theorem on_run_again (keyed : s.store.WellKeyed) (source : s.store.bundleDiffers t b = false)
    (apart : ∀ key ∈ s.store.readSecrets t c, ¬ Target.Publishes c key)
    (same : s'.store = ((run settings Provider.resolve t c b).on s).2.store) :
    (run settings Provider.resolve t c b).on s' =
      (.ok .done, s'.edit t.key (withOutputs (.ok outputs))) := by
  have ready := Session.wellKeyed_ready keyed settings t b env
  have values : ¬ Target.Publishes c t.variableSecretKey := apart _ (by simp [Store.readSecrets])
  have state : ¬ Target.Publishes c t.stateSecretKey := apart _ (by simp [Store.readSecrets])
  have resolved := succeeds.resolved_again keyed fun key kept =>
    apart key (by simp [Store.readSecrets, kept])
  rw [← same] at resolved
  have again := Provisioner.on_run_again settings keyed values source succeeds.resolved
    succeeds.settled same resolved
  rw [succeeds.on_run keyed] at same
  have note : Note (withOutputs (.ok outputs)) := note_withApplyStatus (by decide) _ _
  have generated := (within_generate (t := t) (c := c) _ ready).wellKeyed ready
  have noted := Session.wellKeyed_note generated t.key note
  have keyed' : s'.store.WellKeyed := by
    rw [same]
    exact noted
  have published := generate_again ready state keyed' fun key kind => by
    rw [same]
    refine Session.get?_edit_of_ne _ _ ?_
    rintro rfl
    cases kind
  rw [again, recordProgress_of_succeeded succeeds.reported, on_recordSuccess, published,
    succeeds.generated]
  rfl

/-- The configuration is available then and tells the outputs, so that noting them again is noting
the generation at most, and is absorbed where that was told before. -/
theorem read_run (keyed : s.store.WellKeyed) (held : s.store.read Configuration t.key = some c₁) :
    ∃ c', ((run settings Provider.resolve t c b).on s).2.store.read Configuration t.key = some c' ∧
      c'.applyState = some .available ∧ c'.metadata.generation.isSome ∧
      withOutputs (.ok outputs) c' =
        { c' with
          status := some
            { c'.statusOrDefault with observedGeneration := c'.metadata.generation.getD 0 } } ∧
      (c₁.metadata.generation.isSome →
        ((run settings Provider.resolve t c b).on s).2.store.Absorbs t.key
          (withOutputs (.ok outputs))) := by
  have ready := Session.wellKeyed_ready keyed settings t b env
  obtain ⟨c₂, held₂, told⟩ := Session.read_ready (b := b) settings env held
  have published :=
    (Store.read_congr (get?_generate (t := t) (c := c) ready (by nofun))).trans held₂
  rw [succeeds.on_run keyed]
  obtain ⟨c', found, -, told', -, status⟩ := Configuration.read_edit
    (f := withOutputs (.ok outputs)) (gentle_withApplyStatus _ _ _) rfl published
  have available : c'.applyState = some .available := by
    unfold Configuration.applyState
    rw [status]
    rfl
  refine ⟨c', found, available, told', ?_, fun told₁ =>
    Session.absorbs_edit _ _ _ published (told told₁)⟩
  have tells : c'.statusOrDefault.apply = (withOutputs (.ok outputs) c').statusOrDefault.apply := by
    unfold Configuration.statusOrDefault
    rw [status]
    rfl
  change { c' with
    status := some
      { observedGeneration := c'.metadata.generation.getD 0
        apply := (withOutputs (.ok outputs) c').statusOrDefault.apply
        destroy := c'.statusOrDefault.destroy } } = _
  rw [← tells]

/-- The outputs are what the secret reads as that the configuration asks for them in. -/
theorem published {ns name : String} (keyed : s.store.WellKeyed)
    (asked : c.connectionSecret? = some (ns, name)) :
    ∃ secret, ((run settings Provider.resolve t c b).on s).2.store.read Secret ⟨.secret, ns, name⟩ =
      some secret ∧ secret.texts = outputs := by
  have ready := Session.wellKeyed_ready keyed settings t b env
  have generated := succeeds.generated
  rw [succeeds.on_run keyed, Store.read_congr (Session.get?_edit_of_ne _ _ (by nofun))]
  rw [on_generate ready] at generated ⊢
  cases read : Outputs.read (s.ready settings t b env).store t with
  | error e =>
    rw [read] at generated
    cases generated
  | ok found =>
    simp only [read, asked] at generated ⊢
    cases owned : (s.ready settings t b env).store.otherOwner? t ns name with
    | some owner =>
      rw [owned] at generated
      cases generated
    | none =>
      rw [owned] at generated
      cases generated
      obtain ⟨secret, found, texts, -⟩ := Session.read_publish _ t ns name outputs
      exact ⟨secret, found, texts⟩

/-- Outputs that were written over the variables, and differ from them, start the job again. -/
theorem restarts (keyed : s.store.WellKeyed) (source : s.store.bundleDiffers t b = false)
    (asked : c.connectionSecret? = some (t.ns, t.variableSecret))
    (differ : Terraform.variablesDiffer outputs env = true)
    (apart : ∀ key, s.store.credentialKey? c = some key → ¬ Target.Publishes c key)
    (same : s'.store = ((run settings Provider.resolve t c b).on s).2.store) :
    ((run settings Provider.resolve t c b).on s').1 = .error .applyPending ∧
    ((run settings Provider.resolve t c b).on s').2.triggered = s'.triggered ++ [t.jobKey .apply] ∧
    ∃ j, ((run settings Provider.resolve t c b).on s').2.store.read Job (t.jobKey .apply) = some j ∧
      j.status = none := by
  have ran : Changes t (t.Touches c) s ((run settings Provider.resolve t c b).on s).2 :=
    within_run b s keyed
  have keyed' : s'.store.WellKeyed := same ▸ ran.wellKeyed keyed
  have resolved' : resolveCredentials Provider.resolve c s'.store = .ok credentials :=
    same ▸ succeeds.resolved_again keyed apart
  have source' : s'.store.bundleDiffers t b = false := by
    rw [same, Store.bundleDiffers_congr (get?_run settings keyed), source]
  obtain ⟨secret, found, texts⟩ := succeeds.published keyed asked
  have differ' : s'.store.variablesDiffer t env = true := by
    have found : s'.store.read Secret t.variableSecretKey = some secret := same ▸ found
    unfold Store.variablesDiffer
    rw [found, Option.any_some, texts, differ]
  have ready := Session.wellKeyed_ready keyed' settings t b env
  obtain ⟨handed, j, started, new⟩ := ready_of_differ settings source' differ'
  have report : (s'.ready settings t b env).store.report (t.jobKey .apply) =
      ⟨.provisioning, ""⟩ := by
    unfold Store.report
    rw [started]
    simp only [Executor.report, new]
  have changes := within_recordProgress (t := t) (c := c) ⟨.provisioning, ""⟩ _ ready
  rw [Reconcile.on_run keyed', resolved']
  simp only [succeeds.settled]
  rw [report]
  refine ⟨?_, ?_, j, ?_, new⟩
  · change ((recordRunning t).on _).1 = _
    rw [on_recordRunning ready]
  · rw [changes.triggered (fun e published => nomatch published.kind), handed]
  · rw [← started]
    exact Store.read_congr (changes.get? (by nofun) fun published => nomatch published.kind)

end Session.Succeeds

/-! ### Passes over what was available -/

namespace Reconcile

/-- Once a configuration is held and its source is kept the next passes will run it. -/
theorem poised_heldAndKept (keyed : s.store.WellKeyed)
    (held : s.store.read Configuration t.key = some c) (active : c.metadata.lifecycle = .active) :
    Poised t c b ((s.hold t c).keep t b).store := by
  obtain ⟨c₁, held₁, continues, own⟩ := Configuration.read_heldAndKept keyed held b
  exact ⟨Session.wellKeyed_keep (Session.wellKeyed_hold keyed t c) t b,
    ⟨c₁, held₁, continues.alike, own, continues.lifecycle.trans active⟩, Session.holds_write _ _ _⟩

/-- A pass over a configuration whose source has not changed is a run. -/
theorem on_unchangedPass (resolve : Resolver) (keyed : s.store.WellKeyed)
    (here : request.key .configuration = t.key) (target : Target.of settings c = t)
    (held : s.store.read Configuration t.key = some c) (active : c.metadata.lifecycle = .active)
    (bundled : bundle t c = .ok b) (source : (s.hold t c).store.bundleDiffers t b = false) :
    (configurationPass settings resolve request).on s =
      (answer ((run settings resolve t c b).on ((s.hold t c).keep t b)).1,
        ((run settings resolve t c b).on ((s.hold t c).keep t b)).2) := by
  rw [on_activePass keyed (here ▸ held) active, target, on_apply keyed (keyed.placed held), bundled]
  simp only [source, Bool.false_eq_true, if_false]

/-- A pass that leaves a configuration available has run its source, with success. -/
theorem succeeds_of_pass (keyed : s.store.WellKeyed)
    (here : request.key .configuration = t.key) (target : Target.of settings c = t)
    (held : s.store.read Configuration t.key = some c) (active : c.metadata.lifecycle = .active)
    (done : ((configurationPass settings Provider.resolve request).on s).1 = .ok .done)
    (left : ((configurationPass settings Provider.resolve request).on s).2.store.read Configuration
      t.key = some c')
    (available : c'.applyState = some .available) :
    ∃ b credentials env outputs, bundle t c = .ok b ∧
      (configurationPass settings Provider.resolve request).on s =
        (.ok .done, ((run settings Provider.resolve t c b).on ((s.hold t c).keep t b)).2) ∧
      ((s.hold t c).keep t b).Succeeds settings t c b credentials env outputs := by
  cases bundled : bundle t c with
  | error e =>
    obtain ⟨fault, rfl⟩ := invalid_of_bundle bundled
    obtain ⟨c₁, held₁, -⟩ := Configuration.read_hold keyed held
    obtain ⟨c₂, found, noted, -⟩ := Session.read_noted .staticCheckFailed fault.message ∅ held₁
    rw [on_invalidPass keyed here target held active bundled, found] at left
    cases left
    cases noted.symm.trans available
  | ok b =>
    cases source : (s.hold t c).store.bundleDiffers t b with
    | true =>
      rw [on_activePass keyed (here ▸ held) active, target, on_apply keyed (keyed.placed held),
        bundled] at done
      simp only [source, if_true] at done
      cases done
    | false =>
      have pass := on_unchangedPass Provider.resolve keyed here target held active bundled source
      have poised := poised_heldAndKept (b := b) keyed held active
      rw [pass] at done left
      have done := done_of_answer done
      obtain ⟨c₂, held₂, -⟩ := poised.lives
      obtain ⟨credentials, env, outputs, succeeds⟩ :=
        Session.Succeeds.of_run poised.keyed poised.source_alike held₂ done left available
      refine ⟨b, credentials, env, outputs, rfl, ?_, succeeds⟩
      rw [pass, done]
      rfl

/-- And a pass whose run meets all that is done and leaves the configuration available. -/
theorem available_of_succeeds (keyed : s.store.WellKeyed)
    (here : request.key .configuration = t.key) (target : Target.of settings c = t)
    (held : s.store.read Configuration t.key = some c) (active : c.metadata.lifecycle = .active)
    (bundled : bundle t c = .ok b) (source : (s.hold t c).store.bundleDiffers t b = false)
    (succeeds : ((s.hold t c).keep t b).Succeeds settings t c b credentials env outputs) :
    (configurationPass settings Provider.resolve request).on s =
      (.ok .done, ((run settings Provider.resolve t c b).on ((s.hold t c).keep t b)).2) ∧
    ∃ c', ((configurationPass settings Provider.resolve request).on s).2.store.get?
        (request.key .configuration) = some (.configuration c') ∧
      c'.applyState = some .available := by
  have poised : Poised t c b ((s.hold t c).keep t b).store := poised_heldAndKept keyed held active
  have pass : (configurationPass settings Provider.resolve request).on s =
      (.ok .done, ((run settings Provider.resolve t c b).on ((s.hold t c).keep t b)).2) := by
    rw [on_unchangedPass _ keyed here target held active bundled source,
      succeeds.on_run poised.keyed]
    rfl
  obtain ⟨c₁, held₁, -⟩ := poised.lives
  obtain ⟨c', left, available, -⟩ := succeeds.read_run poised.keyed held₁
  refine ⟨pass, c', ?_, available⟩
  rw [pass, here]
  exact Store.read_eq_some_iff.mp left

/-- Outputs that a configuration asks for in the secret of its own variables are written over them,
and the next pass takes that for a change of the variables: it hands over the job again that had
succeeded. -/
theorem restarts_of_published (keyed : s.store.WellKeyed)
    (here : request.key .configuration = t.key) (target : Target.of settings c = t)
    (held : s.store.read Configuration t.key = some c) (active : c.metadata.lifecycle = .active)
    (bundled : bundle t c = .ok b) (source : (s.hold t c).store.bundleDiffers t b = false)
    (succeeds : ((s.hold t c).keep t b).Succeeds settings t c b credentials env outputs)
    (asked : c.connectionSecret? = some (t.ns, t.variableSecret))
    (apart : s.store.credentialKey? c ≠ some t.variableSecretKey)
    (differ : Terraform.variablesDiffer outputs env = true) :
    let first := (configurationPass settings Provider.resolve request).on s
    let second := (configurationPass settings Provider.resolve request).on first.2
    first.1 = .ok .done ∧
    (∃ c', first.2.store.get? (request.key .configuration) = some (.configuration c') ∧
      c'.applyState = some .available) ∧
    (∃ secret, first.2.store.read Secret t.variableSecretKey = some secret ∧
      secret.texts = outputs) ∧
    second.1 = .ok (.after Outcome.delay) ∧
    second.2.triggered = first.2.triggered ++ [t.jobKey .apply] ∧
    ∃ j, second.2.store.read Job (t.jobKey .apply) = some j ∧ j.status = none := by
  have poised : Poised t c b ((s.hold t c).keep t b).store := poised_heldAndKept keyed held active
  have kept : ∀ key, ((s.hold t c).keep t b).store.credentialKey? c = some key →
      ¬ Target.Publishes c key := by
    have provider : ((s.hold t c).keep t b).store.get? c.providerKey =
        s.store.get? c.providerKey := Session.get?_heldAndKept (by nofun) (by nofun)
    rintro key kept ⟨ns, name, asked', rfl⟩
    cases asked.symm.trans asked'
    exact apart ((Store.credentialKey?_congr provider).symm.trans kept)
  obtain ⟨first, available⟩ :=
    available_of_succeeds keyed here target held active bundled source succeeds
  obtain ⟨refused, handed, started⟩ := succeeds.restarts poised.keyed poised.source_alike asked
    differ kept rfl
  have second := (poised.run settings).on_pass Provider.resolve here target bundled
  rw [refused] at second
  rw [first] at available
  dsimp only
  rw [first]
  dsimp only
  rw [second]
  have written := succeeds.published poised.keyed asked
  dsimp only
  exact ⟨rfl, available, written, rfl, handed, started⟩

end Reconcile

/-- Availability is stable. Where a pass over an active configuration is done and leaves it
available, it has left alone what there was of its variables, its state and its credentials, and the
next pass, at any time, is done as well: it hands over no job and changes no object but the
configuration, and that only in telling the generation that it was observed for. Where the
generation was told before all that, as it always is once an object has been added, the next pass
changes nothing at all and sends no notice. The condition is that the outputs are not asked for in
one of the secrets that the pass reads. -/
theorem available_is_stable (settings : Settings) (s : Session) (request : Request)
    (c c' : Configuration) (later : Timestamp) (keyed : s.store.WellKeyed)
    (held : s.store.get? (request.key .configuration) = some (.configuration c))
    (active : c.metadata.lifecycle = .active)
    (apart : ∀ key ∈ s.store.readSecrets (.of settings c) c, ¬ Target.Publishes c key)
    (done : ((configurationPass settings Provider.resolve request).on s).1 = .ok .done)
    (left : ((configurationPass settings Provider.resolve request).on s).2.store.get?
      (request.key .configuration) = some (.configuration c'))
    (available : c'.applyState = some .available) :
    let first := ((configurationPass settings Provider.resolve request).on s).2
    let again :=
      (configurationPass settings Provider.resolve request).on { first with now := later }
    (∀ key ∈ s.store.readSecrets (.of settings c) c, (s.store.get? key).isSome →
      first.store.get? key = s.store.get? key) ∧
    again.1 = .ok .done ∧
    again.2.triggered = first.triggered ∧
    (∀ key ≠ request.key .configuration, again.2.store.get? key = first.store.get? key) ∧
    again.2.store.get? (request.key .configuration) = some (.configuration
      { c' with
        status := some
          { c'.statusOrDefault with observedGeneration := c'.metadata.generation.getD 0 } }) ∧
    (c.metadata.generation.isSome → again.2 = { first with now := later }) := by
  have held : s.store.read Configuration (request.key .configuration) = some c :=
    Store.read_eq_some_iff.mpr held
  have left : ((configurationPass settings Provider.resolve request).on s).2.store.read
      Configuration (request.key .configuration) = some c' := Store.read_eq_some_iff.mpr left
  have here : request.key .configuration = (Target.of settings c).key :=
    (Target.key_of (keyed.placed held)).symm
  generalize target : Target.of settings c = t at here apart ⊢
  rw [here] at held left ⊢
  obtain ⟨b, credentials, env, outputs, bundled, pass, succeeds⟩ :=
    succeeds_of_pass keyed here target held active done left available
  have poised : Poised t c b ((s.hold t c).keep t b).store := poised_heldAndKept keyed held active
  have provider : ((s.hold t c).keep t b).store.get? c.providerKey = s.store.get? c.providerKey :=
    Session.get?_heldAndKept (by nofun) (by nofun)
  have apart' : ∀ key ∈ ((s.hold t c).keep t b).store.readSecrets t c,
      ¬ Target.Publishes c key := by
    unfold Store.readSecrets at apart ⊢
    rwa [Store.credentialKey?_congr provider]
  intro first again
  have ran : first = ((run settings Provider.resolve t c b).on ((s.hold t c).keep t b)).2 := by
    change ((configurationPass settings Provider.resolve request).on s).2 = _
    rw [pass]
  have poised' : Poised t c b { first with now := later }.store := by
    change Poised t c b first.store
    rw [ran]
    exact poised.run settings
  have repeats : again = (.ok .done, { first with now := later }.edit t.key
      (withOutputs (.ok outputs))) := by
    have same : { first with now := later }.store =
        ((run settings Provider.resolve t c b).on ((s.hold t c).keep t b)).2.store := by
      rw [← ran]
    have run := succeeds.on_run_again poised.keyed poised.source_alike apart' same
    change (configurationPass settings Provider.resolve request).on { first with now := later } = _
    rw [poised'.on_pass _ here target bundled, run]
    rfl
  obtain ⟨c₁, held₁, -, -, told₁⟩ := Configuration.read_hold keyed held
  have heldKeep : ((s.hold t c).keep t b).store.read Configuration t.key = some c₁ :=
    (Store.read_congr (Session.get?_write_of_ne _ _ (by nofun))).trans held₁
  obtain ⟨c₂, found, -, told, tells, absorbs⟩ := succeeds.read_run poised.keyed heldKeep
  rw [← ran] at found absorbs
  cases left.symm.trans found
  have found' : { first with now := later }.store.read Configuration t.key = some c' := found
  rw [repeats]
  refine ⟨fun key listed there => ?_, rfl, Session.triggered_edit _ _ _,
    fun key other => Session.get?_edit_of_ne _ _ other, ?_,
    fun told => Session.edit_of_absorbs (absorbs (told₁ told))⟩
  · have secret := Store.kind_of_readSecrets listed
    have kept : ((s.hold t c).keep t b).store.get? key = s.store.get? key :=
      Session.get?_heldAndKept (by rintro rfl; cases secret) (by rintro rfl; cases secret)
    rw [ran, ← kept]
    rw [← kept] at there
    exact succeeds.get? poised.keyed there (by rintro rfl; cases secret) (apart key listed)
  · rw [← tells]
    exact Store.read_eq_some_iff.mp
      (Configuration.read_edit_told (gentle_withApplyStatus _ _ _) rfl found' told)

namespace Sample

/-- The configuration, asking for its outputs in a secret of that name. -/
def harvesting (name : String) : Configuration :=
  { configuration with
    spec := { configuration.spec with writeConnectionSecretToRef := some ⟨name, some "prod"⟩ } }

def webTarget : Target := .of {} configuration

def webBundle : Bundle := ⟨.hcl, "# nothing\n" ++ Terraform.backendText "web" "vela-system"⟩

/-- The variables that come of its credentials. -/
def token : Dict String String := .singleton "token" "secret"

/-- The job that applies it has succeeded, and its state is there. -/
def harvest (name : String) : Session where
  store :=
    { items := .ofList
        [(Sample.request.key .configuration, .configuration (harvesting name)),
         (providerRequest.key .provider,
          .provider { provider "credentials" with status := some { state := some .ready } }),
         (⟨.secret, "prod", "account"⟩, .secret account),
         (⟨.secret, "prod", "variable-web"⟩, .secret (variableSecret webTarget token)),
         (⟨.secret, "vela-system", "tfstate-default-web"⟩, .secret stored),
         (⟨.job, "prod", "web-apply"⟩,
          .job (succeeded (Executor.job {} webTarget (.of webTarget webBundle.text token) .apply)))]
      listeners := ∅ }
  now := ⟨0, 0⟩

variable {name : String}

theorem wellKeyed_harvest : (harvest name).store.WellKeyed := by
  refine Store.wellKeyed_ofList fun e listed => ?_
  simp only [List.mem_cons, List.not_mem_nil, or_false] at listed
  rcases listed with rfl | rfl | rfl | rfl | rfl | rfl <;> rfl

theorem get?_harvest : (harvest name).store.get? (Sample.request.key .configuration) =
    some (.configuration (harvesting name)) := by
  unfold harvest Store.get?
  rw [Dict.get?_ofList]
  rfl

theorem read_harvest :
    (harvest name).store.read Configuration webTarget.key = some (harvesting name) :=
  Store.read_eq_some_iff.mpr get?_harvest

theorem key_request : Sample.request.key .configuration = webTarget.key := rfl

theorem target_harvesting : Target.of {} (harvesting name) = webTarget := rfl

theorem bundle_harvesting : bundle webTarget (harvesting name) = .ok webBundle := rfl

theorem aligned_harvest : Aligned webTarget webBundle token .apply (harvest name).store where
  source := rfl
  secret := rfl
  values := rfl
  job := fingerprint?_job {} webTarget (.of webTarget webBundle.text token) .apply

/-- What passes read, once the source is kept, whether the outputs go to a secret of their own or to
that of the variables. -/
theorem harvest_reads : ∀ name ∈ ["web-conn", "variable-web"],
    let kept := ((harvest name).keep webTarget webBundle).store
    (resolveCredentials Provider.resolve (harvesting name) kept).toOption = some token ∧
    (Outputs.read kept webTarget).toOption = some ∅ ∧
    kept.otherOwner? webTarget "prod" name = none ∧
    (harvesting name).connectionSecret? = some ("prod", name) ∧
    (harvest name).store.credentialKey? (harvesting name) = some ⟨.secret, "prod", "account"⟩ := by
  decide +kernel

theorem succeeds_harvest (listed : name ∈ ["web-conn", "variable-web"]) :
    (((harvest name).hold webTarget (harvesting name)).keep webTarget webBundle).Succeeds {}
      webTarget (harvesting name) webBundle token token ∅ := by
  obtain ⟨resolved, read, free, asks, -⟩ := harvest_reads name listed
  have unheld : (harvest name).hold webTarget (harvesting name) = harvest name :=
    Session.hold_of_own rfl
  have job : ((harvest name).keep webTarget webBundle).store.read Job (webTarget.jobKey .apply) =
      some (succeeded (Executor.job {} webTarget (.of webTarget webBundle.text token) .apply)) :=
    Store.read_congr (Session.get?_write_of_ne _ _ (by nofun))
  rw [unheld]
  refine .of_aligned (Session.wellKeyed_keep wellKeyed_harvest _ _)
    aligned_harvest.keep (eq_ok_of_toOption resolved) rfl job rfl
    (eq_ok_of_toOption read) fun ns name' asked => ?_
  cases asks.symm.trans asked
  exact free

/-- The first pass over it. -/
def harvested (name : String) : Except Error Outcome × Session :=
  (configurationPass {} Provider.resolve Sample.request).on (harvest name)

theorem available_harvested (listed : name ∈ ["web-conn", "variable-web"]) :
    (harvested name).1 = .ok .done ∧
    ∃ c', (harvested name).2.store.get? (Sample.request.key .configuration) =
        some (.configuration c') ∧ c'.applyState = some .available := by
  obtain ⟨pass, available⟩ := available_of_succeeds wellKeyed_harvest key_request
    target_harvesting read_harvest rfl bundle_harvesting rfl (succeeds_harvest listed)
  exact ⟨congrArg Prod.fst pass, available⟩

end Sample

/-- With its outputs in a secret of their own the configuration is available for good. -/
theorem available_is_stable_sample :
    (Sample.harvest "web-conn").store.WellKeyed ∧
    (Sample.harvest "web-conn").store.get? (Sample.request.key .configuration) =
      some (.configuration (Sample.harvesting "web-conn")) ∧
    (∀ key ∈ (Sample.harvest "web-conn").store.readSecrets (.of {} (Sample.harvesting "web-conn"))
      (Sample.harvesting "web-conn"), ¬ Target.Publishes (Sample.harvesting "web-conn") key) ∧
    (Sample.harvested "web-conn").1 = .ok .done ∧
    ∃ c', (Sample.harvested "web-conn").2.store.get? (Sample.request.key .configuration) =
        some (.configuration c') ∧
      c'.applyState = some .available ∧
      ((configurationPass {} Provider.resolve Sample.request).on
        { (Sample.harvested "web-conn").2 with now := ⟨60, 0⟩ }).2 =
          { (Sample.harvested "web-conn").2 with now := ⟨60, 0⟩ } := by
  have listed : "web-conn" ∈ ["web-conn", "variable-web"] := List.mem_cons_self
  obtain ⟨-, -, -, asks, kept⟩ := Sample.harvest_reads _ listed
  obtain ⟨done, c', left, available⟩ := Sample.available_harvested listed
  have apart : ∀ key ∈ (Sample.harvest "web-conn").store.readSecrets
      (.of {} (Sample.harvesting "web-conn")) (Sample.harvesting "web-conn"),
      ¬ Target.Publishes (Sample.harvesting "web-conn") key := by
    unfold Store.readSecrets
    rw [kept]
    rintro key listed ⟨ns, name, asked, rfl⟩
    cases asks.symm.trans asked
    revert listed
    decide
  refine ⟨Sample.wellKeyed_harvest, Sample.get?_harvest, apart, done, c', left, available, ?_⟩
  exact (available_is_stable {} _ _ _ c' ⟨60, 0⟩ Sample.wellKeyed_harvest Sample.get?_harvest rfl
    apart done left available).2.2.2.2.2 rfl

/-- The secret of its variables belongs to the configuration too, so nothing keeps it from asking
for its outputs there. The pass that finds it available then writes the outputs over the variables,
and the next pass takes that for a change of the variables: it removes the job that had succeeded
and hands it over again. -/
theorem outputs_over_variables :
    let first := Sample.harvested "variable-web"
    let second := (configurationPass {} Provider.resolve Sample.request).on first.2
    (Sample.harvest "variable-web").store.WellKeyed ∧
    (Sample.harvest "variable-web").store.get? (Sample.request.key .configuration) =
      some (.configuration (Sample.harvesting "variable-web")) ∧
    (Sample.harvesting "variable-web").metadata.lifecycle = .active ∧
    first.1 = .ok .done ∧
    (∃ c', first.2.store.get? (Sample.request.key .configuration) = some (.configuration c') ∧
      c'.applyState = some .available) ∧
    ((Sample.harvest "variable-web").store.read Secret Sample.webTarget.variableSecretKey).map
      (·.texts) = some (.singleton "token" "secret") ∧
    (∃ secret, first.2.store.read Secret Sample.webTarget.variableSecretKey = some secret ∧
      secret.texts = ∅) ∧
    second.1 = .ok (.after Outcome.delay) ∧
    second.2.triggered = first.2.triggered ++ [Sample.webTarget.jobKey .apply] ∧
    ∃ j, second.2.store.read Job (Sample.webTarget.jobKey .apply) = some j ∧ j.status = none := by
  have listed : "variable-web" ∈ ["web-conn", "variable-web"] := by decide
  obtain ⟨-, -, -, asks, kept⟩ := Sample.harvest_reads _ listed
  refine ⟨Sample.wellKeyed_harvest, Sample.get?_harvest, rfl, ?_⟩
  obtain ⟨done, available, written, later⟩ := restarts_of_published Sample.wellKeyed_harvest
    Sample.key_request Sample.target_harvesting Sample.read_harvest rfl Sample.bundle_harvesting rfl
    (Sample.succeeds_harvest listed) asks (by rw [kept]; decide) rfl
  exact ⟨done, available, rfl, written, later⟩

end Provisioner
