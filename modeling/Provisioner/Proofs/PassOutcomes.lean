import Provisioner.Proofs.PassSteps

/-!
How whole passes end. A pass over a provider notes one status. A pass over a configuration either
makes the changes of `Changes` and nothing else, or it lets the configuration go, which takes one of
three reasons: the cloud resources are to be kept, there is nothing to destroy, or the destroy job
was there before the pass, was made from what the pass found, and had succeeded.
-/

namespace Provisioner

open Reconcile
open Executor (Inputs Report)

variable {s s' : Session} {t : Target} {c : Configuration} {key : ObjectKey} {request : Request}
  {resolve : Resolver} {settings : Settings}

/-! ### Targets of requests -/

/-- A configuration under its own key is a target of that key. -/
theorem Target.key_of (placed : (Resource.wrap c).key? = some key) :
    (Target.of settings c).key = key := by
  rw [key?_wrap] at placed
  change c.metadata.key? .configuration = some key at placed
  unfold Metadata.key? at placed
  split at placed
  · rename_i name named
    split at placed
    · cases placed
    · cases placed
      simp [Target.key, Target.of, Metadata.anyName, named]
  · cases placed

theorem Store.WellKeyed.placed {s : Store} (keyed : s.WellKeyed)
    (held : s.read Configuration key = some c) : (Resource.wrap c).key? = some key :=
  keyed key _ (Store.read_eq_some_iff.mp held)

/-! ### Jobs that were just started -/

theorem fingerprint?_job (settings : Settings) (t : Target) (i : Inputs) (e : Execution) :
    Executor.fingerprint? (Executor.job settings t i e) = some i.fingerprint := by
  simp [Executor.fingerprint?, Executor.job]

namespace Session

/-- A job that was just started has no status yet and tells its inputs. -/
theorem read_start (s : Session) (settings : Settings) (t : Target) (i : Inputs) (e : Execution) :
    ∃ j, (s.start settings t i e).store.read Job (t.jobKey e) = some j ∧ j.status = none ∧
      Executor.fingerprint? j = some i.fingerprint := by
  suffices made : ∀ s' : Session,
      ∃ j, (s'.write (t.jobKey e) (Resource.wrap (Executor.job settings t i e))).store.read Job
        (t.jobKey e) = some j ∧ j.status = none ∧
        Executor.fingerprint? j = some i.fingerprint from made _
  intro s'
  obtain ⟨j, found, new, annotations⟩ :=
    read_write_job (s := s') (Executor.job settings t i e) (rfl : (t.jobKey e).kind = .job) rfl
  refine ⟨j, found, new, ?_⟩
  rw [← fingerprint?_job settings t i e]
  unfold Executor.fingerprint?
  rw [annotations]

/-- A job is left alone only if it was made from the same inputs. -/
theorem plan_unchanged_iff (settings : Settings) (t : Target) (i : Inputs) (changed : Bool)
    (e : Execution) :
    s.plan settings t i changed e = .unchanged ↔
      changed = false ∧ ∃ j, s.store.read Job (t.jobKey e) = some j ∧
        Executor.fingerprint? j = some i.fingerprint := by
  unfold plan Executor.plan
  rw [fingerprint?_job]
  cases s.store.read Job (t.jobKey e) with
  | none => simp
  | some j =>
    generalize some i.fingerprint = fingerprint
    cases changed <;> simp

/-- After convergence there is a job made from the inputs. It is new unless nothing was done. -/
theorem converge_cases (s : Session) (settings : Settings) (t : Target) (i : Inputs)
    (changed : Bool) (e : Execution) :
    (s.plan settings t i changed e = .unchanged ∧ s.converge settings t i changed e = s) ∨
    ∃ j, (s.converge settings t i changed e).store.read Job (t.jobKey e) = some j ∧
      j.status = none ∧ Executor.fingerprint? j = some i.fingerprint := by
  unfold converge
  cases s.plan settings t i changed e with
  | unchanged => exact .inl ⟨rfl, rfl⟩
  | trigger => exact .inr (read_start s settings t i e)
  | recreate => exact .inr (read_start _ settings t i e)

end Session

/-! ### What destroying takes -/

/-- The job that destroys was there already, made from just what the pass finds, and it had
succeeded. -/
def Destroyed (resolve : Resolver) (t : Target) (c : Configuration) (s : Session) : Prop :=
  ∃ i j status succeeded,
    ((prepare resolve t c).on s).1 = .ok (i, false) ∧
    s.store.get? (t.jobKey .destroy) = some (.job j) ∧
    Executor.fingerprint? j = some i.fingerprint ∧
    j.status = some status ∧ status.succeeded = some succeeded ∧ 0 < succeeded

/-- Why a pass lets a configuration go. -/
def MayGo (settings : Settings) (resolve : Resolver) (c : Configuration) (s : Session) : Prop :=
  c.spec.deleteResource = false ∨ isDeletable c s.store = .ok true ∨
    Destroyed resolve (.of settings c) c s

/-- Preparing a destroy job leaves all alone but the kept source, the variables and the role. -/
theorem get?_prepare (resolve : Resolver) {key : ObjectKey} (keyed : s.store.WellKeyed)
    (source : key ≠ t.inputBundleKey) (secret : key ≠ t.variableSecretKey)
    (role : key ≠ t.roleKey) :
    ((prepare resolve t c).on s).2.store.get? key = s.store.get? key := by
  have kept : ∀ b, (s.keep t b).store.get? key = s.store.get? key :=
    fun b => Session.get?_write_of_ne _ _ source
  rw [on_prepare keyed]
  split
  · rfl
  · split
    · exact kept _
    · split
      · exact kept _
      · exact (Session.get?_provide_of_ne _ _ role).trans
          ((Session.get?_provide_of_ne _ _ secret).trans (kept _))

theorem succeeded_of_report {j : Job} (done : (Executor.report j).progress = .succeeded) :
    ∃ status succeeded, j.status = some status ∧ status.succeeded = some succeeded ∧
      0 < succeeded := by
  unfold Executor.report at done
  split at done
  · cases done
  · rename_i status held
    split at done
    · rename_i positive
      obtain ⟨n, counted, positive⟩ := (Option.any_eq_true _ _).mp positive
      exact ⟨status, n, held, counted, by simpa using positive⟩
    · split at done
      · unfold Executor.failure at done
        simp only at done
        split at done
        · cases done
        · split at done <;> cases done
      · cases done

/-- Destroying succeeds only where a job of an earlier pass has done it. -/
theorem destroyed_of_destroyResources (keyed : s.store.WellKeyed)
    (done : (destroyResources settings resolve t c).on s = (.ok (), s')) :
    Destroyed resolve t c s := by
  have jobs : ((prepare resolve t c).on s).2.store.get? (t.jobKey .destroy) = _ :=
    get?_prepare resolve keyed nofun nofun nofun
  have changes : Changes t (t.Touches c) s ((prepare resolve t c).on s).2 := within_prepare s keyed
  have prepared := changes.wellKeyed keyed
  rw [on_destroyResources keyed] at done
  unfold Destroyed
  rcases ran : (prepare resolve t c).on s with ⟨e | ⟨i, changed⟩, s₁⟩ <;>
    rw [ran] at done jobs prepared
  · cases done
  · simp only at done prepared jobs
    generalize progress : Store.report _ (t.jobKey .destroy) = report at done
    have succeeded : report.progress = .succeeded := by
      split at done <;> first | assumption | cases done
    subst progress
    unfold Store.report at succeeded
    have noted : ∀ (s : Session) (f : Configuration → Configuration),
        (s.edit t.key f).store.read Job (t.jobKey .destroy) =
          s.store.read Job (t.jobKey .destroy) :=
      fun s f => Store.read_congr (Session.get?_edit_of_ne s f (by nofun))
    rw [noted] at succeeded
    rcases Session.converge_cases s₁ settings t i changed .destroy with
      ⟨settled, stays⟩ | ⟨j, found, new, -⟩
    · obtain ⟨unchanged, j, found, made⟩ :=
        (Session.plan_unchanged_iff settings t i changed .destroy).mp settled
      rw [stays, found] at succeeded
      obtain ⟨status, n, held, counted, positive⟩ := succeeded_of_report succeeded
      refine ⟨i, j, status, n, ?_, ?_, made, held, counted, positive⟩
      · rw [unchanged]
      · rw [← jobs]
        exact Store.read_eq_some_iff.mp found
    · rw [found] at succeeded
      obtain ⟨status, -, held, -⟩ := succeeded_of_report succeeded
      rw [new] at held
      cases held

/-! ### Letting go -/

theorem gentle_withoutOwnFinalizer : Gentle withoutOwnFinalizer where
  metadata _ := rfl
  spec _ := rfl

/-- Nothing is under a key but what is only waiting to go, held by finalizers. -/
def Store.Vacated (s : Store) (key : ObjectKey) : Prop :=
  ∀ o, s.get? key = some o → o.hasFinalizers = true ∧ o.lifecycle = .terminating

theorem Store.Vacated.congr {s s' : Store} (vacated : s.Vacated key)
    (same : s'.get? key = s.get? key) : s'.Vacated key :=
  fun o held => vacated o (same ▸ held)

namespace Session

theorem lifecycle_marked (s : Session) (o : Object) : (s.marked o).lifecycle = .terminating := by
  unfold marked Object.lifecycle Metadata.lifecycle
  rw [Object.metadata_withMetadata]
  cases o.metadata.deletionTimestamp <;> rfl

theorem hasFinalizers_marked (s : Session) (o : Object) :
    (s.marked o).hasFinalizers = o.hasFinalizers := by
  unfold marked Object.hasFinalizers Metadata.hasFinalizers Metadata.finalizerList
  rw [Object.metadata_withMetadata]

theorem vacated_delete (s : Session) (key : ObjectKey) : (s.delete key).2.store.Vacated key := by
  intro o held
  cases found : s.store.get? key with
  | none =>
    unfold delete at held
    rw [found] at held
    exact absurd (found.symm.trans held) nofun
  | some p =>
    cases holds : p.hasFinalizers with
    | false => exact absurd ((get?_delete_free found holds).symm.trans held) nofun
    | true =>
      rw [get?_delete_held found holds] at held
      cases held
      exact ⟨(hasFinalizers_marked s p).trans holds, lifecycle_marked s p⟩

theorem vacated_deleteAll {keys : List ObjectKey} (listed : key ∈ keys) :
    (s.deleteAll keys).store.Vacated key := by
  induction keys generalizing s with
  | nil => cases listed
  | cons first rest ih =>
    by_cases later : key ∈ rest
    · exact ih later
    · rcases List.mem_cons.mp listed with rfl | later'
      · exact (vacated_delete s key).congr (get?_deleteAll_of_not_mem later)
      · exact absurd later' later

theorem not_configuration_of_generated (generated : key ∈ generatedKeys t) :
    key.kind ≠ .configuration := by
  simp only [generatedKeys, List.mem_cons, List.not_mem_nil, or_false] at generated
  rcases generated with rfl | rfl | rfl | rfl | rfl <;> nofun

theorem own_connection {store : Store} (own : ownConnectionKey? t c store = some key) :
    ∃ ns name, c.connectionSecret? = some (ns, name) ∧ key = ⟨.secret, ns, name⟩ := by
  unfold ownConnectionKey? at own
  obtain ⟨⟨ns, name⟩, asked, own⟩ := Option.bind_eq_some_iff.mp own
  refine ⟨ns, name, asked, ?_⟩
  simp only at own
  repeat' split at own
  all_goals cases own
  rfl

theorem get?_cleanup_of_configuration (kind : key.kind = .configuration) :
    (s.cleanup t c).store.get? key = s.store.get? key := by
  refine get?_deleteAll_of_not_mem fun listed => ?_
  rcases List.mem_append.mp listed with generated | own
  · exact not_configuration_of_generated generated kind
  · obtain ⟨ns, name, -, rfl⟩ := own_connection (Option.mem_toList.mp own)
    cases kind

/-- Letting a configuration go removes it unless finalizers of others hold it. It is then left
waiting to go, held by them alone. -/
theorem letGo_cases {c₀ : Configuration} (held : s.store.read Configuration t.key = some c₀) :
    (∀ f ∈ c₀.metadata.finalizerList, f = Names.finalizer) ∧
      (s.letGo t c).store.get? t.key = none ∨
    (∃ f ∈ c₀.metadata.finalizerList, f ≠ Names.finalizer) ∧
      ∃ c', (s.letGo t c).store.get? t.key = some (.configuration c') ∧
        hasOwnFinalizer c' = false ∧ c'.metadata.hasFinalizers = true ∧
        c'.metadata.lifecycle = .terminating ∧ c₀.Alike c' := by
  obtain ⟨c₁, noted, metadata, -, spec, -⟩ := Configuration.read_edit
    (note_withDestroyStatus .destroyed "Cloud resources are destroyed").gentle rfl held
  have cleaned : (Session.cleanup _ t c).store.read Configuration t.key = some c₁ :=
    (Store.read_congr (get?_cleanup_of_configuration rfl)).trans noted
  obtain ⟨c₂, released, metadata', -, spec', -⟩ :=
    Configuration.read_edit gentle_withoutOwnFinalizer rfl cleaned
  have finalizers : c₂.metadata.finalizerList =
      c₀.metadata.finalizerList.filter (· ≠ Names.finalizer) := by
    unfold Metadata.finalizerList
    rw [metadata']
    simp only [withoutOwnFinalizer, Metadata.finalizerList, Option.getD_some]
    rw [metadata]
    rfl
  have stored := Store.read_eq_some_iff.mp released
  cases others : c₀.metadata.finalizerList.filter (· ≠ Names.finalizer) with
  | nil =>
    refine .inl ⟨fun f listed => ?_, ?_⟩
    · simpa using List.filter_eq_nil_iff.mp others f listed
    · refine get?_delete_free stored ?_
      change (!c₂.metadata.finalizerList.isEmpty) = false
      rw [finalizers, others]
      rfl
  | cons f rest =>
    have kept : f ∈ c₀.metadata.finalizerList.filter (· ≠ Names.finalizer) :=
      others ▸ List.mem_cons_self
    obtain ⟨listed, foreign⟩ := List.mem_filter.mp kept
    have holds : c₂.metadata.hasFinalizers = true := by
      unfold Metadata.hasFinalizers
      rw [finalizers, others]
      rfl
    refine .inr ⟨⟨f, listed, by simpa using foreign⟩, _, get?_delete_held stored holds, ?_, holds,
      ?_, ?_⟩
    · change c₂.metadata.finalizerList.contains Names.finalizer = false
      rw [finalizers]
      simp
    · exact lifecycle_marked _ (.configuration c₂)
    · refine ⟨spec'.trans spec, ?_, ?_⟩
      · change c₂.metadata.ns = _
        rw [metadata']
        change c₁.metadata.ns = _
        rw [metadata]
        rfl
      · change c₂.metadata.anyName = _
        rw [metadata']
        change c₁.metadata.anyName = _
        rw [metadata]
        rfl

/-- Letting a configuration go leaves everything alone that was not generated for it. -/
theorem get?_letGo (other : key ≠ t.key) (kept : key ∉ generatedKeys t)
    (foreign : ∀ ns name, c.connectionSecret? = some (ns, name) → key ≠ ⟨.secret, ns, name⟩) :
    (s.letGo t c).store.get? key = s.store.get? key := by
  refine (get?_delete_of_ne _ other).trans ((get?_edit_of_ne _ _ other).trans ?_)
  refine (get?_deleteAll_of_not_mem fun listed => ?_).trans (get?_edit_of_ne _ _ other)
  rcases List.mem_append.mp listed with generated | own
  · exact kept generated
  · obtain ⟨ns, name, asked, here⟩ := own_connection (Option.mem_toList.mp own)
    exact foreign ns name asked here

/-- Nothing that was generated for a configuration outlasts letting it go. -/
theorem vacated_letGo (generated : key ∈ generatedKeys t) :
    (s.letGo t c).store.Vacated key := by
  have other : key ≠ t.key := fun here => not_configuration_of_generated generated (here ▸ rfl)
  refine Store.Vacated.congr ?_ ((get?_delete_of_ne _ other).trans (get?_edit_of_ne _ _ other))
  exact vacated_deleteAll (List.mem_append_left _ generated)

/-- The secret with the outputs outlasts letting a configuration go only if another owns it. -/
theorem connection_letGo {ns name : String} (keyed : s.store.WellKeyed)
    (asked : c.connectionSecret? = some (ns, name)) :
    (s.letGo t c).store.Vacated ⟨.secret, ns, name⟩ ∨
      ∃ secret, (s.letGo t c).store.get? ⟨.secret, ns, name⟩ = some (.secret secret) ∧
        (Outputs.otherOwner? secret t).isSome := by
  have other : (⟨.secret, ns, name⟩ : ObjectKey) ≠ t.key := nofun
  have noted := wellKeyed_note keyed t.key
    (note_withDestroyStatus .destroyed "Cloud resources are destroyed")
  generalize before : s.edit t.key (withDestroyStatus .destroyed "Cloud resources are destroyed") =
    s₁ at noted
  have last : (s.letGo t c).store.get? ⟨.secret, ns, name⟩ =
      (s₁.cleanup t c).store.get? ⟨.secret, ns, name⟩ := by
    rw [← before]
    exact (get?_delete_of_ne _ other).trans (get?_edit_of_ne _ _ other)
  by_cases listed : (⟨.secret, ns, name⟩ : ObjectKey) ∈
      generatedKeys t ++ (ownConnectionKey? t c s₁.store).toList
  · exact .inl ((vacated_deleteAll listed).congr last)
  · have kept := last.trans (get?_deleteAll_of_not_mem listed)
    cases found : s₁.store.read Secret ⟨.secret, ns, name⟩ with
    | none =>
      refine .inl fun o held => ?_
      rw [kept, (noted.read_eq_none_iff rfl).mp found] at held
      cases held
    | some secret =>
      refine .inr ⟨secret, kept.trans (Store.read_eq_some_iff.mp found), ?_⟩
      have foreign : ownConnectionKey? t c s₁.store ≠ some ⟨.secret, ns, name⟩ := fun own =>
        listed (List.mem_append_right _ (Option.mem_toList.mpr own))
      have search : s₁.store.findNamed Secret ns name = .ok (some secret) :=
        found ▸ noted.findNamed ns name
      unfold ownConnectionKey? at foreign
      rw [asked, Option.bind_some] at foreign
      simp only [search] at foreign
      split at foreign
      · exact absurd rfl foreign
      · rename_i owned
        simpa [Option.isSome_iff_ne_none] using owned

theorem wellKeyed_letGo (keyed : s.store.WellKeyed) : (s.letGo t c).store.WellKeyed := by
  have noted := wellKeyed_note keyed t.key
    (note_withDestroyStatus .destroyed "Cloud resources are destroyed")
  have cleaned : (Session.cleanup _ t c).store.WellKeyed := wellKeyed_deleteAll noted _
  exact wellKeyed_delete (wellKeyed_edit cleaned _ gentle_withoutOwnFinalizer.keepsKey) _

@[simp] theorem triggered_letGo : (s.letGo t c).triggered = s.triggered := by
  simp [letGo, cleanup]

end Session

/-! ### Whole passes -/

namespace Reconcile

/-- All that destroying can come to. -/
theorem destroy_cases (settings : Settings) (resolve : Resolver) (keyed : s.store.WellKeyed) :
    Changes (.of settings c) (Target.Touches (.of settings c) c) s
      ((destroy settings resolve (.of settings c) c).on s).2 ∨
    hasOwnFinalizer c = true ∧ MayGo settings resolve c s ∧
      ∃ s₁, Changes (.of settings c) (Target.Touches (.of settings c) c) s s₁ ∧
        ((destroy settings resolve (.of settings c) c).on s).2 = s₁.letGo (.of settings c) c := by
  have changes : Changes (.of settings c) (Target.Touches (.of settings c) c) s
      ((destroyResources settings resolve (.of settings c) c).on s).2 :=
    within_destroyResources s keyed
  rw [on_destroy keyed]
  split
  · exact .inl .refl
  rename_i own
  have own : hasOwnFinalizer c = true := by simpa using own
  split
  · rcases ran : (destroyResources settings resolve (.of settings c) c).on s with ⟨answer, s'⟩
    rw [ran] at changes
    cases answer with
    | error e => exact .inl changes
    | ok _ =>
      exact .inr ⟨own, .inr (.inr (destroyed_of_destroyResources keyed ran)), s', changes, rfl⟩
  · rename_i free
    refine .inr ⟨own, ?_, s, .refl, rfl⟩
    cases kept : (Target.of settings c).deleteResource with
    | false => exact .inl kept
    | true =>
      rw [kept] at free
      refine .inr (.inl ?_)
      rw [keyed.isDeletable]
      simpa using free

theorem hasOwnFinalizer_withOwnFinalizer (c : Configuration) :
    hasOwnFinalizer (withOwnFinalizer c) = true := by
  unfold withOwnFinalizer
  split
  · assumption
  · simp [hasOwnFinalizer, Metadata.finalizerList]

/-- Holding a configuration edits it unless it is held already. -/
theorem on_ensureFinalizer (keyed : s.store.WellKeyed)
    (placed : (Resource.wrap c).key? = some t.key) :
    (ensureFinalizer c).on s =
      (.ok (), if hasOwnFinalizer c then s else s.edit t.key withOwnFinalizer) := by
  have kind : t.key.kind = Resource.kind Configuration := rfl
  obtain ⟨found, edited⟩ := Pass.on_updateWith keyed kind withOwnFinalizer
  unfold ensureFinalizer Pass.keyOf
  cases hasOwnFinalizer c with
  | true => rfl
  | false =>
    change Object.key? (.configuration c) = some t.key at placed
    rw [placed]
    change (Pass.updateWith t.key withOwnFinalizer >>= fun _ => pure ()).on s = _
    rw [Pass.on_bind, edited]
    rfl

/-- Making sure of the finalizer leaves the configuration there, held by it. -/
theorem held_ensureFinalizer (keyed : s.store.WellKeyed)
    (placed : (Resource.wrap c).key? = some t.key)
    (held : s.store.read Configuration t.key = some c) :
    ∃ c', ((ensureFinalizer c).on s).2.store.read Configuration t.key = some c' ∧
      c.Continues c' ∧ hasOwnFinalizer c' = true ∧
      (c.metadata.generation.isSome → c'.metadata.generation.isSome) := by
  rw [on_ensureFinalizer keyed placed]
  cases own : hasOwnFinalizer c with
  | true => exact ⟨c, held, .refl c, own, id⟩
  | false =>
    obtain ⟨c₁, found, continues⟩ := note_withOwnFinalizer.read_edit held
    obtain ⟨c₂, found', metadata, told, -⟩ := Configuration.read_edit note_withOwnFinalizer.gentle
      (note_withOwnFinalizer.spec c) held
    cases found.symm.trans found'
    refine ⟨c₁, found, continues, ?_, fun _ => told⟩
    have added := hasOwnFinalizer_withOwnFinalizer c
    unfold hasOwnFinalizer Metadata.finalizerList at added ⊢
    rwa [metadata]

/-- A pass over an active configuration leaves it there, held by the finalizer of this library. -/
theorem held_apply (settings : Settings) (resolve : Resolver) (keyed : s.store.WellKeyed)
    (placed : (Resource.wrap c).key? = some t.key)
    (held : s.store.read Configuration t.key = some c) :
    ∃ c', ((apply settings resolve t c).on s).2.store.read Configuration t.key = some c' ∧
      c.Continues c' ∧ hasOwnFinalizer c' = true := by
  have first := on_ensureFinalizer keyed placed
  obtain ⟨c₁, found, continues, own, -⟩ := held_ensureFinalizer keyed placed held
  have keyed₁ := (within_ensureFinalizer placed s keyed).wellKeyed keyed
  have rest : Changes t (t.Touches c) ((ensureFinalizer c).on s).2
      ((apply settings resolve t c).on s).2 := by
    have second := within_applyHeld (t := t) (c := c) settings resolve _ keyed₁
    unfold apply
    rw [Pass.on_bind]
    rw [first] at second ⊢
    exact second
  obtain ⟨c₂, found₂, further⟩ := rest.configuration Target.Touches.apart found
  exact ⟨c₂, found₂, continues.trans further, further.held own⟩

/-- What a pass answers when its failure is only that a job still runs. -/
def answer (answered : Except Error Outcome) : Except Error Outcome :=
  match answered with
  | .error e => if e.isPending then .ok (.after Outcome.delay) else .error e
  | .ok o => .ok o

/-- A pass over a configuration that is found pursues it. -/
theorem on_configurationPass_of_read
    (held : s.store.read Configuration (request.key .configuration) = some c) :
    (configurationPass settings resolve request).on s =
      (answer ((pursue settings resolve c).on s).1, ((pursue settings resolve c).on s).2) := by
  unfold configurationPass answer
  rw [Pass.on_bind, Pass.on_find, Store.find_of_read rfl held]
  simp only
  rw [Pass.on_tryCatch]
  rcases (pursue settings resolve c).on s with ⟨e | o, s'⟩
  · simp only
    split <;> rfl
  · rfl

theorem on_configurationPass (keyed : s.store.WellKeyed) (request : Request) :
    (configurationPass settings resolve request).on s =
      match s.store.read Configuration (request.key .configuration) with
      | none => (.ok .done, s)
      | some c => (answer ((pursue settings resolve c).on s).1, ((pursue settings resolve c).on s).2)
      := by
  cases held : s.store.read Configuration (request.key .configuration) with
  | none =>
    unfold configurationPass
    rw [Pass.on_bind, Pass.on_find, keyed.find rfl, held]
    rfl
  | some c => exact on_configurationPass_of_read held

theorem on_activePass (keyed : s.store.WellKeyed)
    (held : s.store.read Configuration (request.key .configuration) = some c)
    (active : c.metadata.lifecycle = .active) :
    (configurationPass settings resolve request).on s =
      (answer ((apply settings resolve (.of settings c) c).on s).1,
        ((apply settings resolve (.of settings c) c).on s).2) := by
  rw [on_configurationPass keyed, held]
  simp only [pursue, active]

theorem on_terminatingPass (keyed : s.store.WellKeyed)
    (held : s.store.read Configuration (request.key .configuration) = some c)
    (terminating : c.metadata.lifecycle = .terminating) :
    (configurationPass settings resolve request).on s =
      (answer ((destroy settings resolve (.of settings c) c).on s).1,
        ((destroy settings resolve (.of settings c) c).on s).2) := by
  rw [on_configurationPass keyed, held]
  simp only [pursue, terminating]

/-- All that a pass over a configuration can come to. -/
theorem configurationPass_cases (settings : Settings) (resolve : Resolver)
    (keyed : s.store.WellKeyed)
    (held : s.store.read Configuration (request.key .configuration) = some c) :
    Changes (.of settings c) (Target.Touches (.of settings c) c) s
      ((configurationPass settings resolve request).on s).2 ∨
    c.metadata.lifecycle = .terminating ∧ hasOwnFinalizer c = true ∧
      MayGo settings resolve c s ∧
      ∃ s₁, Changes (.of settings c) (Target.Touches (.of settings c) c) s s₁ ∧
        ((configurationPass settings resolve request).on s).2 = s₁.letGo (.of settings c) c := by
  have placed := keyed.placed held
  cases lifecycle : c.metadata.lifecycle with
  | active =>
    rw [on_activePass keyed held lifecycle]
    refine .inl (within_apply ?_ s keyed)
    rw [Target.key_of placed, placed]
  | terminating =>
    rw [on_terminatingPass keyed held lifecycle]
    rcases destroy_cases settings resolve keyed with changes | ⟨own, mayGo, gone⟩
    · exact .inl changes
    · exact .inr ⟨rfl, own, mayGo, gone⟩

/-- The status that a pass over a provider notes. -/
def withProviderStatus (state : Provider.State) (message : String) (p : Provider) : Provider :=
  { p with status := some ⟨state, message⟩ }

theorem gentle_withProviderStatus (state : Provider.State) (message : String) :
    Gentle (withProviderStatus state message) :=
  ⟨fun _ => rfl, fun _ => rfl⟩

/-- What a pass over a provider notes when its credentials were asked for. -/
def readiness : Except Error (Dict String String) → Provider.State × String
  | .ok _ => (.ready, "")
  | .error e => (.notReady, e.message)

theorem on_setProviderStatus (state : Provider.State) (message : String) :
    (setProviderStatus (request.key .provider) state message).on s =
      (.ok (), s.edit (request.key .provider) (withProviderStatus state message)) :=
  Pass.on_attempt_updateWith rfl _

theorem on_providerPass (resolve : Resolver) (keyed : s.store.WellKeyed) (request : Request) :
    (providerPass resolve request).on s =
      match s.store.read Provider (request.key .provider) with
      | none => (.ok .done, s)
      | some p =>
        let answered := resolve s.store p (p.spec.region.getD "")
        (answered.map fun _ => .done,
          s.edit (request.key .provider)
            (withProviderStatus (readiness answered).1 (readiness answered).2)) := by
  unfold providerPass
  rw [Pass.on_bind, Pass.on_find, keyed.find rfl]
  cases s.store.read Provider (request.key .provider) with
  | none => rfl
  | some p =>
    simp only
    rw [Pass.on_bind, Pass.on_get]
    simp only
    cases resolve s.store p (p.spec.region.getD "") with
    | ok env =>
      rw [Pass.on_bind, on_setProviderStatus]
      rfl
    | error e =>
      simp only
      rw [Pass.on_bind, on_setProviderStatus]
      rfl

/-- A pass over a provider notes how its credentials were found, and nothing else. -/
theorem providerPass_cases (resolve : Resolver) (keyed : s.store.WellKeyed) (request : Request) :
    ((providerPass resolve request).on s).2 = s ∨
    ∃ state message, ((providerPass resolve request).on s).2 =
      s.edit (request.key .provider) (withProviderStatus state message) := by
  rw [on_providerPass resolve keyed]
  cases s.store.read Provider (request.key .provider) with
  | none => exact .inl rfl
  | some p => exact .inr ⟨_, _, rfl⟩

end Reconcile

namespace Provider

variable {p : Provider}

/-- The provider with its generation told. -/
def counted (p : Provider) : Provider :=
  { p with metadata := { p.metadata with generation := some (p.metadata.generation.getD 1) } }

theorem counted_of_told (told : p.metadata.generation.isSome) : p.counted = p := by
  obtain ⟨g, here⟩ := Option.isSome_iff_exists.mp told
  unfold counted
  rw [here, Option.getD_some, ← here]

/-- What a note leaves under the key of a provider: the provider with the status that was noted, its
generation told. -/
theorem read_noted (state : State) (message : String) (held : s.store.read Provider key = some p) :
    (s.edit key (withProviderStatus state message)).store.read Provider key =
      some { p.counted with status := some ⟨state, message⟩ } := by
  rcases Session.edit_cases (gentle_withProviderStatus state message) held with
    ⟨stays, alike⟩ | replaced
  · have generation := Object.generation_of_same alike
    have told : p.metadata.generation.isSome := by
      rw [Object.counted, Object.metadata_withMetadata] at generation
      exact generation ▸ rfl
    have status : some ⟨state, message⟩ = p.status := status_of_same alike
    rw [stays, held, counted_of_told told, status]
  · rw [replaced]
    exact Store.read_eq_some_iff.mpr ((Session.get?_put _ _ _ _).trans (if_pos rfl))

end Provider

/-! ### Everything else -/

theorem Request.key_injective {r r' : Request} {kind : Kind} (same : r.key kind = r'.key kind) :
    r = r' := by
  cases r
  cases r'
  cases same
  rfl

namespace Session

/-- A pass leaves everything alone that is neither the configuration nor made for it. -/
theorem get?_configurationPass (settings : Settings) (resolve : Resolver)
    (keyed : s.store.WellKeyed) (other : key ≠ request.key .configuration)
    (foreign : ∀ c, s.store.read Configuration (request.key .configuration) = some c →
      ¬ (Target.of settings c).Touches c key ∧ key ∉ generatedKeys (.of settings c)) :
    ((configurationPass settings resolve request).on s).2.store.get? key = s.store.get? key := by
  cases held : s.store.read Configuration (request.key .configuration) with
  | none =>
    rw [on_configurationPass keyed, held]
  | some c =>
    obtain ⟨untouched, kept⟩ := foreign c held
    rw [← (Target.key_of (keyed.placed held) : (Target.of settings c).key = _)] at other
    rcases configurationPass_cases settings resolve keyed held with
      changes | ⟨-, -, -, s₁, changes, gone⟩
    · exact changes.get? other untouched
    · rw [gone, get?_letGo other kept, changes.get? other untouched]
      exact fun ns name asked here => untouched (.connection ⟨ns, name, asked, here⟩)

/-- A pass leaves all other configurations and every provider as they are. -/
theorem get?_configurationPass_of_kind (keyed : s.store.WellKeyed)
    (other : key ≠ request.key .configuration)
    (kind : key.kind = .configuration ∨ key.kind = .provider) :
    ((configurationPass settings resolve request).on s).2.store.get? key = s.store.get? key := by
  refine get?_configurationPass settings resolve keyed other fun c _ => ⟨fun touched => ?_, ?_⟩
  · exact kind.elim touched.not_configuration touched.not_provider
  · intro generated
    simp only [generatedKeys, List.mem_cons, List.not_mem_nil, or_false] at generated
    rcases generated with rfl | rfl | rfl | rfl | rfl <;> exact kind.elim nofun nofun

theorem get?_providerPass (keyed : s.store.WellKeyed) (kind : key.kind ≠ .provider) :
    ((providerPass resolve request).on s).2.store.get? key = s.store.get? key := by
  rcases providerPass_cases resolve keyed request with same | ⟨state, message, noted⟩
  · rw [same]
  · rw [noted]
    exact get?_edit_of_ne _ _ fun here => kind (here ▸ rfl)

end Session

end Provisioner
