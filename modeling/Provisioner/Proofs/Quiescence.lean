import Mathlib.Order.OrderIsoNat
import Provisioner.Proofs.DestroyNotices
import Provisioner.Proofs.FixedPoint

/-!
Quiescence of passes over a configuration that waits to go. How often passes can still change it is
bounded by a number that is read off the store (`changesLeft`), and each pass calms: it lowers that
number, or leaves the configuration as it was. So only finitely many passes change what is stored of
it. A pass that leaves it as it was says nothing, unless the destroy job has failed: then the pass
tells two notices, and so calls for the next passes for ever.
-/

namespace Provisioner

open Reconcile
open Executor (Inputs Progress Report)

variable {s s' : Session} {t : Target} {c c' : Configuration} {key : ObjectKey}
  {settings : Settings} {resolve : Resolver} {request : Request}

/-! ### Why inputs cannot be prepared -/

/-- A resolver that looks at nothing in the store but secrets. -/
def Resolver.ReadsSecrets (resolve : Resolver) : Prop :=
  ∀ (s s' : Store) (p : Provider) (region : String),
    (∀ key : ObjectKey, key.kind = .secret → s'.get? key = s.get? key) →
      resolve s' p region = resolve s p region

theorem Provider.readsSecrets_resolve : Resolver.ReadsSecrets Provider.resolve := by
  intro s s' p region same
  exact resolve_congr (fun key kept => same key (kind_of_credentialKey kept)) region

/-- What is resolved depends on the provider and on secrets. -/
theorem Resolver.ReadsSecrets.resolveCredentials {s s' : Store} (reads : resolve.ReadsSecrets)
    (provider : s'.get? c.providerKey = s.get? c.providerKey)
    (secrets : ∀ key : ObjectKey, key.kind = .secret → s'.get? key = s.get? key) :
    resolveCredentials resolve c s' = resolveCredentials resolve c s := by
  have found : s'.findNamed Provider c.providerReference.1 c.providerReference.2 =
      s.findNamed Provider c.providerReference.1 c.providerReference.2 := Store.find_congr provider
  have same := fun p region => reads s s' p region secrets
  unfold Reconcile.resolveCredentials
  simp only [found, same]

namespace Store

/-- Why the inputs of a job cannot be prepared, if they cannot. -/
def refusal (resolve : Resolver) (t : Target) (c : Configuration) (s : Store) : Option Error :=
  match bundle t c with
  | .error e => some e
  | .ok _ =>
    match resolveCredentials resolve c s with
    | .error e => some e
    | .ok _ => none

theorem refusal_congr {s s' : Store} (reads : resolve.ReadsSecrets) (alike : c.Alike c')
    (kept : ∀ key : ObjectKey, key.kind = .provider ∨ key.kind = .secret →
      s'.get? key = s.get? key) :
    s'.refusal resolve t c' = s.refusal resolve t c := by
  have same := reads.resolveCredentials (c := c) (kept _ (.inl rfl)) fun key kind =>
    kept key (.inr kind)
  unfold refusal
  rw [alike.bundle, alike.resolveCredentials, same]

end Store

/-- Preparing inputs fails just where they are refused. -/
theorem Reconcile.refusal_eq (reads : resolve.ReadsSecrets) (keyed : s.store.WellKeyed) :
    s.store.refusal resolve t c = match ((prepare resolve t c).on s).1 with
      | .error e => some e
      | .ok _ => none := by
  unfold Store.refusal
  rw [on_prepare keyed]
  cases bundled : bundle t c with
  | error e => rfl
  | ok b =>
    have kept : ∀ key : ObjectKey, key.kind ≠ .configMap →
        (s.keep t b).store.get? key = s.store.get? key := by
      intro key other
      refine Session.get?_write_of_ne _ _ fun here => ?_
      subst here
      exact other rfl
    have same := reads.resolveCredentials (c := c) (kept c.providerKey nofun) fun key kind =>
      kept key (by rw [kind]; nofun)
    simp only [same]
    cases resolveCredentials resolve c s.store with
    | error e => rfl
    | ok credentials =>
      obtain ⟨env, settled⟩ := environment_of_bundle bundled credentials
      simp only [settled]

/-- Where a destroy job has been looked at, its inputs were not refused. -/
theorem Reconcile.refusal_of_report {r : Report} (reads : resolve.ReadsSecrets)
    (keyed : s.store.WellKeyed) (target : Target.of settings c = t)
    (found : s.destroyReport settings resolve c = some r) : s.store.refusal resolve t c = none := by
  rw [refusal_eq reads keyed]
  unfold Session.destroyReport at found
  rw [target] at found
  simp only at found
  rcases ran : (prepare resolve t c).on s with ⟨e | i, s₁⟩
  · rw [ran] at found
    cases found
  · rfl

/-! ### How far a configuration is from rest -/

/-- Whether a state and message of destroying are told already, and the generation with them. -/
def Configuration.tells (c : Configuration) (state : Configuration.State) (message : String) :
    Bool :=
  c.metadata.generation.isSome && c.status.map (·.destroy) = some ⟨some state, message⟩

theorem Configuration.withDestroyStatus_of_tells {state : Configuration.State} {message : String}
    (told : c.tells state message = true) : withDestroyStatus state message c = c := by
  unfold tells at told
  simp only [Bool.and_eq_true, decide_eq_true_eq] at told
  obtain ⟨-, told⟩ := told
  obtain ⟨metadata, spec, status⟩ := c
  cases status with
  | none => cases told
  | some status =>
    simp only [Option.map_some, Option.some.injEq] at told
    simp only [withDestroyStatus, Configuration.statusOrDefault, Option.getD_some, ← told]

/-- How often passes over a configuration that waits to go can still change it, at most: once to let
it go, and once for each thing that they may come to note, which is that the destroy job has failed,
then that it is at work again, then that its inputs cannot be prepared. -/
def Store.changesLeft (settings : Settings) (resolve : Resolver) (s : Store) (c : Configuration) :
    Nat :=
  let t := Target.of settings c
  if hasOwnFinalizer c = false then 0
  else if s.mustDestroy settings c = false then 1
  else
    match s.refusal resolve t c with
    | some e => if c.tells .destroyFailed e.message then 0 else 1
    | none =>
      match s.report (t.jobKey .destroy) with
      | ⟨.provisioning, _⟩ =>
        if c.tells .destroying "Cloud resources are being destroyed..." then 1 else 2
      | ⟨.succeeded, _⟩ => 2
      | ⟨_, message⟩ => if c.tells .destroyFailed message then 2 else 3

namespace Store

variable {store : Store}

theorem changesLeft_pos (pending : store.mustDestroy settings c = false)
    (own : hasOwnFinalizer c = true) : store.changesLeft settings resolve c = 1 := by
  unfold changesLeft
  simp [own, pending]

theorem hasOwnFinalizer_of_mustDestroy (pending : store.mustDestroy settings c = true) :
    hasOwnFinalizer c = true := by
  unfold mustDestroy at pending
  exact (Bool.and_eq_true_iff.mp pending).1

section

variable (target : Target.of settings c = t)
include target

/-- What can still be noted where the inputs are refused. -/
theorem changesLeft_of_refusal {e : Error} (pending : store.mustDestroy settings c = true)
    (refused : store.refusal resolve t c = some e) :
    store.changesLeft settings resolve c = if c.tells .destroyFailed e.message then 0 else 1 := by
  unfold changesLeft
  simp [hasOwnFinalizer_of_mustDestroy pending, pending, target, refused]

/-- What can still be noted where the inputs can be prepared. -/
theorem changesLeft_of_report (pending : store.mustDestroy settings c = true)
    (prepared : store.refusal resolve t c = none) :
    store.changesLeft settings resolve c =
      match store.report (t.jobKey .destroy) with
      | ⟨.provisioning, _⟩ =>
        if c.tells .destroying "Cloud resources are being destroyed..." then 1 else 2
      | ⟨.succeeded, _⟩ => 2
      | ⟨_, message⟩ => if c.tells .destroyFailed message then 2 else 3 := by
  unfold changesLeft
  simp [hasOwnFinalizer_of_mustDestroy pending, pending, target, prepared]

/-- After the job was noted to be at work only a refusal can still be noted. -/
theorem changesLeft_of_running (resolve : Resolver)
    (told : c.tells .destroying "Cloud resources are being destroyed..." = true)
    (report : (store.report (t.jobKey .destroy)).progress = .provisioning) :
    store.changesLeft settings resolve c ≤ 1 := by
  unfold changesLeft
  simp only [target]
  generalize store.report (t.jobKey .destroy) = r at report ⊢
  obtain ⟨progress, message⟩ := r
  cases report
  simp only [told, if_true]
  repeat' split
  all_goals omega

/-- After the job was noted to have failed, a new job or a refusal can still be noted. -/
theorem changesLeft_of_failed {r : Report} (resolve : Resolver)
    (told : c.tells .destroyFailed r.message = true)
    (report : store.report (t.jobKey .destroy) = r) (bad : r.progress.failureState.isSome) :
    store.changesLeft settings resolve c ≤ 2 := by
  unfold changesLeft
  simp only [target, report]
  obtain ⟨progress, message⟩ := r
  cases progress with
  | provisioning | succeeded => cases bad
  | initError | applyError | invalidRegion =>
    simp only [told, if_true]
    repeat' split
    all_goals omega

end

end Store

/-! ### Single passes -/

/-- What a note on destroying leaves: the same configuration, which tells the note. -/
theorem Session.read_destroyNoted (state : Configuration.State) (message : String)
    (held : s.store.read Configuration key = some c) :
    ∃ c', (s.edit key (withDestroyStatus state message)).store.read Configuration key = some c' ∧
      c.Continues c' ∧ c'.tells state message = true ∧ c'.applyState = c.applyState := by
  have note := note_withDestroyStatus state message
  obtain ⟨c₁, found, -, generation, -, status⟩ :=
    Configuration.read_edit note.gentle (note.spec c) held
  obtain ⟨c₂, found', continues⟩ := note.read_edit held
  cases found.symm.trans found'
  refine ⟨c₁, found, continues, ?_, ?_⟩
  · unfold Configuration.tells
    rw [generation, status]
    simp [withDestroyStatus]
  · unfold Configuration.applyState
    rw [status]
    cases noted : c.status <;> simp [withDestroyStatus, Configuration.statusOrDefault, noted]

theorem Session.read_withDestroying (held : s.store.read Configuration key = some c) :
    ∃ c', (s.edit key withDestroying).store.read Configuration key = some c' ∧ c.Continues c' ∧
      c'.tells .destroying "Cloud resources are being destroyed..." = true := by
  obtain ⟨c', found, continues, told, -⟩ := read_destroyNoted _ _ held
  exact ⟨c', found, continues, told⟩

/-- A configuration that has to be destroyed still has to be after a note, if its provider is the
same. -/
theorem Store.mustDestroy_of_noted {store store' : Store} (continues : c.Continues c')
    (applied : c'.applyState = c.applyState)
    (provider : store'.get? c.providerKey = store.get? c.providerKey)
    (pending : store.mustDestroy settings c = true) : store'.mustDestroy settings c' = true := by
  have own := continues.held (hasOwnFinalizer_of_mustDestroy pending)
  have key : c'.providerKey = c.providerKey := by
    unfold Configuration.providerKey Configuration.providerReference
    rw [continues.spec]
  have owned := hasOwnFinalizer_of_mustDestroy pending
  unfold mustDestroy Store.deletable at pending ⊢
  rw [continues.alike.target, key, applied, own, read_congr provider]
  rw [owned] at pending
  exact pending

/-- How often passes can still change what is under the key of a request, if it is a configuration
that waits to go. -/
def Store.changesLeftAt (settings : Settings) (resolve : Resolver) (s : Store) (key : ObjectKey) :
    Nat :=
  (s.read Configuration key).elim 0 (s.changesLeft settings resolve)

theorem Store.changesLeftAt_eq {store : Store} (held : store.read Configuration key = some c) :
    store.changesLeftAt settings resolve key = store.changesLeft settings resolve c := by
  unfold changesLeftAt
  rw [held]
  rfl

/-- A note that is told already leaves the configuration as it is. -/
theorem Session.get?_edit_of_tells {state : Configuration.State} {message : String}
    (told : c.tells state message = true) (held : s.store.read Configuration key = some c) :
    (s.edit key (withDestroyStatus state message)).store.get? key = s.store.get? key := by
  have generation : c.metadata.generation.isSome := (Bool.and_eq_true_iff.mp told).1
  have left := read_edit_told (note_withDestroyStatus state message).gentle rfl generation held
  rw [Configuration.withDestroyStatus_of_tells told] at left
  rw [Store.read_eq_some_iff.mp left, Store.read_eq_some_iff.mp held]

/-- A failure that is told already leaves the configuration as it is, though it is noted in between
that the job is at work. -/
theorem Session.get?_edit_of_tells_failed {message : String}
    (told : c.tells .destroyFailed message = true)
    (held : s.store.read Configuration key = some c) :
    ((s.edit key withDestroying).edit key (withDestroyStatus .destroyFailed message)).store.get?
      key = s.store.get? key := by
  have generation : c.metadata.generation.isSome := (Bool.and_eq_true_iff.mp told).1
  have back : withDestroyStatus .destroyFailed message (withDestroying c) = c :=
    Configuration.withDestroyStatus_of_tells told
  exact get?_edit_edit note_withDestroying.gentle (note_withDestroyStatus _ _).gentle
    (fun _ => rfl) (fun _ => rfl) generation back held

/-- Nothing can change any more once a configuration has been let go. -/
theorem changesLeftAt_letGo {c₀ : Configuration}
    (held : s.store.read Configuration t.key = some c₀) :
    (s.letGo t c).store.changesLeftAt settings resolve t.key = 0 := by
  rcases Session.letGo_cases (c := c) held with ⟨-, gone⟩ | ⟨-, c', left, free, -⟩
  · unfold Store.changesLeftAt Store.read
    rw [gone]
    rfl
  · rw [Store.changesLeftAt_eq (Store.read_eq_some_iff.mpr left)]
    unfold Store.changesLeft
    simp [free]

/-- Something can still change while a configuration waits to be let go. -/
theorem changesLeft_of_prepared {store : Store} (resolve : Resolver)
    (target : Target.of settings c = t)
    (own : hasOwnFinalizer c = true)
    (prepared : store.mustDestroy settings c = true → store.refusal resolve t c = none) :
    1 ≤ store.changesLeft settings resolve c := by
  cases pending : store.mustDestroy settings c with
  | false => exact Nat.le_of_eq (Store.changesLeft_pos pending own).symm
  | true =>
    rw [Store.changesLeft_of_report target pending (prepared pending)]
    repeat' split
    all_goals omega

/-- Between two stores less is left to change of what is under a key, or not more and it is as it
was. -/
def Store.Calms (settings : Settings) (resolve : Resolver) (key : ObjectKey) (s s' : Store) : Prop :=
  s'.changesLeftAt settings resolve key < s.changesLeftAt settings resolve key ∨
    s'.changesLeftAt settings resolve key ≤ s.changesLeftAt settings resolve key ∧
      s'.get? key = s.get? key

namespace Store.Calms

variable {store store' : Store}

theorem of_same (same : store' = store) : Calms settings resolve key store store' :=
  .inr (same ▸ ⟨Nat.le_refl _, rfl⟩)

theorem le (calms : Calms settings resolve key store store') :
    store'.changesLeftAt settings resolve key ≤ store.changesLeftAt settings resolve key :=
  calms.elim Nat.le_of_lt (·.1)

theorem get? (calms : Calms settings resolve key store store')
    (same : store'.changesLeftAt settings resolve key = store.changesLeftAt settings resolve key) :
    store'.get? key = store.get? key :=
  calms.elim (fun less => absurd same (Nat.ne_of_lt less)) (·.2)

end Store.Calms

section

variable (reads : resolve.ReadsSecrets) (keyed : s.store.WellKeyed)
  (target : Target.of settings c = t) (held : s.store.read Configuration t.key = some c)
include reads keyed target held

/-- Where a configuration can be let go, nothing is left to change of it afterwards. -/
theorem calms_letGo {c₀ : Configuration} (own : hasOwnFinalizer c = true)
    (held' : s'.store.read Configuration t.key = some c₀)
    (done : s.store.mustDestroy settings c = true →
      ∃ r, s.destroyReport settings resolve c = some r ∧ r.progress = .succeeded) :
    s.store.Calms settings resolve t.key (s'.letGo t c).store := by
  refine .inl ?_
  rw [changesLeftAt_letGo held', Store.changesLeftAt_eq held]
  refine changesLeft_of_prepared resolve target own fun pending => ?_
  obtain ⟨r, found, -⟩ := done pending
  exact refusal_of_report reads keyed target found

/-- After a refusal was noted the same refusal is all that can come. -/
theorem calms_refused {e : Error} (pending : s.store.mustDestroy settings c = true)
    (answered : ((prepare resolve t c).on s).1 = .error e)
    (kept : ∀ key, key.kind ≠ .configMap → s'.store.get? key = s.store.get? key) :
    s.store.Calms settings resolve t.key
      (s'.edit t.key (withDestroyStatus .destroyFailed e.message)).store := by
  have held₁ := (Store.read_congr (τ := Configuration) (kept t.key nofun)).trans held
  obtain ⟨c', found, continues, told, applied⟩ :=
    Session.read_destroyNoted .destroyFailed e.message held₁
  have others : ∀ key : ObjectKey, key.kind = .provider ∨ key.kind = .secret →
      (s'.edit t.key (withDestroyStatus .destroyFailed e.message)).store.get? key =
        s.store.get? key := by
    rintro key kinds
    refine (Session.get?_edit_of_ne _ _ ?_).trans (kept key ?_)
    · rintro rfl
      rcases kinds with kind | kind <;> cases kind
    · rcases kinds with kind | kind <;> rw [kind] <;> nofun
  have refused : s.store.refusal resolve t c = some e := by
    rw [refusal_eq reads keyed, answered]
  have still := (Store.refusal_congr (t := t) reads continues.alike others).trans refused
  have pending' := Store.mustDestroy_of_noted continues applied
    (others c.providerKey (.inl rfl)) pending
  have after := Store.changesLeft_of_refusal ((continues.alike.target settings).trans target)
    pending' still
  have before := Store.changesLeft_of_refusal target pending refused
  rw [if_pos told, ← Store.changesLeftAt_eq found] at after
  rw [← Store.changesLeftAt_eq held] at before
  cases known : c.tells .destroyFailed e.message with
  | true =>
    refine .inr ⟨by rw [after]; exact Nat.zero_le _, ?_⟩
    exact (Session.get?_edit_of_tells known held₁).trans (kept t.key nofun)
  | false =>
    rw [known] at before
    refine .inl ?_
    rw [after, before]
    decide

/-- After the job was noted to be at work, only a refusal can still come. -/
theorem calms_running {r : Report} (pending : s.store.mustDestroy settings c = true)
    (seen : s.destroyReport settings resolve c = some r) (working : r.progress = .provisioning)
    (kept : s'.store.get? t.key = s.store.get? t.key)
    (report : s'.store.report (t.jobKey .destroy) = r) :
    s.store.Calms settings resolve t.key (s'.edit t.key withDestroying).store := by
  have prepared := refusal_of_report reads keyed target seen
  have held₁ := (Store.read_congr (τ := Configuration) kept).trans held
  obtain ⟨c', found, continues, told⟩ := Session.read_withDestroying held₁
  have target' := (continues.alike.target settings).trans target
  have report' : ((s'.edit t.key withDestroying).store.report (t.jobKey .destroy)).progress =
      .provisioning := by
    rw [Store.report_congr (Session.get?_edit_of_ne _ _ (by nofun)), report, working]
  have after := Store.changesLeft_of_running target' resolve told report'
  rw [← Store.changesLeftAt_eq found] at after
  unfold Store.Calms
  rw [Store.changesLeftAt_eq held]
  cases known : c.tells .destroying "Cloud resources are being destroyed..." with
  | true =>
    have some := changesLeft_of_prepared resolve target
      (Store.hasOwnFinalizer_of_mustDestroy pending) fun _ => prepared
    exact .inr ⟨Nat.le_trans after some, (Session.get?_edit_of_tells known held₁).trans kept⟩
  | false =>
    refine .inl (Nat.lt_of_le_of_lt after ?_)
    rw [Store.changesLeft_of_report target pending prepared, known]
    repeat' split
    all_goals first | decide | contradiction

/-- After the job was noted to have failed, a new job or a refusal can still come. -/
theorem calms_failed {r : Report} (pending : s.store.mustDestroy settings c = true)
    (seen : s.destroyReport settings resolve c = some r) (bad : r.progress.failureState.isSome)
    (kept : s'.store.get? t.key = s.store.get? t.key)
    (report : s'.store.report (t.jobKey .destroy) = r)
    (before : s.store.report (t.jobKey .destroy) = r) :
    s.store.Calms settings resolve t.key ((s'.edit t.key withDestroying).edit t.key
      (withDestroyStatus .destroyFailed r.message)).store := by
  have held₁ := (Store.read_congr (τ := Configuration) kept).trans held
  obtain ⟨c₁, found₁, continues₁, -⟩ := Session.read_withDestroying held₁
  obtain ⟨c', found, continues, told, -⟩ :=
    Session.read_destroyNoted .destroyFailed r.message found₁
  have target' := ((continues₁.trans continues).alike.target settings).trans target
  have report' : ((s'.edit t.key withDestroying).edit t.key
      (withDestroyStatus .destroyFailed r.message)).store.report (t.jobKey .destroy) = r := by
    rw [Store.report_congr (Session.get?_edit_of_ne _ _ (by nofun)),
      Store.report_congr (Session.get?_edit_of_ne _ _ (by nofun)), report]
  have after := Store.changesLeft_of_failed target' resolve told report' bad
  rw [← Store.changesLeftAt_eq found] at after
  have now := Store.changesLeft_of_report target pending (refusal_of_report reads keyed target seen)
  have two : s.store.changesLeft settings resolve c =
      if c.tells .destroyFailed r.message then 2 else 3 := by
    rw [before] at now
    obtain ⟨progress, message⟩ := r
    cases progress with
    | provisioning | succeeded => cases bad
    | initError | applyError | invalidRegion => exact now
  rw [← Store.changesLeftAt_eq held] at two
  cases known : c.tells .destroyFailed r.message with
  | true =>
    rw [known] at two
    exact .inr ⟨two ▸ after, (Session.get?_edit_of_tells_failed known held₁).trans kept⟩
  | false =>
    refine .inl (Nat.lt_of_le_of_lt after ?_)
    rw [two, known]
    decide

/-- Destroying calms: whatever it comes to, less can change afterwards, or the configuration was
left as it was found. -/
theorem calms_destroy :
    s.store.Calms settings resolve t.key ((destroy settings resolve t c).on s).2.store := by
  have outcome := destroy_outcomes settings resolve keyed target held
  generalize ((destroy settings resolve t c).on s).2 = s' at outcome
  cases outcome with
  | free own => exact .of_same rfl
  | letGo own held' done => exact calms_letGo reads keyed target held own held' done
  | refused pending answered unknown quiet kept =>
    exact calms_refused reads keyed target held pending answered kept
  | running pending seen working quiet kept report =>
    exact calms_running reads keyed target held pending seen working kept report
  | failed pending seen bad quiet kept report before =>
    exact calms_failed reads keyed target held pending seen bad kept report before

end

/-- What is noted of a destroy job that a pass has looked at is what was told before if the
configuration tells the report. -/
theorem get?_destroy_of_tells {r : Report} (keyed : s.store.WellKeyed)
    (target : Target.of settings c = t) (held : s.store.read Configuration t.key = some c)
    (pending : s.store.mustDestroy settings c = true)
    (seen : s.destroyReport settings resolve c = some r) (unfinished : r.progress ≠ .succeeded)
    (told : if r.progress.failureState.isSome then c.tells .destroyFailed r.message = true
      else c.tells .destroying "Cloud resources are being destroyed..." = true) :
    ((destroy settings resolve t c).on s).2.store.get? t.key = s.store.get? t.key := by
  have outcome := destroy_outcomes settings resolve keyed target held
  generalize ((destroy settings resolve t c).on s).2 = s' at outcome ⊢
  cases outcome with
  | free own => rfl
  | letGo own held' done =>
    obtain ⟨r', found, succeeded⟩ := done pending
    cases found.symm.trans seen
    exact absurd succeeded unfinished
  | refused pending answered unknown quiet kept => cases unknown.symm.trans seen
  | running pending found working quiet kept report =>
    cases found.symm.trans seen
    have held₁ := (Store.read_congr (τ := Configuration) kept).trans held
    rw [working] at told
    exact (Session.get?_edit_of_tells told held₁).trans kept
  | failed pending found bad quiet kept report before =>
    cases found.symm.trans seen
    have held₁ := (Store.read_congr (τ := Configuration) kept).trans held
    rw [if_pos bad] at told
    exact (Session.get?_edit_of_tells_failed told held₁).trans kept

/-- Whatever configuration is under a key waits to go. -/
def Store.Waits (s : Store) (key : ObjectKey) : Prop :=
  ∀ c, s.read Configuration key = some c → c.metadata.lifecycle = .terminating

/-- Whether a pass over what is under a key finds that the destroy job has failed. -/
def Session.failing (settings : Settings) (resolve : Resolver) (s : Session) (key : ObjectKey) :
    Bool :=
  (s.store.read Configuration key).any (s.fails settings resolve)

section

variable (keyed : s.store.WellKeyed) (waits : s.store.Waits (request.key .configuration))
include keyed waits

/-- A pass over what waits to go finds nothing, or it destroys. -/
theorem waitingPass_cases (settings : Settings) (resolve : Resolver) :
    s.store.read Configuration (request.key .configuration) = none ∧
      s.perform settings resolve (.pass request) = s ∨
    ∃ c, s.store.read Configuration (request.key .configuration) = some c ∧
      request.key .configuration = (Target.of settings c).key ∧
      s.perform settings resolve (.pass request) =
        ((destroy settings resolve (.of settings c) c).on s).2 := by
  unfold Session.perform
  simp only
  cases held : s.store.read Configuration (request.key .configuration) with
  | none =>
    rw [on_configurationPass keyed, held]
    exact .inl ⟨rfl, rfl⟩
  | some c =>
    rw [on_terminatingPass keyed held (waits c held)]
    exact .inr ⟨c, rfl, (Target.key_of (keyed.placed held)).symm, rfl⟩

theorem Store.Waits.pass :
    (s.perform settings resolve (.pass request)).store.Waits (request.key .configuration) := by
  rcases waitingPass_cases keyed waits settings resolve with
    ⟨-, same⟩ | ⟨c, held, here, ran⟩
  · rw [same]
    exact waits
  · rw [ran, here]
    rw [here] at held
    have terminating := waits c (here ▸ held)
    rcases destroy_cases settings resolve keyed (c := c) with
      changes | ⟨-, -, s₁, changes, gone⟩
    · obtain ⟨c', found, continues⟩ := changes.configuration Target.Touches.apart held
      intro c'' found'
      cases found.symm.trans found'
      exact continues.lifecycle.trans terminating
    · obtain ⟨c₁, found, -⟩ := changes.configuration Target.Touches.apart held
      rw [gone]
      intro c'' left
      rcases Session.letGo_cases (c := c) found with ⟨-, none⟩ | ⟨-, c', stays, -, -, waiting, -⟩
      · cases (Store.read_eq_some_iff.mp left).symm.trans none
      · cases (Store.read_eq_some_iff.mp left).symm.trans stays
        exact waiting

/-- What a pass tells that leaves the configuration as it was. -/
theorem told_waitingPass
    (same : (s.perform settings resolve (.pass request)).store.get? (request.key .configuration) =
      s.store.get? (request.key .configuration)) :
    (s.perform settings resolve (.pass request)).told .configuration =
      s.told .configuration ++
        if s.failing settings resolve (request.key .configuration) then
          s.store.announcement (request.key .configuration) ++
            s.store.announcement (request.key .configuration)
        else [] := by
  unfold Session.failing
  rcases waitingPass_cases keyed waits settings resolve with
    ⟨missing, stays⟩ | ⟨c, held, here, ran⟩
  · rw [stays, missing]
    simp
  · rw [ran] at same ⊢
    rw [held]
    rw [here] at held same ⊢
    exact told_destroy keyed rfl held same

/-- A pass leaves a configuration as it was that tells already what the pass finds. -/
theorem get?_waitingPass_of_tells {r : Report}
    (held : s.store.read Configuration (request.key .configuration) = some c)
    (pending : s.store.mustDestroy settings c = true)
    (seen : s.destroyReport settings resolve c = some r) (unfinished : r.progress ≠ .succeeded)
    (told : if r.progress.failureState.isSome then c.tells .destroyFailed r.message = true
      else c.tells .destroying "Cloud resources are being destroyed..." = true) :
    (s.perform settings resolve (.pass request)).store.get? (request.key .configuration) =
      s.store.get? (request.key .configuration) := by
  rcases waitingPass_cases keyed waits settings resolve with
    ⟨missing, -⟩ | ⟨c', held', here, ran⟩
  · cases missing.symm.trans held
  · cases held'.symm.trans held
    rw [ran, here]
    rw [here] at held
    exact get?_destroy_of_tells keyed rfl held pending seen unfinished told

theorem calms_waitingPass (reads : resolve.ReadsSecrets) :
    s.store.Calms settings resolve (request.key .configuration)
      (s.perform settings resolve (.pass request)).store := by
  rcases waitingPass_cases keyed waits settings resolve with ⟨-, stays⟩ | ⟨c, held, here, ran⟩
  · exact .of_same (congrArg Session.store stays)
  · rw [here] at held ⊢
    rw [ran]
    exact calms_destroy reads keyed rfl held

end

/-! ### Runs -/

/-- The session after the first acts of an endless run. -/
def Session.course (settings : Settings) (resolve : Resolver) (s : Session) (acts : Nat → Act)
    (n : Nat) : Session :=
  s.after settings resolve ((List.range n).map acts)

@[simp] theorem Session.course_zero (acts : Nat → Act) : s.course settings resolve acts 0 = s := rfl

theorem Session.course_succ (acts : Nat → Act) (n : Nat) :
    s.course settings resolve acts (n + 1) =
      (s.course settings resolve acts n).perform settings resolve (acts n) := by
  unfold course
  rw [List.range_succ, List.map_append, after_append]
  rfl

/-- What waits to go goes on waiting while only passes are made over it and time goes by. -/
theorem waits_course {acts : Nat → Act} (settings : Settings) (resolve : Resolver)
    (keyed : s.store.WellKeyed)
    (waits : s.store.Waits (request.key .configuration))
    (idle : ∀ n, acts n = .pass request ∨ ∃ now, acts n = .clock now) (n : Nat) :
    (s.course settings resolve acts n).store.WellKeyed ∧
      (s.course settings resolve acts n).store.Waits (request.key .configuration) := by
  induction n with
  | zero => exact ⟨keyed, waits⟩
  | succ n ih =>
    obtain ⟨keyed', waits'⟩ := ih
    rw [Session.course_succ]
    refine ⟨Session.wellKeyed_perform keyed' _, ?_⟩
    rcases idle n with pass | ⟨now, clock⟩
    · rw [pass]
      exact waits'.pass keyed'
    · rw [clock]
      exact waits'

/-! ### A small store -/

namespace Sample

/-- A configuration that waits to go after it was applied. -/
def leaving (told : Configuration.DestroyStatus) : Configuration where
  metadata :=
    { name := some "web", ns := some "prod", finalizers := some [Names.finalizer],
      generation := some 1, deletionTimestamp := some ⟨0, 0⟩ }
  spec := { hcl := some "# nothing" }
  status := some { apply := ⟨some .available, "", ∅⟩, destroy := told }

def leavingTarget : Target := .of {} (leaving {})

def leavingBundle : Bundle := ⟨.hcl, "# nothing\n" ++ Terraform.backendText "web" "vela-system"⟩

/-- The job that destroys it. -/
def destroyer (status : Option Job.Status) : Job :=
  { Executor.job {} leavingTarget (.of leavingTarget leavingBundle.text ∅) .destroy with
    status := status }

/-- A provider that is ready. -/
def ready : Provider :=
  { (default : Provider) with
    metadata := { name := some "default", ns := some "default" }
    status := some { (default : Provider.Status) with state := some .ready } }

def awaiting (status : Option Job.Status) (told : Configuration.DestroyStatus) : Session where
  store :=
    { items := .ofList
        [(⟨.provider, "default", "default"⟩, .provider ready),
         (⟨.configuration, "prod", "web"⟩, .configuration (leaving told)),
         (⟨.job, "prod", "web-destroy"⟩, .job (destroyer status))]
      listeners := .singleton .configuration 0 }
  now := ⟨0, 0⟩

/-- The status of a job that has failed. -/
def exceeded : Job.Status where
  conditions := some [{ type := "Failed", status := "True", message := some "quota exceeded" }]

/-- What a configuration tells of that job. -/
def exceededTold : Configuration.DestroyStatus := ⟨some .destroyFailed, "quota exceeded"⟩

variable {status : Option Job.Status} {told : Configuration.DestroyStatus}

theorem get?_awaiting (key : ObjectKey) :
    (awaiting status told).store.get? key =
      if key = ⟨.job, "prod", "web-destroy"⟩ then some (.job (destroyer status))
      else if key = ⟨.configuration, "prod", "web"⟩ then some (.configuration (leaving told))
      else if key = ⟨.provider, "default", "default"⟩ then some (.provider ready)
      else none := by
  simp [awaiting, Store.get?, Dict.ofList]

theorem wellKeyed_awaiting (status : Option Job.Status) (told : Configuration.DestroyStatus) :
    (awaiting status told).store.WellKeyed := by
  refine Store.wellKeyed_ofList fun e listed => ?_
  simp only [List.mem_cons, List.not_mem_nil, or_false] at listed
  rcases listed with rfl | rfl | rfl <;> rfl

theorem held_awaiting :
    (awaiting status told).store.get? (Sample.request.key .configuration) =
      some (.configuration (leaving told)) := by
  rw [get?_awaiting, if_neg (by decide), if_pos]
  rfl

theorem read_awaiting :
    (awaiting status told).store.read Configuration (Sample.request.key .configuration) =
      some (leaving told) := Store.read_eq_some_iff.mpr held_awaiting

theorem waits_awaiting :
    (awaiting status told).store.Waits (Sample.request.key .configuration) := by
  intro c read
  cases read_awaiting.symm.trans read
  rfl

theorem read_ready :
    (awaiting status told).store.read Provider (leaving told).providerKey = some ready := by
  have here : (leaving told).providerKey = ⟨.provider, "default", "default"⟩ := rfl
  rw [here]
  refine Store.read_eq_some_iff.mpr ?_
  rw [get?_awaiting, if_neg (by decide), if_neg (by decide), if_pos rfl]
  rfl

theorem read_destroyer :
    (awaiting status told).store.read Job (leavingTarget.jobKey .destroy) =
      some (destroyer status) := by
  refine Store.read_eq_some_iff.mpr ?_
  rw [get?_awaiting, if_pos]
  · rfl
  · decide

/-- Nothing is to be changed before the job can be looked at. -/
theorem prepare_awaiting (status : Option Job.Status) (told : Configuration.DestroyStatus) :
    ∃ s', (prepare anonymous leavingTarget (leaving told)).on (awaiting status told) =
      (.ok (.of leavingTarget leavingBundle.text ∅, false), s') := by
  have bundled : bundle leavingTarget (leaving told) = .ok leavingBundle := rfl
  have same : ((awaiting status told).keep leavingTarget leavingBundle).store.read Provider
      (leaving told).providerKey = some ready :=
    (Store.read_congr (Session.get?_write_of_ne _ _ (by nofun))).trans read_ready
  have resolved : resolveCredentials anonymous (leaving told)
      ((awaiting status told).keep leavingTarget leavingBundle).store = .ok ∅ := by
    have keyed := Session.wellKeyed_keep (wellKeyed_awaiting status told) leavingTarget leavingBundle
    have found : ((awaiting status told).keep leavingTarget leavingBundle).store.findNamed Provider
        (leaving told).providerReference.1 (leaving told).providerReference.2 = .ok (some ready) :=
      (keyed.findNamed _ _).trans (congrArg Except.ok same)
    unfold resolveCredentials
    simp only [found]
    rfl
  have settled : environment (leaving told) ∅ = .ok ∅ := rfl
  refine ⟨(((awaiting status told).keep leavingTarget leavingBundle).settleVariables leavingTarget
    ∅).provideRole leavingTarget, ?_⟩
  rw [on_prepare (wellKeyed_awaiting _ _), bundled]
  simp only [resolved, settled]
  rfl

theorem destroyReport_awaiting :
    (awaiting status told).destroyReport {} anonymous (leaving told) =
      some (Executor.report (destroyer status)) := by
  obtain ⟨s', ran⟩ := prepare_awaiting status told
  have jobs : ((prepare anonymous leavingTarget (leaving told)).on
      (awaiting status told)).2.store.get? (leavingTarget.jobKey .destroy) =
      (awaiting status told).store.get? (leavingTarget.jobKey .destroy) :=
    get?_prepare anonymous (wellKeyed_awaiting status told) nofun nofun nofun
  rw [ran] at jobs
  have found : s'.store.read Job (leavingTarget.jobKey .destroy) = some (destroyer status) :=
    (Store.read_congr jobs).trans read_destroyer
  have planned : s'.plan {} leavingTarget (.of leavingTarget leavingBundle.text ∅) false .destroy =
      .unchanged :=
    (Session.plan_unchanged_iff _ _ _ _ _).mpr ⟨rfl, _, found, fingerprint?_job {} _ _ _⟩
  have stays :
      s'.converge {} leavingTarget (.of leavingTarget leavingBundle.text ∅) false .destroy =
      s' := by
    unfold Session.converge
    rw [planned]
  have target : Target.of {} (leaving told) = leavingTarget := rfl
  unfold Session.destroyReport
  rw [target]
  simp only [ran, stays]
  unfold Store.report
  rw [found]

theorem mustDestroy_awaiting :
    (awaiting status told).store.mustDestroy {} (leaving told) = true := by
  unfold Store.mustDestroy Store.deletable
  rw [read_ready]
  rfl

theorem failing_awaiting :
    (awaiting status told).failing {} anonymous (Sample.request.key .configuration) =
      (Executor.report (destroyer status)).progress.failureState.isSome := by
  unfold Session.failing Session.fails
  rw [read_awaiting, Option.any_some, mustDestroy_awaiting, destroyReport_awaiting]
  rfl

/-- A pass leaves the configuration as it was if it tells what is reported of the job. -/
theorem get?_pass_awaiting
    (unfinished : (Executor.report (destroyer status)).progress ≠ .succeeded)
    (known : if (Executor.report (destroyer status)).progress.failureState.isSome then
        (leaving told).tells .destroyFailed (Executor.report (destroyer status)).message = true
      else (leaving told).tells .destroying "Cloud resources are being destroyed..." = true) :
    ((awaiting status told).perform {} anonymous (.pass Sample.request)).store.get?
        (Sample.request.key .configuration) =
      (awaiting status told).store.get? (Sample.request.key .configuration) :=
  get?_waitingPass_of_tells (wellKeyed_awaiting _ _) waits_awaiting read_awaiting
    mustDestroy_awaiting destroyReport_awaiting unfinished known

theorem told_pass_awaiting
    (unfinished : (Executor.report (destroyer status)).progress ≠ .succeeded)
    (known : if (Executor.report (destroyer status)).progress.failureState.isSome then
        (leaving told).tells .destroyFailed (Executor.report (destroyer status)).message = true
      else (leaving told).tells .destroying "Cloud resources are being destroyed..." = true) :
    ((awaiting status told).perform {} anonymous (.pass Sample.request)).told .configuration =
      if (Executor.report (destroyer status)).progress.failureState.isSome then
        [⟨0, Sample.request.key .configuration⟩, ⟨0, Sample.request.key .configuration⟩]
      else [] := by
  have run := told_waitingPass (wellKeyed_awaiting _ _) waits_awaiting
    (get?_pass_awaiting unfinished known)
  rw [failing_awaiting] at run
  exact run

end Sample

/-- Passes over a configuration that waits to go come to rest. In every run of such passes only
finitely many change what is stored of it, whatever the destroy job reports; and a pass that leaves
it as it found it tells nobody of it, with one exception: a pass that finds that the destroy job has
failed tells two notices. -/
theorem terminating_comes_to_rest (settings : Settings) (resolve : Resolver) (s : Session)
    (request : Request) (c : Configuration) (acts : Nat → Act) (keyed : s.store.WellKeyed)
    (held : s.store.get? (request.key .configuration) = some (.configuration c))
    (terminating : c.metadata.lifecycle = .terminating)
    (idle : ∀ n, acts n = .pass request ∨ ∃ now, acts n = .clock now) :
    let key := request.key .configuration
    let course := s.course settings resolve acts
    (resolve.ReadsSecrets →
      ∃ N, ∀ n, N ≤ n → (course (n + 1)).store.get? key = (course n).store.get? key) ∧
    ∀ n, acts n = .pass request →
      (course (n + 1)).store.get? key = (course n).store.get? key →
      (course (n + 1)).told .configuration =
        (course n).told .configuration ++
          if (course n).failing settings resolve key then
            (course n).store.announcement key ++ (course n).store.announcement key
          else [] := by
  intro key course
  have waits : s.store.Waits key := by
    intro c' found
    cases held.symm.trans (Store.read_eq_some_iff.mp found)
    exact terminating
  have waits := waits_course settings resolve keyed waits idle
  refine ⟨fun reads => ?_, fun n pass same => ?_⟩
  · have step : ∀ n,
        (course n).store.Calms settings resolve key (course (n + 1)).store := by
      intro n
      have succ : course (n + 1) = (course n).perform settings resolve (acts n) :=
        Session.course_succ acts n
      rw [succ]
      rcases idle n with pass | ⟨now, clock⟩
      · rw [pass]
        exact calms_waitingPass (waits n).1 (waits n).2 reads
      · rw [clock]
        exact .of_same rfl
    have falling : Antitone fun n => (course n).store.changesLeftAt settings resolve key :=
      antitone_nat_of_succ_le fun n => (step n).le
    obtain ⟨N, constant⟩ := WellFoundedLT.antitone_chain_condition falling
    refine ⟨N, fun n late => (step n).get? ?_⟩
    rw [← constant n late, ← constant (n + 1) (Nat.le_succ_of_le late)]
  · have succ : course (n + 1) = (course n).perform settings resolve (acts n) :=
      Session.course_succ acts n
    rw [succ, pass] at same ⊢
    exact told_waitingPass (waits n).1 (waits n).2 same

/-- Passes with the credentials of the store come to rest; and while the destroy job is at work, which
the configuration tells already, a pass tells nothing. -/
theorem terminating_comes_to_rest_sample :
    let told : Configuration.DestroyStatus :=
      ⟨some .destroying, "Cloud resources are being destroyed..."⟩
    let s := Sample.awaiting none told
    let key := Sample.request.key .configuration
    let course := s.course {} Provider.resolve fun _ => .pass Sample.request
    s.store.WellKeyed ∧ s.store.get? key = some (.configuration (Sample.leaving told)) ∧
    (Sample.leaving told).metadata.lifecycle = .terminating ∧
    (∃ N, ∀ n, N ≤ n → (course (n + 1)).store.get? key = (course n).store.get? key) ∧
    (s.perform {} Sample.anonymous (.pass Sample.request)).told .configuration = [] := by
  intro told s key course
  have settles := fun resolve => terminating_comes_to_rest {} resolve s Sample.request
    (Sample.leaving told) (fun _ => .pass Sample.request) (Sample.wellKeyed_awaiting _ _)
    Sample.held_awaiting rfl fun _ => .inl rfl
  have first := (settles Sample.anonymous).2 0 rfl
  have working : s.failing {} Sample.anonymous key = false := Sample.failing_awaiting
  rw [Session.course_succ, Session.course_zero, working] at first
  exact ⟨Sample.wellKeyed_awaiting _ _, Sample.held_awaiting, rfl,
    (settles Provider.resolve).1 Provider.readsSecrets_resolve,
    first (Sample.get?_pass_awaiting (by decide) (by decide))⟩

/-- A destroy job that has failed is never done being told of. The configuration tells the failure
already and the pass leaves it just as it was, and still two notices are sent of it. -/
theorem failure_told_again :
    let s := Sample.awaiting (some Sample.exceeded) Sample.exceededTold
    let key := Sample.request.key .configuration
    s.store.get? key = some (.configuration (Sample.leaving Sample.exceededTold)) ∧
    (Sample.leaving Sample.exceededTold).metadata.lifecycle = .terminating ∧
    (s.perform {} Sample.anonymous (.pass Sample.request)).store.get? key = s.store.get? key ∧
    s.told .configuration = [] ∧
    (s.perform {} Sample.anonymous (.pass Sample.request)).told .configuration =
      [⟨0, key⟩, ⟨0, key⟩] := by
  intro s key
  exact ⟨Sample.held_awaiting, rfl, Sample.get?_pass_awaiting (by decide) (by decide), rfl,
    Sample.told_pass_awaiting (by decide) (by decide)⟩

end Provisioner
