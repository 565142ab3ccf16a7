import Mathlib.Logic.Relation
import Provisioner.Proofs.Notices
import Provisioner.Proofs.Recording
import Provisioner.Proofs.Separation

/-!
What a pass may do to which object. A remit tells the keys under which a pass may write, those of
the objects that it may only make where there are none, and those that it may only clear. Every part
of a pass is a run of operations within the remit of the pass, so that whatever becomes of the pass,
all other objects are as they were and nothing was said of them.
-/

namespace Provisioner

open Reconcile
open Executor (Inputs Report)

variable {τ : Type} [Resource τ] {s s' s'' : Session} {t : Target} {c : Configuration}
  {key : ObjectKey} {o : Object} {settings : Settings} {resolve : Resolver} {request : Request}

/-! ### Single objects -/

namespace Session

/-- The notices about a key that were sent. -/
def noticesOf (s : Session) (key : ObjectKey) : List Notice := s.sent.filter (·.key = key)

/-- What is under a key is what was there, and nothing was said of it. -/
structure Spares (key : ObjectKey) (s s' : Session) : Prop where
  entry : s'.store.get? key = s.store.get? key
  notices : s'.noticesOf key = s.noticesOf key

theorem Spares.refl : s.Spares key s := ⟨rfl, rfl⟩

theorem Spares.trans (first : s.Spares key s') (second : s'.Spares key s'') : s.Spares key s'' :=
  ⟨second.entry.trans first.entry, second.notices.trans first.notices⟩

theorem Writes.spares {other : ObjectKey} (writes : s.Writes key s') (apart : other ≠ key) :
    s.Spares other s' := by
  refine ⟨writes.get?_of_ne apart, ?_⟩
  rcases writes.sent_cases with same | announced
  · rw [same]
  · have none : (s.store.announcement key).filter (·.key = other) = [] := by
      refine List.filter_eq_nil_iff.mpr fun n listed => ?_
      simpa [key_of_announcement listed] using apart.symm
    unfold noticesOf
    rw [announced, List.filter_append, none, List.append_nil]

/-- What is left of an object that is deleted: nothing, or it waits to go. -/
def remains (s : Session) (o : Object) : Option Object :=
  if o.hasFinalizers then some (s.marked o) else none

theorem get?_delete_self (s : Session) (key : ObjectKey) :
    (s.delete key).2.store.get? key = (s.store.get? key).bind s.remains := by
  cases held : s.store.get? key with
  | none =>
    unfold delete
    rw [held]
    exact held
  | some o =>
    unfold remains
    rw [Option.bind_some]
    cases holds : o.hasFinalizers with
    | true => exact get?_delete_held held holds
    | false => exact get?_delete_free held holds

theorem remains_congr (now : s'.now = s.now) : s'.remains = s.remains := by
  unfold remains marked
  rw [now]

/-- What waits to go already is left as it is. -/
theorem remains_remains (s : Session) (o : Object) :
    (s.remains o).bind s.remains = s.remains o := by
  unfold remains
  cases holds : o.hasFinalizers with
  | false => rfl
  | true =>
    have marked : s.marked (s.marked o) = s.marked o := by
      unfold Session.marked
      simp
    simp [hasFinalizers_marked, holds, marked]

end Session

/-! ### Remits -/

/-- What may be done to objects, by their keys. -/
structure Remit where
  /-- The keys under which anything may be written and deleted. -/
  owns : ObjectKey → Prop
  /-- The objects that may be made where there are none. -/
  provides : ObjectKey → Object → Prop
  /-- The keys under which objects may only be deleted. -/
  clears : ObjectKey → Prop

namespace Remit

variable {r : Remit}

/-- One operation within a remit. Handing over a job leaves the store alone. -/
inductive Step (r : Remit) : Session → Session → Prop
  | write {s : Session} {key : ObjectKey} (o : Object) (own : r.owns key) :
    Step r s (s.write key o)
  | delete {s : Session} {key : ObjectKey} (here : r.owns key ∨ r.clears key) :
    Step r s (s.delete key).2
  | provide {s : Session} {key : ObjectKey} {o : Object} (here : r.provides key o) :
    Step r s (s.provide key o)
  | handOver {s : Session} (key : ObjectKey) : Step r s (s.handOver key)

/-- A run of operations within a remit. -/
def Steps (r : Remit) : Session → Session → Prop := Relation.ReflTransGen r.Step

namespace Step

theorem now (step : r.Step s s') : s'.now = s.now := by
  cases step with
  | write => exact Session.now_write _ _ _
  | delete => exact Session.now_delete _ _
  | provide =>
    unfold Session.provide
    split
    · exact Session.now_write _ _ _
    · rfl
  | handOver => rfl

/-- An operation is of no concern to a key that the remit does not name. -/
theorem spares (step : r.Step s s') (foreign : ¬ r.owns key)
    (made : ∀ o, r.provides key o → (s.store.get? key).isSome) (kept : ¬ r.clears key) :
    s.Spares key s' := by
  cases step with
  | write o own =>
    refine (Session.writes_write _ _ _).spares ?_
    rintro rfl
    exact foreign own
  | delete here =>
    refine (Session.writes_delete _ _).spares ?_
    rintro rfl
    exact here.elim foreign kept
  | @provide k o here =>
    by_cases there : key = k
    · subst there
      rw [Session.provide_of_isSome (made o here)]
      exact .refl
    · exact (Session.writes_provide _ _ _).spares there
  | handOver => exact ⟨rfl, rfl⟩

/-- Where there is nothing an operation makes nothing but what it may provide. -/
theorem provided (step : r.Step s s') (foreign : ¬ r.owns key) (kept : ¬ r.clears key)
    (only : ∀ o', r.provides key o' → o' = o) (missing : s.store.get? key = none) :
    s'.store.get? key = none ∨ s'.store.get? key = some (o.asNew s.now) := by
  by_cases made : ∃ o', s' = s.provide key o' ∧ r.provides key o'
  · obtain ⟨o', rfl, here⟩ := made
    cases only o' here
    unfold Session.provide
    rw [missing, Option.isNone_none, if_pos rfl, Session.get?_write_self, missing]
    exact .inr rfl
  · left
    rw [← missing]
    cases step with
    | write _ own =>
      refine Session.get?_write_of_ne _ _ ?_
      rintro rfl
      exact foreign own
    | delete here =>
      refine Session.get?_delete_of_ne _ ?_
      rintro rfl
      exact here.elim foreign kept
    | provide here =>
      refine Session.get?_provide_of_ne _ _ ?_
      rintro rfl
      exact made ⟨_, rfl, here⟩
    | handOver => rfl

/-- What an operation may only clear it spares or deletes. -/
theorem cleared (step : r.Step s s') (foreign : ¬ r.owns key)
    (unmade : ∀ o, ¬ r.provides key o) :
    s.Spares key s' ∨ s'.store.get? key = (s.store.get? key).bind s.remains := by
  cases step with
  | write _ own =>
    refine .inl ((Session.writes_write _ _ _).spares ?_)
    rintro rfl
    exact foreign own
  | @delete k here =>
    by_cases there : key = k
    · subst there
      exact .inr (Session.get?_delete_self s key)
    · exact .inl ((Session.writes_delete _ _).spares there)
  | provide here =>
    refine .inl ((Session.writes_provide _ _ _).spares ?_)
    rintro rfl
    exact unmade _ here
  | handOver => exact .inl ⟨rfl, rfl⟩

end Step

theorem Step.listeners (step : r.Step s s') : s'.store.listeners = s.store.listeners := by
  cases step with
  | write => exact (Session.writes_write _ _ _).listeners
  | delete => exact (Session.writes_delete _ _).listeners
  | provide => exact (Session.writes_provide _ _ _).listeners
  | handOver => rfl

namespace Steps

theorem refl : r.Steps s s := Relation.ReflTransGen.refl

theorem trans (first : r.Steps s s') (second : r.Steps s' s'') : r.Steps s s'' :=
  Relation.ReflTransGen.trans first second

theorem write (o : Object) (own : r.owns key) : r.Steps s (s.write key o) :=
  .single (.write o own)

theorem delete (here : r.owns key ∨ r.clears key) : r.Steps s (s.delete key).2 :=
  .single (.delete here)

theorem provide (here : r.provides key o) : r.Steps s (s.provide key o) := .single (.provide here)

/-- Providing is no more than writing. -/
theorem provide_own (o : Object) (own : r.owns key) : r.Steps s (s.provide key o) := by
  unfold Session.provide
  split
  · exact write o own
  · exact refl

theorem edit (f : τ → τ) (own : r.owns key) : r.Steps s (s.edit key f) := by
  unfold Session.edit
  split
  · exact refl
  · exact write _ own

theorem deleteAll {keys : List ObjectKey} (here : ∀ key ∈ keys, r.owns key ∨ r.clears key) :
    r.Steps s (s.deleteAll keys) := by
  induction keys generalizing s with
  | nil => exact refl
  | cons key rest ih =>
    exact (delete (here key List.mem_cons_self)).trans
      (ih fun k listed => here k (List.mem_cons_of_mem key listed))

theorem now (steps : r.Steps s s') : s'.now = s.now := by
  induction steps with
  | refl => rfl
  | tail _ last ih => exact last.now.trans ih

theorem listeners (steps : r.Steps s s') : s'.store.listeners = s.store.listeners := by
  induction steps with
  | refl => rfl
  | tail _ last ih => exact last.listeners.trans ih

/-- What a remit does not name is spared, and so is what may only be provided but is there. -/
theorem spares (steps : r.Steps s s') (foreign : ¬ r.owns key)
    (made : ∀ o, r.provides key o → (s.store.get? key).isSome) (kept : ¬ r.clears key) :
    s.Spares key s' := by
  induction steps with
  | refl => exact .refl
  | tail _ last ih =>
    exact ih.trans (last.spares foreign (fun o here => ih.entry ▸ made o here) kept)

/-- What was not there is still not there, or it is what may be provided. -/
theorem provided (steps : r.Steps s s') (foreign : ¬ r.owns key) (kept : ¬ r.clears key)
    (only : ∀ o', r.provides key o' → o' = o) (missing : s.store.get? key = none) :
    s'.store.get? key = none ∨ s'.store.get? key = some (o.asNew s.now) := by
  induction steps with
  | refl => exact .inl missing
  | tail before last ih =>
    rcases ih with missing' | there
    · rw [← now before]
      exact last.provided foreign kept only missing'
    · right
      rw [← there]
      exact (last.spares foreign (fun _ _ => there ▸ rfl) kept).entry

/-- What may only be cleared is spared, or it is what a deletion leaves of it. -/
theorem cleared (steps : r.Steps s s') (foreign : ¬ r.owns key)
    (unmade : ∀ o, ¬ r.provides key o) :
    s.Spares key s' ∨ s'.store.get? key = (s.store.get? key).bind s.remains := by
  induction steps with
  | refl => exact .inl .refl
  | tail before last ih =>
    have last := last.cleared foreign unmade
    rw [Session.remains_congr (now before)] at last
    rcases ih with spared | gone <;> rcases last with spared' | gone'
    · exact .inl (spared.trans spared')
    · exact .inr (by rw [gone', spared.entry])
    · exact .inr (by rw [spared'.entry, gone])
    · -- the second deletion finds what the first one left
      right
      rw [gone', gone, Option.bind_assoc]
      exact Option.bind_congr fun o _ => s.remains_remains o

end Steps

end Remit

/-! ### The remit of a pass -/

namespace Target

/-- The objects that jobs need to run, one for a namespace or one for each. -/
inductive Provides (t : Target) : ObjectKey → Object → Prop
  | role : Provides t t.roleKey (Resource.wrap (Access.role (Names.clusterRole t.ns)))
  | account : Provides t t.accountKey (Resource.wrap (Access.account t.ns Names.serviceAccount))
  | binding : Provides t t.bindingKey
      (Resource.wrap (Access.binding t.ns (Names.clusterRole t.ns) Names.serviceAccount))

theorem Provides.unique {o' : Object} (first : t.Provides key o) (second : t.Provides key o') :
    o' = o := by
  generalize here : key = k at second
  cases first <;> cases second <;>
    first
      | rfl
      | cases congrArg ObjectKey.kind here

theorem Provides.kind (provides : t.Provides key o) :
    key.kind = .clusterRole ∨ key.kind = .serviceAccount ∨ key.kind = .clusterRoleBinding := by
  cases provides with
  | role => exact .inl rfl
  | account => exact .inr (.inl rfl)
  | binding => exact .inr (.inr rfl)

theorem Provides.touches (provides : t.Provides key o) : t.Touches c key := by
  cases provides with
  | role => exact .role
  | account => exact .account
  | binding => exact .binding

/-- The keys of what a pass writes for an execution, whatever it finds. -/
def ownKeys (t : Target) (e : Execution) : List ObjectKey :=
  [t.key, t.inputBundleKey, t.variableSecretKey, t.jobKey e]

/-- What a pass may do. While a configuration is active its outputs may be published; once it waits
to go, a pass that releases it may clear them, and its state and the job that applied it. -/
def remit (t : Target) (c : Configuration) (released : Prop) : Lifecycle → Remit
  | .active =>
    { owns := fun key => key ∈ t.ownKeys .apply ∨ Publishes c key
      provides := t.Provides
      clears := fun _ => False }
  | .terminating =>
    { owns := fun key => key ∈ t.ownKeys .destroy
      provides := t.Provides
      clears := fun key =>
        released ∧ (key = t.stateSecretKey ∨ key = t.jobKey .apply ∨ Publishes c key) }

end Target

namespace Remit

/-- A remit covers an execution if the pass may write all that it needs. -/
structure Covers (r : Remit) (t : Target) (e : Execution) : Prop where
  owns : ∀ key ∈ t.ownKeys e, r.owns key
  provides : ∀ key o, t.Provides key o → r.provides key o

theorem covers_active (t : Target) (c : Configuration) (released : Prop) :
    (t.remit c released .active).Covers t .apply := ⟨fun _ => .inl, fun _ _ => id⟩

theorem covers_terminating (t : Target) (c : Configuration) (released : Prop) :
    (t.remit c released .terminating).Covers t .destroy := ⟨fun _ => id, fun _ _ => id⟩

namespace Covers

variable {r : Remit} {e : Execution} (covers : r.Covers t e)
include covers

theorem self : r.owns t.key := covers.owns _ (by simp [Target.ownKeys])

theorem source : r.owns t.inputBundleKey := covers.owns _ (by simp [Target.ownKeys])

theorem values : r.owns t.variableSecretKey := covers.owns _ (by simp [Target.ownKeys])

theorem job : r.owns (t.jobKey e) := covers.owns _ (by simp [Target.ownKeys])

theorem keep (b : Bundle) : r.Steps s (s.keep t b) := .write _ covers.source

theorem settleVariables (env : Dict String String) : r.Steps s (s.settleVariables t env) :=
  .provide_own _ covers.values

theorem provideRole : r.Steps s (s.provideRole t) := .provide (covers.provides _ _ .role)

theorem hold : r.Steps s (s.hold t c) := by
  unfold Session.hold
  split
  · exact .refl
  · exact .edit _ covers.self

theorem reload (differ : Bool) : r.Steps s (s.reload t differ) := by
  unfold Session.reload
  split
  · exact .edit _ covers.self
  · exact .refl

theorem start (settings : Settings) (i : Inputs) : r.Steps s (s.start settings t i e) := by
  have secret : r.Steps s _ := .write (Resource.wrap (variableSecret t i.env)) covers.values
  have account : r.Steps s _ := secret.trans (.provide (covers.provides _ _ .account))
  have binding : r.Steps s _ := account.trans (.provide (covers.provides _ _ .binding))
  have job : r.Steps s _ :=
    binding.trans (.write (Resource.wrap (Executor.job settings t i e)) covers.job)
  exact job.trans (.single (.handOver (t.jobKey e)))

theorem converge (settings : Settings) (i : Inputs) (changed : Bool) :
    r.Steps s (s.converge settings t i changed e) := by
  unfold Session.converge
  split
  · exact .refl
  · exact .trans (.delete (.inl covers.job))
      (.trans (.delete (.inl covers.values)) (covers.start settings i))
  · exact covers.start settings i

end Covers

variable {r : Remit}

theorem Covers.ready {b : Bundle} {env : Dict String String} (covers : r.Covers t .apply) :
    r.Steps s (s.ready settings t b env) :=
  (covers.settleVariables env).trans
    ((covers.reload _).trans (covers.provideRole.trans (covers.converge settings _ _)))

/-! ### Applying -/

theorem steps_generate (keyed : s.store.WellKeyed)
    (published : ∀ key, Target.Publishes c key → r.owns key) :
    r.Steps s ((Outputs.generate c t).on s).2 := by
  rw [on_generate keyed]
  split
  · exact .refl
  · split
    · exact .refl
    · rename_i ns name asked
      split
      · exact .refl
      · exact .write _ (published _ ⟨ns, name, asked, rfl⟩)

theorem steps_recordProgress (keyed : s.store.WellKeyed) (self : r.owns t.key)
    (published : ∀ key, Target.Publishes c key → r.owns key) (report : Report) :
    r.Steps s ((recordProgress t c report).on s).2 := by
  obtain ⟨progress, message⟩ := report
  cases failure : progress.failureState with
  | some state =>
    rw [on_recordFailure failure]
    exact .edit _ self
  | none =>
    cases progress with
    | initError | applyError | invalidRegion => cases failure
    | succeeded =>
      change r.Steps s ((recordSuccess t c).on s).2
      rw [on_recordSuccess]
      exact (steps_generate keyed published).trans (.edit _ self)
    | provisioning =>
      change r.Steps s ((recordRunning t).on s).2
      rw [on_recordRunning keyed]
      dsimp only
      split
      · exact .refl
      · exact .edit _ self

theorem Covers.run (covers : r.Covers t .apply) (keyed : s.store.WellKeyed) (b : Bundle)
    (published : ∀ key, Target.Publishes c key → r.owns key) :
    r.Steps s ((Reconcile.run settings resolve t c b).on s).2 := by
  rw [on_run keyed]
  split
  · exact .edit _ covers.self
  · split
    · exact .refl
    · exact covers.ready.trans (steps_recordProgress (Session.wellKeyed_ready keyed settings t b _)
        covers.self published _)

theorem Covers.apply (covers : r.Covers t .apply) (keyed : s.store.WellKeyed)
    (placed : (Resource.wrap c).key? = some t.key)
    (published : ∀ key, Target.Publishes c key → r.owns key) :
    r.Steps s ((Reconcile.apply settings resolve t c).on s).2 := by
  rw [on_apply keyed placed]
  split
  · exact covers.hold.trans (.edit _ covers.self)
  · exact covers.hold
  · split
    · exact covers.hold.trans ((covers.keep _).trans (.edit _ covers.self))
    · exact covers.hold.trans ((covers.keep _).trans
        (covers.run (Session.wellKeyed_keep (Session.wellKeyed_hold keyed t c) t _) _ published))

/-! ### Destroying -/

theorem Covers.prepare (covers : r.Covers t .destroy) (resolve : Resolver) (c : Configuration)
    (keyed : s.store.WellKeyed) :
    r.Steps s ((Reconcile.prepare resolve t c).on s).2 := by
  rw [on_prepare keyed]
  split
  · exact .refl
  · split
    · exact covers.keep _
    · split
      · exact covers.keep _
      · exact (covers.keep _).trans ((covers.settleVariables _).trans covers.provideRole)

theorem Covers.destroyResources (covers : r.Covers t .destroy) (settings : Settings)
    (resolve : Resolver) (c : Configuration) (keyed : s.store.WellKeyed) :
    r.Steps s ((Reconcile.destroyResources settings resolve t c).on s).2 := by
  have prepared : r.Steps s _ := covers.prepare resolve c keyed
  rw [on_destroyResources keyed]
  rcases ran : (Reconcile.prepare resolve t c).on s with ⟨e | ⟨i, changed⟩, s₁⟩ <;>
    rw [ran] at prepared
  · exact prepared.trans (.edit _ covers.self)
  · have converged := prepared.trans (covers.converge settings i changed)
    have noted := converged.trans (.edit
      (withDestroyStatus .destroying "Cloud resources are being destroyed...") covers.self)
    dsimp only
    split
    · exact noted
    · exact noted
    · exact noted.trans (.edit _ covers.self)

theorem Covers.letGo (covers : r.Covers t .destroy)
    (here : ∀ key ∈ generatedKeys t, r.owns key ∨ r.clears key)
    (published : ∀ key, Target.Publishes c key → r.clears key) : r.Steps s (s.letGo t c) := by
  refine .trans (.edit _ covers.self) (.trans (.deleteAll fun key listed => ?_)
    (.trans (.edit _ covers.self) (.delete (.inl covers.self))))
  rcases List.mem_append.mp listed with generated | own
  · exact here key generated
  · exact .inr (published key (Session.own_connection (Option.mem_toList.mp own)))

end Remit

/-- Letting a configuration go is within the remit of a pass that releases it. -/
theorem Session.steps_letGo (t : Target) (c : Configuration) (s : Session) {released : Prop}
    (release : released) : (t.remit c released .terminating).Steps s (s.letGo t c) := by
  have covers := Remit.covers_terminating t c released
  refine covers.letGo (fun key generated => ?_) fun key published =>
    ⟨release, .inr (.inr published)⟩
  simp only [generatedKeys, List.mem_cons, List.not_mem_nil, or_false] at generated
  rcases generated with rfl | rfl | rfl | rfl | rfl
  · exact .inl covers.source
  · exact .inl covers.values
  · exact .inr ⟨release, .inl rfl⟩
  · exact .inr ⟨release, .inr (.inl rfl)⟩
  · exact .inl covers.job

/-- A pass stays within the remit that the lifecycle of its configuration gives it. -/
theorem Session.steps_configurationPass (settings : Settings) (resolve : Resolver)
    (keyed : s.store.WellKeyed)
    (held : s.store.read Configuration (request.key .configuration) = some c) :
    ((Target.of settings c).remit c (s.Releases settings resolve c) c.metadata.lifecycle).Steps s
      ((configurationPass settings resolve request).on s).2 := by
  have placed := keyed.placed held
  cases lifecycle : c.metadata.lifecycle with
  | active =>
    rw [on_activePass keyed held lifecycle]
    refine (Remit.covers_active _ c _).apply keyed ?_ fun key => .inr
    rw [Target.key_of placed, placed]
  | terminating =>
    have destroyed := (Remit.covers_terminating (.of settings c) c
      (s.Releases settings resolve c)).destroyResources settings resolve c keyed
    rw [on_terminatingPass keyed held lifecycle, on_destroy keyed]
    split
    · exact .refl
    rename_i own
    have own : hasOwnFinalizer c = true := by simpa using own
    split
    · rcases ran : (destroyResources settings resolve (.of settings c) c).on s with ⟨e | _, s₁⟩ <;>
        rw [ran] at destroyed
      · exact destroyed
      · refine destroyed.trans (steps_letGo _ c s₁ ⟨lifecycle, own, .inr (.inr ?_)⟩)
        rw [ran]
    · rename_i free
      refine steps_letGo _ c s ⟨lifecycle, own, ?_⟩
      rw [keyed.isDeletable]
      cases deletable : s.store.deletable c with
      | true => exact .inr (.inl rfl)
      | false => exact .inl (by simpa [deletable] using free)

/-! ### Footprints -/

namespace Target

variable {released : Prop} {l : Lifecycle}

theorem touches_of_ownKeys {e : Execution} (own : key ∈ t.ownKeys e) :
    key = t.key ∨ t.Touches c key := by
  simp only [ownKeys, List.mem_cons, List.not_mem_nil, or_false] at own
  rcases own with rfl | rfl | rfl | rfl
  · exact .inl rfl
  · exact .inr .inputBundle
  · exact .inr .variableSecret
  · exact .inr (.job e)

theorem touches_of_owns (own : (t.remit c released l).owns key) :
    key = t.key ∨ t.Touches c key := by
  cases l with
  | active => exact own.elim touches_of_ownKeys fun published => .inr (.connection published)
  | terminating => exact touches_of_ownKeys own

theorem provides_of_remit (here : (t.remit c released l).provides key o) : t.Provides key o := by
  cases l <;> exact here

theorem touches_of_clears (clears : (t.remit c released l).clears key) :
    released ∧ (key = t.stateSecretKey ∨ t.Touches c key) := by
  cases l with
  | active => exact clears.elim
  | terminating =>
    obtain ⟨release, rfl | rfl | published⟩ := clears
    · exact ⟨release, .inl rfl⟩
    · exact ⟨release, .inr (.job .apply)⟩
    · exact ⟨release, .inr (.connection published)⟩

/-- What a namespace needs for its jobs is provided and nothing else is done to it. -/
theorem Provides.only (provides : t.Provides key o) (c : Configuration) (released : Prop)
    (l : Lifecycle) :
    ¬ (t.remit c released l).owns key ∧ ¬ (t.remit c released l).clears key := by
  have kinds := provides.kind
  have foreign : ∀ e, key ∉ t.ownKeys e := by
    intro e own
    simp only [ownKeys, List.mem_cons, List.not_mem_nil, or_false] at own
    rcases own with rfl | rfl | rfl | rfl <;>
      simp [key, inputBundleKey, variableSecretKey, jobKey] at kinds
  have unpublished : ¬ Publishes c key := by
    intro published
    simp [published.kind] at kinds
  cases l with
  | active => exact ⟨fun own => own.elim (foreign .apply) unpublished, id⟩
  | terminating =>
    refine ⟨foreign .destroy, ?_⟩
    rintro ⟨-, rfl | rfl | published⟩
    · simp [stateSecretKey] at kinds
    · simp [jobKey] at kinds
    · exact unpublished published

end Target

namespace Session

variable (keyed : s.store.WellKeyed)
  (held : s.store.read Configuration (request.key .configuration) = some c)
include keyed held

/-- A pass spares all that is neither its configuration nor generated for it. -/
theorem spares_configurationPass (settings : Settings) (resolve : Resolver)
    (other : key ≠ (Target.of settings c).key) (untouched : ¬ (Target.of settings c).Touches c key)
    (state : key ≠ (Target.of settings c).stateSecretKey) :
    s.Spares key ((configurationPass settings resolve request).on s).2 := by
  refine (steps_configurationPass settings resolve keyed held).spares (fun own => ?_)
    (fun o made => ?_) fun clears => ?_
  · exact (Target.touches_of_owns own).elim other untouched
  · exact (untouched (Target.provides_of_remit made).touches).elim
  · exact (Target.touches_of_clears clears).2.elim state untouched

/-- A pass leaves what its jobs need as it is where it is there, and makes nothing else where it is
not. -/
theorem provided_configurationPass (settings : Settings) (resolve : Resolver)
    (provides : (Target.of settings c).Provides key o) :
    ((s.store.get? key).isSome →
      s.Spares key ((configurationPass settings resolve request).on s).2) ∧
    (s.store.get? key = none →
      ((configurationPass settings resolve request).on s).2.store.get? key = none ∨
      ((configurationPass settings resolve request).on s).2.store.get? key =
        some (o.asNew s.now)) := by
  have steps := steps_configurationPass settings resolve keyed held
  obtain ⟨foreign, kept⟩ := provides.only c (s.Releases settings resolve c) c.metadata.lifecycle
  refine ⟨fun there => steps.spares foreign (fun _ _ => there) kept, fun missing => ?_⟩
  exact steps.provided foreign kept
    (fun o' made => provides.unique (Target.provides_of_remit made)) missing

end Session

namespace Reconcile

/-- What a pass may only clear is spared, or the pass has released the configuration and it is what
a deletion leaves of it. -/
theorem cleared_of_release {released : Prop} {r : Remit} (steps : r.Steps s s')
    (foreign : ¬ r.owns key) (unmade : ∀ o, ¬ r.provides key o)
    (clears : r.clears key → released) :
    s.Spares key s' ∨ released ∧ s'.store.get? key = (s.store.get? key).bind s.remains := by
  by_cases release : released
  · exact (steps.cleared foreign unmade).imp_right fun gone => ⟨release, gone⟩
  · exact .inl (steps.spares foreign (fun o here => (unmade o here).elim) (mt clears release))

theorem jobKey_not_mem_ownKeys {e e' : Execution} (other : e ≠ e') :
    t.jobKey e ∉ t.ownKeys e' := by
  intro own
  simp only [Target.ownKeys, List.mem_cons, List.not_mem_nil, or_false] at own
  rcases own with same | same | same | same <;> try cases congrArg ObjectKey.kind same
  exact other (Target.jobName_injective (congrArg ObjectKey.name same)).2

theorem stateSecretKey_not_mem_ownKeys {e : Execution} : t.stateSecretKey ∉ t.ownKeys e := by
  intro own
  simp only [Target.ownKeys, List.mem_cons, List.not_mem_nil, or_false] at own
  rcases own with same | same | same | same <;> try cases congrArg ObjectKey.kind same
  exact Names.stateSecret_ne_variableSecret _ _ (congrArg ObjectKey.name same)

/-- The footprint of a pass. Where there is no configuration it does nothing. Otherwise it spares
all objects but the configuration and what is generated for it: no entry changes and nothing is said
of it. What the jobs of the namespace need is made where it is missing and never changed. The state
is never written unless the outputs are asked for in its place, and deleted only by a pass that
releases the configuration. While the configuration is active its destroy job is spared; once it
waits to go the job that applied it is deleted at most. -/
theorem pass_footprint (settings : Settings) (resolve : Resolver) (s : Session)
    (request : Request) (keyed : s.store.WellKeyed) :
    let s' := ((configurationPass settings resolve request).on s).2
    (s.store.get? (request.key .configuration) = none → s' = s) ∧
    ∀ c, s.store.get? (request.key .configuration) = some (.configuration c) →
      let t := Target.of settings c
      (t.ns = request.ns ∧ t.name = request.name) ∧
      (∀ key, key ≠ t.key → ¬ t.Touches c key → key ≠ t.stateSecretKey → s.Spares key s') ∧
      (∀ key, key.kind = .provider → s.Spares key s') ∧
      (∀ key o, t.Provides key o →
        ((s.store.get? key).isSome → s.Spares key s') ∧
        (s.store.get? key = none →
          s'.store.get? key = none ∨ s'.store.get? key = some (o.asNew s.now))) ∧
      match c.metadata.lifecycle with
      | .active =>
        (¬ Target.Publishes c t.stateSecretKey → s.Spares t.stateSecretKey s') ∧
        s.Spares (t.jobKey .destroy) s'
      | .terminating =>
        ∀ key, key = t.stateSecretKey ∨ key = t.jobKey .apply →
          s.Spares key s' ∨ s.Releases settings resolve c ∧
            s'.store.get? key = (s.store.get? key).bind s.remains := by
  intro s'
  refine ⟨fun missing => ?_, fun c found => ?_⟩
  · have unread := (keyed.read_eq_none_iff (τ := Configuration) rfl).mpr missing
    show ((configurationPass settings resolve request).on s).2 = s
    rw [on_configurationPass keyed, unread]
  have held : s.store.read Configuration (request.key .configuration) = some c :=
    Store.read_eq_some_iff.mpr found
  have steps := Session.steps_configurationPass settings resolve keyed held
  have here : (Target.of settings c).key = request.key .configuration :=
    Target.key_of (keyed.placed held)
  intro t
  have spared : ∀ key, key ≠ t.key → ¬ t.Touches c key → key ≠ t.stateSecretKey →
      s.Spares key s' :=
    fun key => Session.spares_configurationPass keyed held settings resolve
  refine ⟨⟨congrArg ObjectKey.ns here, congrArg ObjectKey.name here⟩, spared, ?_,
    fun key o => Session.provided_configurationPass keyed held settings resolve, ?_⟩
  · intro key provider
    refine spared key ?_ (fun touched => touched.not_provider provider) ?_ <;>
      · rintro rfl
        cases provider
  · cases lifecycle : c.metadata.lifecycle with
    | active =>
      rw [lifecycle] at steps
      have job : ∀ published : Target.Publishes c (t.jobKey .destroy), False :=
        fun published => nomatch published.kind
      refine ⟨fun unpublished => ?_, ?_⟩
      · refine steps.spares (fun own => ?_) (fun o made => ?_) id
        · exact own.elim stateSecretKey_not_mem_ownKeys unpublished
        · rcases Target.Provides.kind made with kind | kind | kind <;> cases kind
      · refine steps.spares (fun own => ?_) (fun o made => ?_) id
        · exact own.elim (jobKey_not_mem_ownKeys nofun) job
        · rcases Target.Provides.kind made with kind | kind | kind <;> cases kind
    | terminating =>
      rw [lifecycle] at steps
      rintro key (rfl | rfl)
      · refine cleared_of_release steps stateSecretKey_not_mem_ownKeys (fun o made => ?_) And.left
        rcases Target.Provides.kind made with kind | kind | kind <;> cases kind
      · refine cleared_of_release steps (jobKey_not_mem_ownKeys nofun) (fun o made => ?_) And.left
        rcases Target.Provides.kind made with kind | kind | kind <;> cases kind

end Reconcile

theorem Sample.wellKeyed_twins : Sample.twins.store.WellKeyed :=
  Store.wellKeyed_ofList (by decide)

namespace Reconcile

/-- The pass that lets the twin go says nothing of the configuration whose secrets it takes. -/
theorem pass_footprint_twins :
    Sample.twins.store.WellKeyed ∧
    Sample.twins.Spares (Sample.request.key .configuration)
      ((configurationPass {} Sample.anonymous Sample.twinRequest).on Sample.twins).2 := by
  refine ⟨Sample.wellKeyed_twins, ?_⟩
  have footprint := (pass_footprint {} Sample.anonymous Sample.twins Sample.twinRequest
    Sample.wellKeyed_twins).2 Sample.twin rfl
  obtain ⟨-, spared, -⟩ := footprint
  exact spared _ (by decide) (fun touched => touched.not_configuration rfl) (by decide)

end Reconcile

end Provisioner
