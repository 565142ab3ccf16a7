import Provisioner.Proofs.Remit

/-!
Sessions that a pass cannot tell apart. A pass sees what is under the keys that it reads and writes,
and of what its jobs need only whether it is there. So two sessions resemble each other for a pass
if they are the same under those keys, except that what the pass would provide may already be there
in the second one, just as the pass would make it. Each part of a pass answers the same in both and
leaves sessions that resemble each other again.
-/

namespace Provisioner

open Reconcile
open Executor (Inputs Report)

variable {τ α : Type} [Resource τ] {s s' s₁ s₁' : Session} {t : Target} {c : Configuration}
  {kept : ObjectKey → Prop} {key : ObjectKey} {o : Object} {settings : Settings} {b : Bundle}
  {env : Dict String String}

/-! ### The same operation in two sessions -/

namespace Session

variable (same : s'.store.get? key = s.store.get? key) (now : s'.now = s.now)
include same now

theorem get?_write_congr (o : Object) :
    (s'.write key o).store.get? key = (s.write key o).store.get? key := by
  rw [get?_write_self, get?_write_self, same, now]

theorem get?_edit_congr (f : τ → τ) :
    (s'.edit key f).store.get? key = (s.edit key f).store.get? key := by
  unfold edit
  rw [Store.read_congr same]
  cases s.store.read τ key with
  | none => exact same
  | some r => exact get?_write_congr same now _

theorem get?_delete_congr : (s'.delete key).2.store.get? key = (s.delete key).2.store.get? key := by
  rw [get?_delete_self, get?_delete_self, same, remains_congr now]

theorem get?_provide_congr (o : Object) :
    (s'.provide key o).store.get? key = (s.provide key o).store.get? key := by
  unfold provide
  rw [same]
  split
  · exact get?_write_congr same now o
  · exact same

end Session

@[simp] theorem Session.now_provide (s : Session) (key : ObjectKey) (o : Object) :
    (s.provide key o).now = s.now := by
  unfold provide
  split
  · exact now_write _ _ _
  · rfl

/-! ### Resemblance -/

/-- The kinds of what passes over configurations write and delete. -/
def Kind.isWritten : Kind → Bool
  | .configuration | .configMap | .secret | .job => true
  | .provider | .serviceAccount | .clusterRole | .clusterRoleBinding => false

/-- The keys under which a pass sees what there is: those that it writes to and those of the state,
the outputs, the provider and the credentials. -/
inductive Target.Sees (t : Target) (c : Configuration) (credential : Option ObjectKey) :
    ObjectKey → Prop
  | own {e : Execution} {key : ObjectKey} (listed : key ∈ t.ownKeys e) : Sees t c credential key
  | state : Sees t c credential t.stateSecretKey
  | connection {key : ObjectKey} (published : Publishes c key) : Sees t c credential key
  | provider : Sees t c credential c.providerKey
  | credential {key : ObjectKey} (kept : credential = some key) : Sees t c credential key

theorem Target.Provides.kind_not_written (provides : t.Provides key o) :
    key.kind.isWritten = false := by
  cases provides <;> rfl

namespace Target.Sees

variable {credential : Option ObjectKey}

theorem self : t.Sees c credential t.key := .own (e := .apply) (by simp [ownKeys])

theorem source : t.Sees c credential t.inputBundleKey := .own (e := .apply) (by simp [ownKeys])

theorem values : t.Sees c credential t.variableSecretKey := .own (e := .apply) (by simp [ownKeys])

theorem job (e : Execution) : t.Sees c credential (t.jobKey e) := .own (e := e) (by simp [ownKeys])

end Target.Sees

theorem Target.Sees.kind {store : Store} (sees : t.Sees c (store.credentialKey? c) key) :
    key.kind.isWritten = true ∨ key.kind = .provider := by
  cases sees with
  | own listed =>
    simp only [ownKeys, List.mem_cons, List.not_mem_nil, or_false] at listed
    rcases listed with rfl | rfl | rfl | rfl <;> exact .inl rfl
  | state => exact .inl rfl
  | connection published => exact .inl (by rw [published.kind]; rfl)
  | provider => exact .inr rfl
  | credential kept => exact .inl (by rw [Store.kind_of_credentialKey kept]; rfl)

/-- What a pass provides it does not see. -/
theorem Target.Sees.not_provides {store : Store} (sees : t.Sees c (store.credentialKey? c) key)
    (o : Object) : ¬ t.Provides key o := by
  intro provides
  rcases sees.kind with written | provider
  · exact absurd (provides.kind_not_written.symm.trans written) nofun
  · rcases provides.kind with kind | kind | kind <;> cases provider.symm.trans kind

/-- Two sessions that a pass cannot tell apart. Of what the pass would provide the second one has
kept what the first one has, or it has already what the pass would make. -/
structure Session.Resembles (t : Target) (c : Configuration) (kept : ObjectKey → Prop)
    (s s' : Session) : Prop where
  keyed : s.store.WellKeyed
  keyed' : s'.store.WellKeyed
  now : s'.now = s.now
  seen : ∀ key, t.Sees c (s.store.credentialKey? c) key → s'.store.get? key = s.store.get? key
  shared : ∀ key o, t.Provides key o → kept key → s'.store.get? key = s.store.get? key
  lent : ∀ key o, t.Provides key o → ¬ kept key → s'.store.get? key = some (o.asNew s.now) ∧
    (s.store.get? key = none ∨ s.store.get? key = some (o.asNew s.now))

/-- Two runs that answer the same and leave sessions that resemble each other. -/
structure Pass.Likewise (t : Target) (c : Configuration) (kept : ObjectKey → Prop)
    (ran ran' : Except Error α × Session) : Prop where
  answer : ran'.1 = ran.1
  left : ran.2.Resembles t c kept ran'.2

namespace Session.Resembles

/-- What a pass may write may be changed in both sessions alike. -/
theorem step (alike : s.Resembles t c kept s') (kind : key.kind.isWritten = true)
    (keyed : s₁.store.WellKeyed) (keyed' : s₁'.store.WellKeyed)
    (now : s₁.now = s.now) (now' : s₁'.now = s'.now)
    (rest : ∀ k, k ≠ key → s₁.store.get? k = s.store.get? k)
    (rest' : ∀ k, k ≠ key → s₁'.store.get? k = s'.store.get? k)
    (same : s₁'.store.get? key = s₁.store.get? key) : s₁.Resembles t c kept s₁' := by
  have provider : s₁.store.get? c.providerKey = s.store.get? c.providerKey := by
    refine rest _ ?_
    rintro rfl
    cases kind
  have other : ∀ k o, t.Provides k o → k ≠ key := by
    rintro k o provides rfl
    exact absurd (provides.kind_not_written.symm.trans kind) nofun
  refine ⟨keyed, keyed', now'.trans (alike.now.trans now.symm), fun k sees => ?_,
    fun k o provides free => ?_, fun k o provides given => ?_⟩
  · rw [Store.credentialKey?_congr provider] at sees
    by_cases there : k = key
    · rw [there, same]
    · rw [rest k there, rest' k there, alike.seen k sees]
  · have apart := other k o provides
    rw [rest k apart, rest' k apart, alike.shared k o provides free]
  · have apart := other k o provides
    rw [rest k apart, rest' k apart, now]
    exact alike.lent k o provides given

variable (alike : s.Resembles t c kept s')
include alike

/-! #### What is seen -/

theorem self : s'.store.get? t.key = s.store.get? t.key :=
  alike.seen _ .self

theorem source : s'.store.get? t.inputBundleKey = s.store.get? t.inputBundleKey :=
  alike.seen _ .source

theorem values : s'.store.get? t.variableSecretKey = s.store.get? t.variableSecretKey :=
  alike.seen _ .values

theorem job (e : Execution) : s'.store.get? (t.jobKey e) = s.store.get? (t.jobKey e) :=
  alike.seen _ (.job e)

theorem provider : s'.store.get? c.providerKey = s.store.get? c.providerKey :=
  alike.seen _ .provider

theorem resolveCredentials :
    Reconcile.resolveCredentials Provider.resolve c s'.store =
      Reconcile.resolveCredentials Provider.resolve c s.store :=
  resolveCredentials_congr alike.provider fun key kept => alike.seen key (.credential kept)

theorem report (e : Execution) : s'.store.report (t.jobKey e) = s.store.report (t.jobKey e) := by
  unfold Store.report
  rw [Store.read_congr (alike.job e)]

theorem plan (settings : Settings) (i : Inputs) (changed : Bool) (e : Execution) :
    s'.plan settings t i changed e = s.plan settings t i changed e := by
  unfold Session.plan
  rw [Store.read_congr (alike.job e)]

theorem otherOwner {ns name : String} (asked : c.connectionSecret? = some (ns, name)) :
    s'.store.otherOwner? t ns name = s.store.otherOwner? t ns name :=
  Store.otherOwner?_congr (alike.seen _ (.connection ⟨ns, name, asked, rfl⟩))

theorem deletable : s'.store.deletable c = s.store.deletable c := by
  unfold Store.deletable
  rw [Store.read_congr alike.provider]

theorem connection : ownConnectionKey? t c s'.store = ownConnectionKey? t c s.store := by
  unfold ownConnectionKey?
  refine Option.bind_congr fun asked published => ?_
  have found : s'.store.findNamed Secret asked.1 asked.2 =
      s.store.findNamed Secret asked.1 asked.2 :=
    Store.find_congr (alike.seen _ (.connection ⟨asked.1, asked.2, published, rfl⟩))
  dsimp only
  rw [found]

/-! #### Single operations -/

theorem write (here : t.Sees c (s.store.credentialKey? c) key) (kind : key.kind.isWritten = true)
    (named : o.key? = some key) : (s.write key o).Resembles t c kept (s'.write key o) :=
  alike.step kind (Session.wellKeyed_write alike.keyed named)
    (Session.wellKeyed_write alike.keyed' named) (Session.now_write _ _ _)
    (Session.now_write _ _ _) (fun _ => Session.get?_write_of_ne s o)
    (fun _ => Session.get?_write_of_ne s' o)
    (Session.get?_write_congr (alike.seen key here) alike.now o)

theorem delete (here : t.Sees c (s.store.credentialKey? c) key) (kind : key.kind.isWritten = true) :
    (s.delete key).2.Resembles t c kept (s'.delete key).2 :=
  alike.step kind (Session.wellKeyed_delete alike.keyed key)
    (Session.wellKeyed_delete alike.keyed' key) (Session.now_delete _ _) (Session.now_delete _ _)
    (fun _ => Session.get?_delete_of_ne s) (fun _ => Session.get?_delete_of_ne s')
    (Session.get?_delete_congr (alike.seen key here) alike.now)

theorem edit {f : Configuration → Configuration} (keeps : KeepsKey f) :
    (s.edit t.key f).Resembles t c kept (s'.edit t.key f) :=
  alike.step rfl (Session.wellKeyed_edit alike.keyed _ keeps)
    (Session.wellKeyed_edit alike.keyed' _ keeps) (Session.now_edit _ _ _) (Session.now_edit _ _ _)
    (fun _ => Session.get?_edit_of_ne s f) (fun _ => Session.get?_edit_of_ne s' f)
    (Session.get?_edit_congr alike.self alike.now f)

/-- Providing what is only seen, not shared. -/
theorem provide_own (here : t.Sees c (s.store.credentialKey? c) key)
    (kind : key.kind.isWritten = true) (named : o.key? = some key) :
    (s.provide key o).Resembles t c kept (s'.provide key o) :=
  alike.step kind (Session.wellKeyed_provide alike.keyed named)
    (Session.wellKeyed_provide alike.keyed' named) (Session.now_provide _ _ _)
    (Session.now_provide _ _ _) (fun _ => Session.get?_provide_of_ne s o)
    (fun _ => Session.get?_provide_of_ne s' o)
    (Session.get?_provide_congr (alike.seen key here) alike.now o)

/-- What is shared is provided in both sessions, or it is there already. -/
theorem provide (provides : t.Provides key o) (named : o.key? = some key) :
    (s.provide key o).Resembles t c kept (s'.provide key o) := by
  have rest : ∀ k, k ≠ key → (s.provide key o).store.get? k = s.store.get? k :=
    fun _ => Session.get?_provide_of_ne s o
  have rest' : ∀ k, k ≠ key → (s'.provide key o).store.get? k = s'.store.get? k :=
    fun _ => Session.get?_provide_of_ne s' o
  have provider : (s.provide key o).store.get? c.providerKey = s.store.get? c.providerKey := by
    refine rest _ ?_
    rintro rfl
    rcases provides.kind with kind | kind | kind <;> cases kind
  refine ⟨Session.wellKeyed_provide alike.keyed named, Session.wellKeyed_provide alike.keyed' named,
    by rw [Session.now_provide, Session.now_provide, alike.now], fun k sees => ?_,
    fun k o' provides' free => ?_, fun k o' provides' given => ?_⟩
  · rw [Store.credentialKey?_congr provider] at sees
    have apart : k ≠ key := fun there => sees.not_provides o (there ▸ provides)
    rw [rest k apart, rest' k apart, alike.seen k sees]
  · by_cases there : k = key
    · subst there
      exact Session.get?_provide_congr (alike.shared k o provides free) alike.now o
    · rw [rest k there, rest' k there, alike.shared k o' provides' free]
  · by_cases there : k = key
    · subst there
      cases provides.unique provides'
      obtain ⟨given', missing | held⟩ := alike.lent k o provides given
      · rw [Session.provide_of_isSome (given' ▸ rfl), Session.now_provide]
        refine ⟨given', .inr ?_⟩
        unfold Session.provide
        rw [missing, Option.isNone_none, if_pos rfl, Session.get?_write_self, missing]
        rfl
      · rw [Session.provide_of_isSome (given' ▸ rfl), Session.provide_of_isSome (held ▸ rfl)]
        exact ⟨given', .inr held⟩
    · rw [rest k there, rest' k there, Session.now_provide]
      exact alike.lent k o' provides' given

theorem handOver (j j' : ObjectKey) : (s.handOver j).Resembles t c kept (s'.handOver j') :=
  ⟨alike.keyed, alike.keyed', alike.now, alike.seen, alike.shared, alike.lent⟩

/-! #### Parts of a pass -/

theorem keep (b : Bundle) : (s.keep t b).Resembles t c kept (s'.keep t b) :=
  alike.write .source rfl (key?_bundleMap t b)

theorem hold : (s.hold t c).Resembles t c kept (s'.hold t c) := by
  unfold Session.hold
  split
  · exact alike
  · exact alike.edit note_withOwnFinalizer.gentle.keepsKey

theorem reload (differ : Bool) : (s.reload t differ).Resembles t c kept (s'.reload t differ) := by
  unfold Session.reload
  split
  · exact alike.edit (gentle_withApplyStatus _ _ _).keepsKey
  · exact alike

theorem settleVariables (env : Dict String String) :
    (s.settleVariables t env).Resembles t c kept (s'.settleVariables t env) :=
  alike.provide_own .values rfl (key?_variableSecret t env)

theorem provideRole : (s.provideRole t).Resembles t c kept (s'.provideRole t) :=
  alike.provide .role (key?_role t)

theorem start (settings : Settings) (i : Inputs) (e : Execution) :
    (s.start settings t i e).Resembles t c kept (s'.start settings t i e) := by
  have secret := alike.write .values rfl (key?_variableSecret t i.env)
  have account := secret.provide .account (key?_account t)
  have binding := account.provide .binding (key?_binding t _ _)
  have job := binding.write (.job e) rfl (key?_job settings t i e)
  exact job.handOver _ _

theorem converge (settings : Settings) (i : Inputs) (changed : Bool) (e : Execution) :
    (s.converge settings t i changed e).Resembles t c kept
      (s'.converge settings t i changed e) := by
  unfold Session.converge
  rw [alike.plan]
  split
  · exact alike
  · exact ((alike.delete (.job e) rfl).delete .values rfl).start settings i e
  · exact alike.start settings i e

theorem ready (settings : Settings) (b : Bundle) (env : Dict String String) :
    (s.ready settings t b env).Resembles t c kept (s'.ready settings t b env) := by
  unfold Session.ready
  rw [Store.variablesDiffer_congr alike.values]
  exact (((alike.settleVariables env).reload _).provideRole).converge settings _ _ .apply

theorem publish {ns name : String} (asked : c.connectionSecret? = some (ns, name))
    (outputs : Dict String String) :
    (s.publish t ns name outputs).Resembles t c kept (s'.publish t ns name outputs) := by
  have here : t.Sees c (s.store.credentialKey? c) ⟨.secret, ns, name⟩ :=
    .connection ⟨ns, name, asked, rfl⟩
  unfold Session.publish
  rw [Store.read_congr (alike.seen _ here)]
  refine alike.write here rfl ?_
  cases found : s.store.read Secret ⟨.secret, ns, name⟩ with
  | none => exact key?_outputs asked outputs
  | some secret =>
    have placed := alike.keyed _ _ (Store.read_eq_some_iff.mp found)
    exact placed

theorem deleteAll {keys : List ObjectKey}
    (here : ∀ key ∈ keys, t.Sees c (s.store.credentialKey? c) key ∧ key.kind.isWritten = true) :
    (s.deleteAll keys).Resembles t c kept (s'.deleteAll keys) := by
  induction keys generalizing s s' with
  | nil => exact alike
  | cons key rest ih =>
    obtain ⟨sees, written⟩ := here key List.mem_cons_self
    have provider : (s.delete key).2.store.get? c.providerKey = s.store.get? c.providerKey := by
      refine Session.get?_delete_of_ne s ?_
      rintro rfl
      cases written
    refine ih (alike.delete sees written) fun k listed => ?_
    rw [Store.credentialKey?_congr provider]
    exact here k (List.mem_cons_of_mem key listed)

theorem cleanup : (s.cleanup t c).Resembles t c kept (s'.cleanup t c) := by
  unfold Session.cleanup
  rw [alike.connection]
  refine alike.deleteAll fun key listed => ?_
  rcases List.mem_append.mp listed with generated | own
  · simp only [generatedKeys, List.mem_cons, List.not_mem_nil, or_false] at generated
    rcases generated with rfl | rfl | rfl | rfl | rfl
    · exact ⟨.source, rfl⟩
    · exact ⟨.values, rfl⟩
    · exact ⟨.state, rfl⟩
    · exact ⟨.job .apply, rfl⟩
    · exact ⟨.job .destroy, rfl⟩
  · obtain ⟨ns, name, asked, rfl⟩ := Session.own_connection (Option.mem_toList.mp own)
    exact ⟨.connection ⟨ns, name, asked, rfl⟩, rfl⟩

theorem letGo : (s.letGo t c).Resembles t c kept (s'.letGo t c) := by
  have noted := alike.edit (f := withDestroyStatus .destroyed "Cloud resources are destroyed")
    (note_withDestroyStatus _ _).gentle.keepsKey
  have released := noted.cleanup.edit gentle_withoutOwnFinalizer.keepsKey
  exact released.delete .self rfl

end Session.Resembles

/-! ### Whole passes -/

namespace Session.Resembles

variable (alike : s.Resembles t c kept s')
include alike

theorem generate :
    Pass.Likewise t c kept ((Outputs.generate c t).on s) ((Outputs.generate c t).on s') := by
  rw [on_generate alike.keyed, on_generate alike.keyed', read_congr (alike.seen _ .state)]
  cases Outputs.read s.store t with
  | error e => exact ⟨rfl, alike⟩
  | ok outputs =>
    cases asked : c.connectionSecret? with
    | none => exact ⟨rfl, alike⟩
    | some place =>
      obtain ⟨ns, name⟩ := place
      simp only
      rw [alike.otherOwner asked]
      cases s.store.otherOwner? t ns name with
      | some owner => exact ⟨rfl, alike⟩
      | none => exact ⟨rfl, alike.publish asked outputs⟩

theorem recordProgress (report : Report) :
    Pass.Likewise t c kept ((Reconcile.recordProgress t c report).on s)
      ((Reconcile.recordProgress t c report).on s') := by
  obtain ⟨progress, message⟩ := report
  cases failure : progress.failureState with
  | some state =>
    rw [on_recordFailure failure, on_recordFailure failure]
    exact ⟨rfl, alike.edit (gentle_withApplyStatus _ _ _).keepsKey⟩
  | none =>
    cases progress with
    | initError | applyError | invalidRegion => cases failure
    | succeeded =>
      change Pass.Likewise t c kept ((recordSuccess t c).on s) ((recordSuccess t c).on s')
      have generated := alike.generate
      rw [on_recordSuccess, on_recordSuccess, generated.answer]
      refine ⟨rfl, generated.left.edit ?_⟩
      cases ((Outputs.generate c t).on s).1 <;> exact (gentle_withApplyStatus _ _ _).keepsKey
    | provisioning =>
      change Pass.Likewise t c kept ((recordRunning t).on s) ((recordRunning t).on s')
      rw [on_recordRunning alike.keyed, on_recordRunning alike.keyed', Store.read_congr alike.self]
      refine ⟨rfl, ?_⟩
      dsimp only
      split
      · exact alike
      · exact alike.edit (gentle_withApplyStatus _ _ _).keepsKey

theorem run (settings : Settings) (b : Bundle) :
    Pass.Likewise t c kept ((Reconcile.run settings Provider.resolve t c b).on s)
      ((Reconcile.run settings Provider.resolve t c b).on s') := by
  rw [on_run alike.keyed, on_run alike.keyed', alike.resolveCredentials]
  cases Reconcile.resolveCredentials Provider.resolve c s.store with
  | error e => exact ⟨rfl, alike.edit (gentle_withApplyStatus _ _ _).keepsKey⟩
  | ok credentials =>
    simp only
    cases environment c credentials with
    | error e => exact ⟨rfl, alike⟩
    | ok env =>
      have ready := alike.ready settings b env
      simp only
      rw [ready.report]
      exact ready.recordProgress _

theorem apply (settings : Settings) (placed : (Resource.wrap c).key? = some t.key) :
    Pass.Likewise t c kept ((Reconcile.apply settings Provider.resolve t c).on s)
      ((Reconcile.apply settings Provider.resolve t c).on s') := by
  have held := alike.hold
  rw [on_apply alike.keyed placed, on_apply alike.keyed' placed]
  cases bundle t c with
  | error e =>
    cases e with
    | invalid e => exact ⟨rfl, held.edit (gentle_withApplyStatus _ _ _).keepsKey⟩
    | _ => exact ⟨rfl, held⟩
  | ok b =>
    simp only
    rw [Store.bundleDiffers_congr held.source]
    split
    · exact ⟨rfl, (held.keep b).edit (gentle_withApplyStatus _ _ _).keepsKey⟩
    · exact (held.keep b).run settings b

theorem prepare :
    Pass.Likewise t c kept ((Reconcile.prepare Provider.resolve t c).on s)
      ((Reconcile.prepare Provider.resolve t c).on s') := by
  rw [on_prepare alike.keyed, on_prepare alike.keyed']
  cases bundle t c with
  | error e => exact ⟨rfl, alike⟩
  | ok b =>
    have kept := alike.keep b
    simp only
    rw [kept.resolveCredentials]
    cases Reconcile.resolveCredentials Provider.resolve c (s.keep t b).store with
    | error e => exact ⟨rfl, kept⟩
    | ok credentials =>
      simp only
      cases environment c credentials with
      | error e => exact ⟨rfl, kept⟩
      | ok env =>
        simp only
        rw [Store.bundleDiffers_congr alike.source, Store.variablesDiffer_congr kept.values]
        exact ⟨rfl, (kept.settleVariables env).provideRole⟩

theorem destroyResources (settings : Settings) :
    Pass.Likewise t c kept ((Reconcile.destroyResources settings Provider.resolve t c).on s)
      ((Reconcile.destroyResources settings Provider.resolve t c).on s') := by
  obtain ⟨answer, prepared⟩ := alike.prepare
  rw [on_destroyResources alike.keyed, on_destroyResources alike.keyed']
  rcases ran : (Reconcile.prepare Provider.resolve t c).on s with ⟨answered, s₁⟩
  rcases ran' : (Reconcile.prepare Provider.resolve t c).on s' with ⟨answered', s₁'⟩
  rw [ran, ran'] at answer prepared
  cases answer
  have left : s₁.Resembles t c kept s₁' := prepared
  clear prepared
  cases answered with
  | error e => exact ⟨rfl, left.edit (note_withDestroyStatus _ _).gentle.keepsKey⟩
  | ok prepared =>
    obtain ⟨i, changed⟩ := prepared
    have noted := (left.converge settings i changed .destroy).edit
      (f := withDestroyStatus .destroying "Cloud resources are being destroyed...")
      (note_withDestroyStatus _ _).gentle.keepsKey
    dsimp only
    rw [noted.report]
    split
    · exact ⟨rfl, noted⟩
    · exact ⟨rfl, noted⟩
    · exact ⟨rfl, noted.edit (note_withDestroyStatus _ _).gentle.keepsKey⟩

theorem destroy (settings : Settings) :
    Pass.Likewise t c kept ((Reconcile.destroy settings Provider.resolve t c).on s)
      ((Reconcile.destroy settings Provider.resolve t c).on s') := by
  rw [on_destroy alike.keyed, on_destroy alike.keyed', alike.deletable]
  split
  · exact ⟨rfl, alike⟩
  · split
    · obtain ⟨answer, left⟩ := alike.destroyResources settings
      rcases ran : (Reconcile.destroyResources settings Provider.resolve t c).on s with
        ⟨answered, s₁⟩
      rcases ran' : (Reconcile.destroyResources settings Provider.resolve t c).on s' with
        ⟨answered', s₁'⟩
      rw [ran, ran'] at answer left
      cases answer
      cases answered with
      | error e => exact ⟨rfl, left⟩
      | ok _ => exact ⟨rfl, left.letGo⟩
    · exact ⟨rfl, alike.letGo⟩

end Session.Resembles

/-- A pass over a configuration cannot tell two sessions apart that resemble each other. -/
theorem Session.Resembles.configurationPass {request : Request}
    (alike : s.Resembles (.of settings c) c kept s')
    (held : s.store.read Configuration (request.key .configuration) = some c) :
    Pass.Likewise (.of settings c) c kept
      ((Reconcile.configurationPass settings Provider.resolve request).on s)
      ((Reconcile.configurationPass settings Provider.resolve request).on s') := by
  have placed := alike.keyed.placed held
  have here : (Target.of settings c).key = request.key .configuration := Target.key_of placed
  have held' : s'.store.read Configuration (request.key .configuration) = some c := by
    rw [← here] at held ⊢
    rw [Store.read_congr alike.self, held]
  rw [on_configurationPass_of_read held, on_configurationPass_of_read held']
  suffices pursued : Pass.Likewise (.of settings c) c kept
      ((pursue settings Provider.resolve c).on s) ((pursue settings Provider.resolve c).on s') from
    ⟨congrArg Reconcile.answer pursued.answer, pursued.left⟩
  unfold pursue
  cases c.metadata.lifecycle with
  | active => exact alike.apply settings (here ▸ placed)
  | terminating => exact alike.destroy settings

end Provisioner
