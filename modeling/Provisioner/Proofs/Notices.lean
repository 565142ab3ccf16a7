import Provisioner.Proofs.Triggering

/-!
Which notices are sent. Every change of what is under a key sends one notice to the listener of the
key's kind, if there is one, and what changes nothing sends none; nobody begins or ends to listen by
writing. So the parts of a pass that write to other kinds of object say nothing of configurations.
-/

namespace Provisioner

open Reconcile
open Executor (Inputs)

variable {τ : Type} [Resource τ] {s s' s'' : Session} {t : Target} {c : Configuration}
  {key : ObjectKey} {kind : Kind} {settings : Settings} {resolve : Resolver}

/-! ### Single operations -/

/-- What a change under a key sends: a notice, if somebody listens to changes of its kind. -/
def Store.announcement (s : Store) (key : ObjectKey) : List Notice :=
  (s.listeners.get? key.kind).toList.map (⟨·, key⟩)

theorem Store.announcement_congr {s s' : Store} (same : s'.listeners = s.listeners)
    (key : ObjectKey) : s'.announcement key = s.announcement key := by
  unfold announcement
  rw [same]

namespace Session

/-- What an operation on a key comes to: nothing, or an object is stored, or taken out. -/
inductive Writes (key : ObjectKey) (s : Session) : Session → Prop
  | nothing : Writes key s s
  | put (o : Object) : Writes key s (s.put key o)
  | remove : Writes key s (s.remove key)

theorem writes_write (s : Session) (key : ObjectKey) (o : Object) :
    s.Writes key (s.write key o) := by
  unfold write
  split
  · exact .put _
  · split
    · exact .nothing
    · exact .put _

theorem writes_delete (s : Session) (key : ObjectKey) : s.Writes key (s.delete key).2 := by
  unfold delete
  split
  · exact .nothing
  · split
    · exact .put _
    · exact .remove

theorem writes_edit (s : Session) (key : ObjectKey) (f : τ → τ) : s.Writes key (s.edit key f) := by
  unfold edit
  split
  · exact .nothing
  · exact writes_write s key _

theorem writes_provide (s : Session) (key : ObjectKey) (o : Object) :
    s.Writes key (s.provide key o) := by
  unfold provide
  split
  · exact writes_write s key o
  · exact .nothing

theorem sent_notify (s : Session) (key : ObjectKey) :
    (s.notify key).sent = s.sent ++ s.store.announcement key := by
  unfold notify Store.announcement
  cases s.store.listeners.get? key.kind <;> simp

namespace Writes

theorem listeners (writes : s.Writes key s') : s'.store.listeners = s.store.listeners := by
  cases writes with
  | nothing => rfl
  | put o =>
    unfold Session.put
    rw [store_notify]
    rfl
  | remove =>
    unfold Session.remove
    rw [store_notify]
    rfl

/-- Whatever is stored or taken out is announced, just once. -/
theorem sent_cases (writes : s.Writes key s') :
    s' = s ∨ s'.sent = s.sent ++ s.store.announcement key := by
  cases writes with
  | nothing => exact .inl rfl
  | put o => exact .inr (sent_notify _ _)
  | remove => exact .inr (sent_notify _ _)

/-- What is not under the key afterwards as it was before has been announced. -/
theorem sent_of_changed (writes : s.Writes key s')
    (changed : s'.store.get? key ≠ s.store.get? key) :
    s'.sent = s.sent ++ s.store.announcement key := by
  rcases writes.sent_cases with same | announced
  · exact absurd (by rw [same]) changed
  · exact announced

theorem get?_of_ne {other : ObjectKey} (writes : s.Writes key s') (apart : other ≠ key) :
    s'.store.get? other = s.store.get? other := by
  cases writes with
  | nothing => rfl
  | put o => rw [get?_put, if_neg apart]
  | remove => rw [get?_remove, if_neg apart]

end Writes

/-! ### Notices of a kind -/

/-- The notices about objects of a kind that were sent. -/
def told (s : Session) (kind : Kind) : List Notice := s.sent.filter (·.key.kind = kind)

theorem told_append {announced : List Notice} (sent : s'.sent = s.sent ++ announced)
    (kinds : ∀ n ∈ announced, n.key.kind = kind) : s'.told kind = s.told kind ++ announced := by
  have all : announced.filter (·.key.kind = kind) = announced :=
    List.filter_eq_self.mpr fun n listed => by simpa using kinds n listed
  unfold told
  rw [sent, List.filter_append, all]

theorem key_of_announcement {store : Store} {n : Notice} (listed : n ∈ store.announcement key) :
    n.key = key := by
  unfold Store.announcement at listed
  obtain ⟨listener, -, rfl⟩ := List.mem_map.mp listed
  rfl

/-- Nothing is said of a kind, and its listener stays. -/
structure Quiet (kind : Kind) (s s' : Session) : Prop where
  told : s'.told kind = s.told kind
  listeners : s'.store.listeners = s.store.listeners

theorem Quiet.refl : s.Quiet kind s := ⟨rfl, rfl⟩

theorem Quiet.trans (first : s.Quiet kind s') (second : s'.Quiet kind s'') : s.Quiet kind s'' :=
  ⟨second.told.trans first.told, second.listeners.trans first.listeners⟩

/-- Objects of another kind are of no concern. -/
theorem Writes.quiet (writes : s.Writes key s') (other : key.kind ≠ kind) : s.Quiet kind s' := by
  refine ⟨?_, writes.listeners⟩
  rcases writes.sent_cases with same | announced
  · rw [same]
  · have none : (s.store.announcement key).filter (·.key.kind = kind) = [] := by
      refine List.filter_eq_nil_iff.mpr fun n listed => ?_
      simpa [key_of_announcement listed] using other
    unfold Session.told
    rw [announced, List.filter_append, none, List.append_nil]

/-! ### Parts of a pass -/

theorem quiet_keep (b : Bundle) : s.Quiet .configuration (s.keep t b) :=
  (writes_write _ _ _).quiet nofun

theorem quiet_settleVariables (env : Dict String String) :
    s.Quiet .configuration (s.settleVariables t env) := (writes_provide _ _ _).quiet nofun

theorem quiet_provideRole : s.Quiet .configuration (s.provideRole t) :=
  (writes_provide _ _ _).quiet nofun

theorem quiet_start (settings : Settings) (i : Inputs) (e : Execution) :
    s.Quiet .configuration (s.start settings t i e) := by
  have first : s.Quiet .configuration _ :=
    (writes_write s t.variableSecretKey (Resource.wrap (variableSecret t i.env))).quiet nofun
  have second : s.Quiet .configuration _ := first.trans ((writes_provide _ t.accountKey
    (Resource.wrap (Access.account t.ns Names.serviceAccount))).quiet nofun)
  have third : s.Quiet .configuration _ := second.trans ((writes_provide _ t.bindingKey
    (Resource.wrap (Access.binding t.ns (Names.clusterRole t.ns) Names.serviceAccount))).quiet nofun)
  have fourth : s.Quiet .configuration _ := third.trans ((writes_write _ (t.jobKey e)
    (Resource.wrap (Executor.job settings t i e))).quiet nofun)
  exact ⟨fourth.told, fourth.listeners⟩

theorem quiet_converge (settings : Settings) (i : Inputs) (changed : Bool) (e : Execution) :
    s.Quiet .configuration (s.converge settings t i changed e) := by
  unfold converge
  split
  · exact .refl
  · have job : s.Quiet .configuration (s.delete (t.jobKey e)).2 := (writes_delete _ _).quiet nofun
    have secret : s.Quiet .configuration _ :=
      job.trans ((writes_delete _ t.variableSecretKey).quiet nofun)
    exact secret.trans (quiet_start settings i e)
  · exact quiet_start settings i e

end Session

namespace Reconcile

/-- Preparing a destroy job says nothing of configurations. -/
theorem quiet_prepare (resolve : Resolver) (keyed : s.store.WellKeyed) :
    s.Quiet .configuration ((prepare resolve t c).on s).2 := by
  rcases prepare_cases resolve keyed (t := t) (c := c) with
    ⟨e, ran⟩ | ⟨b, -, ⟨e, ran⟩ | ⟨env, -, ran⟩⟩
  · rw [ran]
    exact .refl
  · rw [ran]
    exact Session.quiet_keep b
  · rw [ran]
    exact ((Session.quiet_keep b).trans (Session.quiet_settleVariables env)).trans
      Session.quiet_provideRole

end Reconcile

end Provisioner
