import Provisioner.Proofs.Lifecycle
import Provisioner.Proofs.Reachability

/-!
What a key tells of the object under it. Whatever is done to a store, an object is under a key of
its kind, so a search fails for no other reason than that it asks for another kind than the key's,
and what a list of resources leaves out is of other kinds. Name and namespace are another matter.
All that is added and all that passes write is under its own key, but an edit stores what it makes
of a resource under the key at which the resource was found, whatever it is called then. So an
object is under its own key as long as no edit there renames it, and no longer.
-/

namespace Provisioner

open Reconcile

variable {τ : Type} [Resource τ] {s : Session} {key : ObjectKey} {o p : Object} {e : Error} {r : τ}

/-! ### Happenings -/

/-- All that can happen to a store: an operation is asked for, somebody listens, time goes by, or a
pass runs over a configuration or a provider. -/
inductive Happening : Type 1
  | occurrence (e : Occurrence)
  | pass (settings : Settings) (resolve : Resolver) (request : Request)
  | providerPass (resolve : Resolver) (request : Request)

namespace Session

/-- The session after something has happened. -/
def undergo (s : Session) : Happening → Session
  | .occurrence e => s.meet e
  | .pass settings resolve request => ((configurationPass settings resolve request).on s).2
  | .providerPass resolve request => ((providerPass resolve request).on s).2

/-- The session after some things have happened, one after the other. -/
def having (s : Session) (l : List Happening) : Session := l.foldl undergo s

/-- Operations are among what a session can come about by. -/
theorem Reachable.leaves (reachable : s.Reachable) (a : Operation) : (a.leaves s).Reachable := by
  cases a with
  | add τ r | update τ r =>
    rw [Operation.leaves_eq]
    simp only [Operation.intent]
    cases named : (Resource.wrap r).key? with
    | none => exact reachable
    | some key =>
      have added : ((Pass.add r).on s).2.Reachable := reachable.add (Resource.wrap r)
      rw [Pass.on_add named] at added
      exact added
  | updateWith τ key f =>
    unfold Operation.leaves Operation.pass
    rw [Pass.on_map]
    exact reachable.edit τ key f
  | delete τ r =>
    rw [Operation.leaves_eq]
    simp only [Operation.intent]
    cases (Resource.wrap r).key? with
    | none => exact reachable
    | some key => exact reachable.delete key
  | deleteByKey key => exact reachable.delete key

theorem Reachable.having (reachable : s.Reachable) (l : List Happening) :
    (s.having l).Reachable := by
  induction l generalizing s with
  | nil => exact reachable
  | cons h rest ih =>
    refine ih ?_
    cases h with
    | occurrence e =>
      cases e with
      | operation a => exact reachable.leaves a
      | register kind listener => exact reachable.register kind listener
      | clock now => exact reachable.clock now
    | pass settings resolve request => exact reachable.pass settings resolve request
    | providerPass resolve request => exact reachable.providerPass resolve request

end Session

/-! ### Kinds -/

namespace Session

/-- Passes keep every object under a key of its kind. -/
theorem abiding_kinded : Abiding fun s => s.store.Kinded where
  write _ _ _ named kinded := kinded_write kinded (Metadata.kind_of_key? named).symm
  edit _ _ _ key f _ kinded := kinded_edit kinded key f
  delete _ key kinded := kinded_delete kinded key
  handOver _ _ kinded := kinded

theorem Reachable.kinded (reachable : s.Reachable) : s.store.Kinded :=
  reachable.abides abiding_kinded (fun _ _ _ held => nomatch held)
    (fun _ _ _ key f kinded => kinded_edit kinded key f) (fun _ _ _ kinded => kinded)
    fun _ _ kinded => kinded

end Session

/-! ### Typed views -/

namespace Store

/-- The keys of a kind that there is something under. -/
def keysOf (s : Store) (kind : Kind) : List ObjectKey := s.items.keys.filter (·.kind = kind)

theorem mem_keysOf {s : Store} {kind : Kind} :
    key ∈ s.keysOf kind ↔ key.kind = kind ∧ (s.get? key).isSome := by
  unfold keysOf get?
  rw [List.mem_filter, Dict.mem_keys_iff, decide_eq_true_eq, and_comm]

theorem nodup_keysOf (s : Store) (kind : Kind) : (s.keysOf kind).Nodup :=
  s.items.nodup_keys.filter _

namespace Kinded

variable {s : Store} (kinded : s.Kinded)
include kinded

theorem find_eq_error_iff :
    s.find τ key = .error e ↔
      key.kind ≠ Resource.kind τ ∧ e = .kindMismatch key (Resource.kind τ) := by
  by_cases kind : key.kind = Resource.kind τ
  · simp [kinded.find kind, kind]
  · simp [find_of_other kind, kind, eq_comm]

theorem find_eq_none_iff :
    s.find τ key = .ok none ↔ key.kind = Resource.kind τ ∧ s.get? key = none := by
  by_cases kind : key.kind = Resource.kind τ
  · rw [kinded.find kind, Except.ok.injEq, kinded.read_eq_none_iff kind, and_iff_right kind]
  · simp [find_of_other kind, kind]

theorem find_eq_some_iff :
    s.find τ key = .ok (some r) ↔ s.get? key = some (Resource.wrap r) := by
  constructor
  · intro found
    exact read_eq_some_iff.mp (read_of_find found)
  · intro held
    have kind := (kinded key _ held).symm.trans (Resource.kind_wrap r)
    exact find_of_read kind (read_eq_some_iff.mpr held)

/-- The resources of a type are what is under the keys of its kind, one for one. -/
theorem map_keysOf :
    (s.keysOf (Resource.kind τ)).map s.get? =
      (s.resources τ).map fun r => some (Resource.wrap r) := by
  unfold keysOf resources objects Dict.keys Dict.values
  have entry : ∀ x ∈ s.items.entries, s.get? x.1 = some x.2 ∧ x.2.kind = x.1.kind := by
    intro x listed
    have held : s.get? x.1 = some x.2 := Dict.get?_eq_some_iff.mpr listed
    exact ⟨held, kinded x.1 x.2 held⟩
  generalize s.items.entries = entries at entry ⊢
  induction entries with
  | nil => rfl
  | cons x rest ih =>
    obtain ⟨⟨held, same⟩, later⟩ := List.forall_mem_cons.mp entry
    have ih := ih later
    by_cases kind : x.1.kind = Resource.kind τ
    · obtain ⟨r, -, wrapped⟩ := kinded.read_of_get? kind held
      have found : (Resource.unwrap? x.2 : Option τ) = some r :=
        (Resource.unwrap?_eq_some_iff _ _).mpr wrapped
      simp only [List.map_cons, List.filter_cons, kind, same, decide_true, if_true,
        List.filterMap_cons, found, held, ih]
      rw [wrapped]
    · simp [kind, same, ih]

end Kinded

end Store

namespace Pass

/-- An edit fails just if the search for its resource does. -/
theorem updateWith_eq_error_iff (f : τ → τ) :
    ((updateWith key f).on s).1 = .error e ↔ s.store.find τ key = .error e := by
  rw [on_updateWith_find]
  rcases s.store.find τ key with e | _ | r <;> simp

/-- An edit finds nothing just if the search for its resource does: it reads back what it wrote. -/
theorem updateWith_eq_none_iff (f : τ → τ) :
    ((updateWith key f).on s).1 = .ok none ↔ s.store.find τ key = .ok none := by
  rw [on_updateWith_find]
  rcases s.store.find τ key with e | _ | r
  · rfl
  · rfl
  · obtain ⟨r', read⟩ := Option.isSome_iff_exists.mp (s.isSome_read_write key (f r))
    simp [read]

end Pass

/-- Every object in a session that has come about is under a key of its kind. So a search by key, by
name, or for an edit fails just if the key is of another kind than is asked for, and finds nothing
just if there is nothing; and the resources of a type are what is under the keys of its kind, each
once. -/
theorem Session.Reachable.kind_safe (reachable : s.Reachable) :
    (∀ key o, s.store.get? key = some o → o.kind = key.kind) ∧
    ∀ (τ : Type) [Resource τ],
      (∀ key e, s.store.find τ key = .error e ↔
        key.kind ≠ Resource.kind τ ∧ e = .kindMismatch key (Resource.kind τ)) ∧
      (∀ key, s.store.find τ key = .ok none ↔
        key.kind = Resource.kind τ ∧ s.store.get? key = none) ∧
      (∀ key r, s.store.find τ key = .ok (some r) ↔ s.store.get? key = some (Resource.wrap r)) ∧
      (∀ ns name, ∃ found, s.store.findNamed τ ns name = .ok found ∧
        (found = none ↔ s.store.get? ⟨Resource.kind τ, ns, name⟩ = none)) ∧
      (∀ key (f : τ → τ) e, ((Pass.updateWith key f).on s).1 = .error e ↔
        key.kind ≠ Resource.kind τ ∧ e = .kindMismatch key (Resource.kind τ)) ∧
      (∀ key (f : τ → τ), ((Pass.updateWith key f).on s).1 = .ok none ↔
        key.kind = Resource.kind τ ∧ s.store.get? key = none) ∧
      ∃ keys : List ObjectKey, keys.Nodup ∧
        (∀ key, key ∈ keys ↔ key.kind = Resource.kind τ ∧ (s.store.get? key).isSome) ∧
        keys.map s.store.get? = (s.store.resources τ).map fun r => some (Resource.wrap r) := by
  have kinded := reachable.kinded
  refine ⟨kinded, fun τ _ => ⟨fun _ _ => kinded.find_eq_error_iff, fun _ => kinded.find_eq_none_iff,
    fun _ _ => kinded.find_eq_some_iff, fun ns name => ?_, fun key f e => ?_, fun key f => ?_,
    s.store.keysOf (Resource.kind τ), s.store.nodup_keysOf _, fun _ => Store.mem_keysOf,
    kinded.map_keysOf⟩⟩
  · exact ⟨_, kinded.find rfl, kinded.read_eq_none_iff rfl⟩
  · rw [Pass.updateWith_eq_error_iff]
    exact kinded.find_eq_error_iff
  · rw [Pass.updateWith_eq_none_iff]
    exact kinded.find_eq_none_iff

namespace Sample

/-- The secret under another name. -/
def relocated (secret : Secret) : Secret :=
  { secret with metadata := { secret.metadata with name := some "moved" } }

/-- A configuration and a secret are added, the secret is renamed where it is, and a pass runs over
the configuration. -/
def moving : List Happening :=
  [.occurrence (.operation (.add Configuration hooked)),
   .occurrence (.operation (.add Secret Demo.credentials)),
   .occurrence (.operation (.updateWith Secret credentialsKey relocated)),
   .pass {} anonymous request]

theorem reachable_moving : (unwritten.having moving).Reachable :=
  (Session.Reachable.empty ⟨0, 0⟩).having moving

end Sample

/-- The secret that was renamed where it was is still found as a secret, and as nothing else. -/
theorem Session.Reachable.kind_safe_moved :
    (Sample.unwritten.having Sample.moving).Reachable ∧
    (Sample.unwritten.having Sample.moving).store.find Configuration Sample.credentialsKey =
      .error (.kindMismatch Sample.credentialsKey .configuration) ∧
    (Sample.unwritten.having Sample.moving).store.find Secret Sample.credentialsKey ≠ .ok none := by
  obtain ⟨-, typed⟩ := kind_safe Sample.reachable_moving
  obtain ⟨fails, -⟩ := typed Configuration
  obtain ⟨-, absent, -⟩ := typed Secret
  refine ⟨Sample.reachable_moving, (fails _ _).mpr ⟨nofun, rfl⟩, fun missing => ?_⟩
  obtain ⟨-, gone⟩ := (absent _).mp missing
  have there : ((Sample.unwritten.having Sample.moving).store.get? Sample.credentialsKey).isSome =
      true := by decide +kernel
  rw [gone] at there
  cases there

/-! ### Keys -/

namespace Operation

/-- An edit of the resource under a key makes something of it that has another key, or none. -/
def Renames (s : Store) (key : ObjectKey) : Operation → Prop
  | updateWith τ k f =>
    k = key ∧ ∃ r, s.find τ key = .ok (some r) ∧ (Resource.wrap (f r)).key? ≠ some key
  | _ => False

/-- What is written under a key has that key unless it is an edit that renames. -/
theorem key?_of_intent {a : Operation} (means : a.intent s.store = .write key o) :
    o.key? = some key ∨ a.Renames s.store key := by
  cases a with
  | add τ r | update τ r =>
    simp only [intent] at means
    cases named : (Resource.wrap r).key? with
    | none =>
      rw [named] at means
      cases means
    | some k =>
      rw [named] at means
      cases means
      exact .inl named
  | updateWith τ k f =>
    simp only [intent] at means
    split at means
    · rename_i r found
      cases means
      by_cases named : (Resource.wrap (f r)).key? = some key
      · exact .inl named
      · exact .inr ⟨rfl, r, found, named⟩
    · cases means
  | delete τ r =>
    simp only [intent] at means
    cases named : (Resource.wrap r).key? <;> rw [named] at means <;> cases means
  | deleteByKey k => cases means

/-- An edit that renames writes an object under a key that is not its own. -/
theorem intent_of_renames {a : Operation} (renames : a.Renames s.store key) :
    ∃ w, a.intent s.store = .write key w ∧ w.key? ≠ some key := by
  cases a with
  | updateWith τ k f =>
    obtain ⟨rfl, r, found, other⟩ := renames
    exact ⟨_, by simp only [intent, found], other⟩
  | _ => exact renames.elim

end Operation

def Happening.Renames (s : Store) (key : ObjectKey) : Happening → Prop
  | .occurrence (.operation a) => a.Renames s key
  | _ => False

namespace Session

/-- Somewhere among some happenings the object under a key is renamed. -/
def Renamed (key : ObjectKey) : Session → List Happening → Prop
  | _, [] => False
  | s, h :: rest => h.Renames s.store key ∨ Renamed key (s.undergo h) rest

/-- Passes keep what is under its own key there. -/
theorem abiding_keyedAt (key : ObjectKey) : Abiding fun s => s.store.KeyedAt key where
  write _ _ _ named keyed := keyedAt_write keyed named
  edit _ _ _ k _ keeps keyed := keyedAt_edit keyed k keeps
  delete _ k keyed := keyedAt_delete keyed k
  handOver _ _ keyed := keyed

theorem keyedAt_leaves (keyed : s.store.KeyedAt key) {a : Operation}
    (kept : ¬ a.Renames s.store key) : (a.leaves s).store.KeyedAt key := by
  rw [a.leaves_eq]
  cases means : a.intent s.store with
  | nothing => exact keyed
  | delete k => exact keyedAt_delete keyed k
  | write k w =>
    by_cases here : k = key
    · subst here
      exact keyedAt_write keyed ((Operation.key?_of_intent means).resolve_right kept)
    · intro p held
      change (s.write k w).store.get? key = some p at held
      rw [get?_write_of_ne s w (Ne.symm here)] at held
      exact keyed p held

theorem keyedAt_undergo (keyed : s.store.KeyedAt key) {h : Happening}
    (kept : ¬ h.Renames s.store key) : (s.undergo h).store.KeyedAt key := by
  cases h with
  | occurrence e =>
    cases e with
    | operation a => exact keyedAt_leaves keyed kept
    | register kind listener => exact keyed
    | clock now => exact keyed
  | pass settings resolve request =>
    exact (abiding_keyedAt key).configurationPass settings resolve request s keyed
  | providerPass resolve request => exact (abiding_keyedAt key).providerPass resolve request s keyed

theorem keyedAt_having (keyed : s.store.KeyedAt key) {l : List Happening}
    (kept : ¬ s.Renamed key l) : (s.having l).store.KeyedAt key := by
  induction l generalizing s with
  | nil => exact keyed
  | cons h rest ih =>
    obtain ⟨first, later⟩ := not_or.mp kept
    exact ih (keyedAt_undergo keyed first) later

/-- What is written over an object under its own key and has another is not passed over. -/
theorem not_keyedAt_write (keyed : s.store.KeyedAt key) (other : o.key? ≠ some key) :
    ∃ p, (s.write key o).store.get? key = some p ∧ p.key? ≠ some key := by
  refine ⟨_, get?_write_self s key o, ?_⟩
  rcases Object.stored_cases s.now o (s.store.get? key) with
    ⟨p, held, stays, alike⟩ | ⟨g, c, replaced⟩
  · have same := Object.key?_of_same alike
    rw [Object.takingOver_eq, Object.key?_timed, keyed p held] at same
    exact absurd same other
  · rw [replaced, Object.key?_timed]
    exact other

end Session

/-- An object that is under its own key stays so whatever happens, but for an edit of it that
renames it: name, namespace and kind are then those that the key tells. An edit that renames is not
refused, and leaves under the key an object with another key, or with none. -/
theorem own_key_over_runs (keyed : s.store.KeyedAt key) (l : List Happening)
    (kept : ¬ s.Renamed key l) :
    (∀ o, (s.having l).store.get? key = some o → o.key? = some key ∧ o.kind = key.kind ∧
      o.metadata.ns.getD "" = key.ns ∧ o.metadata.name = some key.name) ∧
    ∀ h : Happening, h.Renames (s.having l).store key →
      ∃ o, ((s.having l).undergo h).store.get? key = some o ∧ o.key? ≠ some key := by
  have keyed := Session.keyedAt_having keyed kept
  refine ⟨fun o held => ?_, fun h renames => ?_⟩
  · obtain ⟨kind, ns, name, -⟩ := Metadata.key?_eq_some_iff.mp (keyed o held)
    exact ⟨keyed o held, kind.symm, ns.symm, name⟩
  · cases h with
    | occurrence e =>
      cases e with
      | operation a =>
        obtain ⟨w, means, other⟩ := Operation.intent_of_renames renames
        have leaves : a.leaves (s.having l) = (s.having l).write key w := by
          rw [a.leaves_eq, means]
          rfl
        change ∃ o, (a.leaves (s.having l)).store.get? key = some o ∧ o.key? ≠ some key
        rw [leaves]
        exact Session.not_keyedAt_write keyed other
      | register kind listener => exact renames.elim
      | clock now => exact renames.elim
    | pass settings resolve request => exact renames.elim
    | providerPass resolve request => exact renames.elim

/-- The configuration stays under its own key while the secret beside it is renamed. -/
theorem own_key_over_runs_moving :
    Sample.unwritten.store.KeyedAt Sample.entryKey ∧
    ¬ Sample.unwritten.Renamed Sample.entryKey Sample.moving ∧
    ∃ o, (Sample.unwritten.having Sample.moving).store.get? Sample.entryKey = some o ∧
      o.key? = some Sample.entryKey ∧ o.metadata.name = some "web" := by
  have keyed : Sample.unwritten.store.KeyedAt Sample.entryKey := Store.keyedAt_of_absent rfl
  have kept : ¬ Sample.unwritten.Renamed Sample.entryKey Sample.moving := by
    simp [Session.Renamed, Sample.moving, Happening.Renames, Operation.Renames,
      Sample.credentialsKey, Sample.entryKey]
  obtain ⟨o, held⟩ := Option.isSome_iff_exists.mp (show ((Sample.unwritten.having
    Sample.moving).store.get? Sample.entryKey).isSome = true by decide +kernel)
  obtain ⟨named, -, -, name⟩ := (own_key_over_runs keyed Sample.moving kept).1 o held
  exact ⟨keyed, kept, o, held, named, name⟩

/-- An edit can leave an object under a key that is not its own. -/
theorem renamed_where_it_was :
    (Sample.unwritten.having Sample.moving).Reachable ∧
    ∃ o, (Sample.unwritten.having Sample.moving).store.get? Sample.credentialsKey = some o ∧
      o.key? = some { Sample.credentialsKey with name := "moved" } := by
  have told : ((Sample.unwritten.having Sample.moving).store.get? Sample.credentialsKey).map
      (·.key?) = some (some { Sample.credentialsKey with name := "moved" }) := by decide +kernel
  exact ⟨Sample.reachable_moving, Option.map_eq_some_iff.mp told⟩

end Provisioner
