import Provisioner.Demo
import Provisioner.Proofs.Notices

/-!
What the operations on a store do, whoever asks for them. An operation means one thing: to write an
object under its key, to delete what is under it, or nothing. Nothing changes under other keys; a
change of the written form is announced once, to whoever listens to the key's kind; and what is not
done is not announced. A write that would leave the written form as it is is not done, so an object
that is written again is passed over, whatever generation its writer tells.
-/

namespace Provisioner

variable {τ : Type} [Resource τ] {s s' : Session} {key : ObjectKey} {o p : Object}

/-- What can be asked of a store that may change it. -/
inductive Operation : Type 1
  | add (τ : Type) [Resource τ] (r : τ)
  | update (τ : Type) [Resource τ] (r : τ)
  | updateWith (τ : Type) [Resource τ] (key : ObjectKey) (f : τ → τ)
  | delete (τ : Type) [Resource τ] (r : τ)
  | deleteByKey (key : ObjectKey)

/-- What an operation answers. -/
inductive Reply
  | added (key : ObjectKey)
  | updated
  | found (o : Option Object)
  | deleted (outcome : Deletion)

/-- What an operation means to do to a store. -/
inductive Intent
  | nothing
  | write (key : ObjectKey) (o : Object)
  | delete (key : ObjectKey)

/-- The answers that tell that there was nothing to do: an error, no resource, or nothing found. -/
inductive Idle : Except Error Reply → Prop
  | failed (e : Error) : Idle (.error e)
  | absent : Idle (.ok (.found none))
  | notFound : Idle (.ok (.deleted .notFound))

/-- A session after what was meant has been done. -/
def Session.carryOut (s : Session) : Intent → Session
  | .nothing => s
  | .write key o => s.write key o
  | .delete key => (s.delete key).2

/-- A key shows nothing in either store, or objects that are written alike. -/
def Store.AlikeAt (s s' : Store) (key : ObjectKey) : Prop :=
  Option.Rel (fun o p => o.same p = true) (s.get? key) (s'.get? key)

namespace Operation

def pass : Operation → Pass Reply
  | add _ r => Reply.added <$> Pass.add r
  | update _ r => (fun _ => Reply.updated) <$> Pass.update r
  | updateWith _ key f => (fun r => Reply.found (r.map Resource.wrap)) <$> Pass.updateWith key f
  | delete _ r => Reply.deleted <$> (Pass.keyOf (Resource.wrap r) >>= Pass.delete)
  | deleteByKey key => Reply.deleted <$> Pass.delete key

def answer (a : Operation) (s : Session) : Except Error Reply := (a.pass.on s).1

def leaves (a : Operation) (s : Session) : Session := (a.pass.on s).2

/-- The key that an operation is about; none for an object without a name. -/
def key? : Operation → Option ObjectKey
  | add _ r => (Resource.wrap r).key?
  | update _ r => (Resource.wrap r).key?
  | updateWith _ key _ => some key
  | delete _ r => (Resource.wrap r).key?
  | deleteByKey key => some key

def intent (s : Store) : Operation → Intent
  | add _ r => ((Resource.wrap r).key?.map fun key => .write key (Resource.wrap r)).getD .nothing
  | update _ r => ((Resource.wrap r).key?.map fun key => .write key (Resource.wrap r)).getD .nothing
  | updateWith τ key f =>
    match s.find τ key with
    | .ok (some r) => .write key (Resource.wrap (f r))
    | _ => .nothing
  | delete _ r => ((Resource.wrap r).key?.map .delete).getD .nothing
  | deleteByKey key => .delete key

end Operation

/-! ### What an operation comes to -/

theorem Store.kind_of_find {s : Store} {found : Option τ} (answered : s.find τ key = .ok found) :
    key.kind = Resource.kind τ := by
  unfold Store.find at answered
  split at answered
  · assumption
  · cases answered

theorem Session.isSome_read_write (s : Session) (key : ObjectKey) (r : τ) :
    ((s.write key (Resource.wrap r)).store.read τ key).isSome := by
  unfold Store.read
  rw [get?_write_self, Option.bind_some, Resource.isSome_unwrap?, Object.kind_stored]
  exact Resource.kind_wrap r

/-- Where nothing is found to be deleted, nothing is. -/
theorem Session.delete_of_idle (idle : Idle (.ok (.deleted (s.delete key).1))) :
    (s.delete key).2 = s := by
  unfold delete at idle ⊢
  split at idle
  · rfl
  · split at idle <;> cases idle

namespace Pass

theorem on_keyOf (o : Object) :
    (keyOf o).on s = (o.key?.elim (.error (.noName o.kind)) .ok, s) := by
  unfold keyOf
  cases o.key? <;> rfl

theorem on_add_of_nameless {r : τ} (nameless : (Resource.wrap r).key? = none) :
    (add r).on s = (.error (.noName (Resource.wrap r).kind), s) := by
  unfold add addObject
  rw [on_bind, on_keyOf, nameless]
  rfl

theorem on_update_of_nameless {r : τ} (nameless : (Resource.wrap r).key? = none) :
    (update r).on s = (.error (.noName (Resource.wrap r).kind), s) := by
  unfold update
  rw [on_bind, on_add_of_nameless nameless]

theorem on_updateWith_find (key : ObjectKey) (f : τ → τ) :
    (updateWith key f).on s =
      match s.store.find τ key with
      | .ok (some r) =>
        (.ok ((s.write key (Resource.wrap (f r))).store.read τ key),
          s.write key (Resource.wrap (f r)))
      | found => (found, s) := by
  unfold updateWith
  rw [on_bind, on_find]
  rcases s.store.find τ key with e | _ | r <;> rfl

end Pass

namespace Operation

/-- What is answered and left once it has been done what was meant, about a key. -/
inductive Does (s : Session) : Option ObjectKey → Intent → Except Error Reply × Session → Prop
  | nothing {about : Option ObjectKey} {reply : Except Error Reply} (idle : Idle reply) :
      Does s about .nothing (reply, s)
  | write {key : ObjectKey} {o : Object} {reply : Except Error Reply} (kind : o.kind = key.kind)
      (busy : ¬ Idle reply) : Does s (some key) (.write key o) (reply, s.write key o)
  | delete {key : ObjectKey} :
      Does s (some key) (.delete key) (.ok (.deleted (s.delete key).1), (s.delete key).2)

theorem does_intent (a : Operation) (s : Session) :
    Does s a.key? (a.intent s.store) (a.pass.on s) := by
  cases a with
  | add τ r =>
    simp only [Operation.key?, intent, pass, Pass.on_map]
    cases named : (Resource.wrap r).key? with
    | none =>
      rw [Pass.on_add_of_nameless named]
      exact .nothing (.failed _)
    | some key =>
      rw [Pass.on_add named]
      exact .write (Metadata.kind_of_key? named).symm nofun
  | update τ r =>
    simp only [Operation.key?, intent, pass, Pass.on_map]
    cases named : (Resource.wrap r).key? with
    | none =>
      rw [Pass.on_update_of_nameless named]
      exact .nothing (.failed _)
    | some key =>
      rw [Pass.on_update named]
      exact .write (Metadata.kind_of_key? named).symm nofun
  | updateWith τ key f =>
    simp only [Operation.key?, intent, pass, Pass.on_map, Pass.on_updateWith_find]
    rcases found : s.store.find τ key with e | _ | r
    · exact .nothing (.failed _)
    · exact .nothing .absent
    · -- What is read back after the write is a resource, whatever the write made of it.
      obtain ⟨r', read⟩ := Option.isSome_iff_exists.mp (s.isSome_read_write key (f r))
      simp only [read]
      exact .write ((Resource.kind_wrap _).trans (Store.kind_of_find found).symm) nofun
  | delete τ r =>
    simp only [Operation.key?, intent, pass, Pass.on_map, Pass.on_bind, Pass.on_keyOf]
    cases (Resource.wrap r).key? with
    | none => exact .nothing (.failed _)
    | some key => exact .delete
  | deleteByKey key => exact .delete

theorem leaves_eq (a : Operation) (s : Session) :
    a.leaves s = s.carryOut (a.intent s.store) := by
  have does := a.does_intent s
  unfold leaves
  generalize a.key? = about, a.intent s.store = i, a.pass.on s = ran at does ⊢
  cases does <;> rfl

/-- An operation writes under no key but its own. -/
theorem leaves_cases (a : Operation) (s : Session) :
    a.leaves s = s ∨ ∃ key, a.key? = some key ∧ s.Writes key (a.leaves s) := by
  have does := a.does_intent s
  unfold leaves
  generalize a.key? = about, a.intent s.store = i, a.pass.on s = ran at does ⊢
  cases does with
  | nothing idle => exact .inl rfl
  | write => exact .inr ⟨_, rfl, s.writes_write _ _⟩
  | delete => exact .inr ⟨_, rfl, s.writes_delete _⟩

/-- What is written is of the kind of its key. -/
theorem kind_of_intent {a : Operation} (means : a.intent s.store = .write key o) :
    o.kind = key.kind := by
  have does := a.does_intent s
  rw [means] at does
  generalize a.key? = about, a.pass.on s = ran at does
  cases does with
  | write kind _ => exact kind

/-- An operation that found nothing to do has done nothing. -/
theorem leaves_of_idle (a : Operation) (idle : Idle (a.answer s)) : a.leaves s = s := by
  have does := a.does_intent s
  unfold answer at idle
  unfold leaves
  generalize a.key? = about, a.intent s.store = i, a.pass.on s = ran at does idle ⊢
  cases does with
  | nothing _ => rfl
  | write _ busy => exact absurd idle busy
  | delete => exact Session.delete_of_idle idle

end Operation

/-! ### What is announced -/

/-- What takes the place of an object is not written like it. -/
theorem Object.unlike_of_replacing {o' : Object} (replaced : p.replacing o = some o') :
    o'.same p = false := by
  simp only [replacing] at replaced
  split at replaced
  · cases replaced
  · rename_i unlike
    split at replaced
    · cases replaced
      exact Bool.eq_false_iff.mpr unlike
    · rename_i respecified
      cases replaced
      -- Its generation, 64 bits wide, need not tell it apart, but what it specifies does.
      refine Bool.eq_false_iff.mpr fun alike => respecified ?_
      have spec := sameSpec_of_same alike
      unfold sameSpec advanced at spec
      rw [specJson?_withMetadata] at spec
      exact spec

namespace Store

theorem alikeAt_of_get? {s s' : Store} (same : s'.get? key = s.get? key) : s'.AlikeAt s key := by
  unfold AlikeAt
  rw [same]
  cases s.get? key with
  | none => exact .none
  | some o => exact .some o.same_refl

end Store

namespace Session

/-- A change of what is shown under some key has been announced. -/
theorem Writes.sent_of_unlike {k : ObjectKey} (writes : s.Writes k s')
    (unlike : ¬ s'.store.AlikeAt s.store key) :
    s'.sent = s.sent ++ s.store.announcement key := by
  by_cases here : key = k
  · rw [here] at unlike ⊢
    exact writes.sent_of_changed (mt Store.alikeAt_of_get? unlike)
  · exact absurd (Store.alikeAt_of_get? (writes.get?_of_ne here)) unlike

theorem unlike_put (unlike : ∀ p, s.store.get? key = some p → o.same p = false) :
    ¬ (s.put key o).store.AlikeAt s.store key := by
  intro alike
  unfold Store.AlikeAt at alike
  rw [get?_put, if_pos rfl] at alike
  cases held : s.store.get? key with
  | none =>
    rw [held] at alike
    cases alike
  | some p =>
    rw [held] at alike
    cases alike with
    | some alike =>
      rw [unlike p held] at alike
      cases alike

/-- A write that does anything changes what is shown. -/
theorem write_cases (s : Session) (key : ObjectKey) (o : Object) :
    s.write key o = s ∨ ¬ (s.write key o).store.AlikeAt s.store key := by
  unfold write
  split
  · rename_i missing
    exact .inr (unlike_put fun p held => absurd (missing.symm.trans held) nofun)
  · rename_i p held
    split
    · exact .inl rfl
    · rename_i o' replaced
      refine .inr (unlike_put fun q found => ?_)
      cases held.symm.trans found
      exact Object.unlike_of_replacing replaced

theorem holds_of_takingOver (held : s.store.get? key = some p)
    (alike : (p.takingOver o).same p = true) : s.store.Holds key o :=
  ⟨p, held, by simp [Object.replacing, alike]⟩

theorem holds_retold {g : Option Int} {c d : Option Timestamp}
    (held : (s.write key o).store.get? key = some p)
    (created : ∀ t, c = some t → p.metadata.creationTimestamp = some t)
    (deleted : d.isSome → p.metadata.deletionTimestamp.isSome) :
    (s.write key o).store.Holds key (o.retold g c d) :=
  ⟨p, held, Object.replacing_retold (Option.some.inj ((get?_write_self s key o).symm.trans held))
    created deleted⟩

end Session

/-- An operation changes nothing under keys that are not its own, and sends at most one notice,
about its own. It sends that notice, to the listener of the key's kind, if the written form changes.
A write either does nothing, as where what would be stored is written like what is, or changes the
written form. An operation that answers that there was nothing to do has done nothing. And an object
that has just been written is passed over, also if its writer tells another generation, and of the
times only those that are stored. -/
theorem Operation.announces_changes (a : Operation) (s : Session) :
    (∀ key, a.key? ≠ some key → (a.leaves s).store.get? key = s.store.get? key) ∧
    ((a.leaves s).sent = s.sent ∨
      ∃ key, a.key? = some key ∧ (a.leaves s).sent = s.sent ++ s.store.announcement key) ∧
    (∀ key, ¬ (a.leaves s).store.AlikeAt s.store key →
      (a.leaves s).sent = s.sent ++ s.store.announcement key) ∧
    (∀ key o, a.intent s.store = .write key o →
      a.leaves s = s ∨ ¬ (a.leaves s).store.AlikeAt s.store key) ∧
    (∀ key o p, a.intent s.store = .write key o → s.store.get? key = some p →
      (p.takingOver o).same p = true → a.leaves s = s) ∧
    (Idle (a.answer s) → a.leaves s = s) ∧
    (∀ (b : Operation) key o, a.intent s.store = .write key o →
      b.intent (a.leaves s).store = .write key o → b.leaves (a.leaves s) = a.leaves s) ∧
    (∀ (b : Operation) key o p g (c d : Option Timestamp), a.intent s.store = .write key o →
      (a.leaves s).store.get? key = some p →
      (∀ t, c = some t → p.metadata.creationTimestamp = some t) →
      (d.isSome → p.metadata.deletionTimestamp.isSome) →
      b.intent (a.leaves s).store = .write key (o.retold g c d) →
      b.leaves (a.leaves s) = a.leaves s) := by
  have written {a : Operation} {s : Session} {key : ObjectKey} {o : Object}
      (means : a.intent s.store = .write key o) : a.leaves s = s.write key o := by
    rw [a.leaves_eq, means]
    rfl
  refine ⟨fun key other => ?_, ?_, fun key unlike => ?_, fun key o means => ?_,
    fun key o p means held alike => ?_, a.leaves_of_idle, fun b key o means again => ?_,
    fun b key o p g c d means held created deleted again => ?_⟩
  · rcases a.leaves_cases s with nothing | ⟨k, own, writes⟩
    · rw [nothing]
    · exact writes.get?_of_ne fun here => other (here ▸ own)
  · rcases a.leaves_cases s with nothing | ⟨k, own, writes⟩
    · exact .inl (by rw [nothing])
    · exact writes.sent_cases.imp (fun same => by rw [same]) fun announced => ⟨k, own, announced⟩
  · rcases a.leaves_cases s with nothing | ⟨k, -, writes⟩
    · exact absurd (Store.alikeAt_of_get? (by rw [nothing])) unlike
    · exact writes.sent_of_unlike unlike
  · rw [written means]
    exact s.write_cases key o
  · rw [written means]
    exact Session.write_of_holds (Session.holds_of_takingOver held alike)
  · rw [written again, written means]
    exact Session.write_of_holds (s.holds_write key o)
  · rw [written again]
    rw [written means] at held ⊢
    exact Session.write_of_holds (Session.holds_retold held created deleted)

namespace Sample

/-- A session in which somebody listens to the changes of secrets, of which there are none. -/
def attentive : Session where
  store := { listeners := .singleton .secret 0 }
  now := ⟨0, 0⟩

def credentialsKey : ObjectKey := ⟨.secret, "vela-system", "hashicups-account-creds"⟩

end Sample

/-- A secret that is added is announced; written again, it is passed over. -/
theorem Operation.announces_changes_twice :
    ((add Secret Demo.credentials).leaves Sample.attentive).sent =
      [⟨0, Sample.credentialsKey⟩] ∧
    (update Secret Demo.credentials).leaves
        ((add Secret Demo.credentials).leaves Sample.attentive) =
      (add Secret Demo.credentials).leaves Sample.attentive := by
  obtain ⟨-, -, announced, -, -, -, again, -⟩ :=
    announces_changes (add Secret Demo.credentials) Sample.attentive
  refine ⟨announced Sample.credentialsKey ?_, again _ Sample.credentialsKey _ rfl rfl⟩
  intro alike
  change Option.Rel _ (some _) none at alike
  cases alike

end Provisioner
