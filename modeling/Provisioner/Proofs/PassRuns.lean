import Provisioner.Proofs.StoreWrites

/-!
What passes do when they run. A pass takes a session to an answer and the session it leaves; every
way of putting passes together is told by the runs of its parts.
-/

namespace Provisioner

variable {α β τ : Type} [Resource τ] {s : Session} {key : ObjectKey}

namespace Pass

/-- The answer of a pass and the session that it leaves. -/
def on (p : Pass α) (s : Session) : Except Error α × Session := (ExceptT.run p).run s

@[simp] theorem on_pure (a : α) : (pure a : Pass α).on s = (.ok a, s) := rfl

@[simp] theorem on_get : (getThe Session : Pass Session).on s = (.ok s, s) := rfl

@[simp] theorem on_modify (f : Session → Session) :
    (modifyThe Session f : Pass Unit).on s = (.ok (), f s) := rfl

theorem on_bind (p : Pass α) (f : α → Pass β) :
    (p >>= f).on s =
      match p.on s with
      | (.ok a, s') => (f a).on s'
      | (.error e, s') => (.error e, s') := by
  show (match p s with | (a, s') => ExceptT.bindCont f a s') = _
  show _ = match p s with
    | (.ok a, s') => (f a).on s'
    | (.error e, s') => (.error e, s')
  rcases p s with ⟨a | a, s'⟩ <;> rfl

theorem on_tryCatch (p : Pass α) (handle : Error → Pass α) :
    (tryCatchThe Error p handle).on s =
      match p.on s with
      | (.ok a, s') => (.ok a, s')
      | (.error e, s') => (handle e).on s' := by
  simp only [on, tryCatchThe, MonadExceptOf.tryCatch, ExceptT.tryCatch, ExceptT.run_mk,
    StateT.run_bind]
  change _ = match StateT.run p s with
    | (.ok a, s') => (Except.ok a, s')
    | (.error e, s') => StateT.run (handle e) s'
  rcases StateT.run p s with ⟨a | a, s'⟩ <;> rfl

@[simp] theorem on_map (f : α → β) (p : Pass α) :
    (f <$> p).on s = ((p.on s).1.map f, (p.on s).2) := by
  rw [← bind_pure_comp, on_bind]
  rcases p.on s with ⟨a | a, s'⟩ <;> rfl

@[simp] theorem on_ask (question : Store → Except Error α) :
    (ask question).on s = (question s.store, s) := by
  unfold ask
  rw [on_bind, on_get]
  simp only
  cases question s.store <;> rfl

@[simp] theorem on_find : (find τ key).on s = (s.store.find τ key, s) := on_ask _

@[simp] theorem on_findNamed (ns name : String) :
    (findNamed τ ns name).on s = (s.store.findNamed τ ns name, s) := on_ask _

@[simp] theorem on_delete : (delete key).on s = (.ok (s.delete key).1, (s.delete key).2) := rfl

theorem on_discard (p : Pass α) : (discard p).on s = ((p.on s).1.map fun _ => (), (p.on s).2) := by
  show ((fun _ => ()) <$> p).on s = _
  exact on_map _ p

/-- An attempt succeeds whatever becomes of it. -/
theorem on_attempt (p : Pass α) : (attempt p).on s = (.ok (), (p.on s).2) := by
  unfold attempt
  rw [on_tryCatch, on_discard]
  rcases p.on s with ⟨a | a, s'⟩ <;> rfl

theorem on_add {r : τ} (named : (Resource.wrap r).key? = some key) :
    (add r).on s = (.ok key, s.write key (Resource.wrap r)) := by
  unfold add addObject keyOf
  rw [named]
  rfl

theorem on_update {r : τ} (named : (Resource.wrap r).key? = some key) :
    (update r).on s = (.ok (), s.write key (Resource.wrap r)) := by
  unfold update
  rw [on_bind, on_add named]
  rfl

/-- Whatever is answered, an update leaves the session with the resource edited. -/
theorem snd_updateWith (kind : key.kind = Resource.kind τ) (f : τ → τ) :
    ((updateWith key f).on s).2 = s.edit key f := by
  unfold updateWith Session.edit Store.read
  rw [on_bind, on_find]
  unfold Store.find
  rw [if_pos kind]
  cases s.store.get? key with
  | none => rfl
  | some o =>
    cases unwrapped : (Resource.unwrap? o : Option τ) with
    | none => simp [unwrapped]
    | some r =>
      simp only [unwrapped, Option.bind_some]
      rw [on_bind, on_modify]
      rfl

/-- A write is made under the key of the object, if it has one. -/
theorem snd_addObject_cases (s : Session) (o : Object) :
    ((addObject o).on s).2 = s ∨
    ∃ key, o.key? = some key ∧ ((addObject o).on s).2 = s.write key o := by
  unfold addObject keyOf
  cases o.key? with
  | none => exact .inl rfl
  | some key => exact .inr ⟨key, rfl, rfl⟩

/-- An edit is made where a resource of its type is asked for. -/
theorem snd_updateWith_cases (s : Session) (key : ObjectKey) (f : τ → τ) :
    ((updateWith key f).on s).2 = s ∨ ((updateWith key f).on s).2 = s.edit key f := by
  by_cases kind : key.kind = Resource.kind τ
  · exact .inr (snd_updateWith kind f)
  · unfold updateWith
    rw [on_bind, on_find, Store.find_of_other kind]
    exact .inl rfl

theorem on_attempt_updateWith (kind : key.kind = Resource.kind τ) (f : τ → τ) :
    (attempt (updateWith key f)).on s = (.ok (), s.edit key f) := by
  rw [on_attempt, snd_updateWith kind]

theorem on_updateWith (keyed : s.store.WellKeyed) (kind : key.kind = Resource.kind τ) (f : τ → τ) :
    ∃ found, (updateWith key f).on s = (.ok found, s.edit key f) := by
  have left := snd_updateWith (s := s) kind f
  have answered : ∃ found, ((updateWith key f).on s).1 = .ok found := by
    unfold updateWith
    rw [on_bind, on_find, keyed.find kind]
    cases s.store.read τ key with
    | none => exact ⟨_, rfl⟩
    | some r => exact ⟨_, rfl⟩
  obtain ⟨found, answered⟩ := answered
  exact ⟨found, Prod.ext answered left⟩

end Pass

end Provisioner
