import Provisioner.Proofs.WrittenForm
import Provisioner.Store.Write

/-!
What single operations leave in the store. A write either replaces what was stored or leaves it
where the written form would not change; in both cases the stored object has the finalizers, the
annotations and the content that were written, and writing the same object again does nothing, nor
does writing a copy that tells another generation. Objects stay under their own keys.
-/

namespace Provisioner

variable {τ : Type} [Resource τ] {s : Session} {key : ObjectKey} {o p : Object}

/-! ### Reading -/

/-- The key that metadata gives tells the kind that it is asked for, and name and namespace. -/
theorem Metadata.key?_eq_some_iff {m : Metadata} {kind : Kind} :
    m.key? kind = some key ↔
      key.kind = kind ∧ key.ns = m.ns.getD "" ∧ m.name = some key.name ∧ key.name ≠ "" := by
  obtain ⟨k, ns, name⟩ := key
  unfold Metadata.key?
  cases m.name with
  | none => simp
  | some n =>
    by_cases nameless : n = ""
    · simp only [nameless, if_true, reduceCtorEq, Option.some.injEq, false_iff]
      rintro ⟨-, -, rfl, named⟩
      exact named rfl
    · simp only [nameless, if_false, Option.some.injEq, ObjectKey.mk.injEq]
      constructor
      · rintro ⟨rfl, rfl, rfl⟩
        exact ⟨rfl, rfl, rfl, nameless⟩
      · rintro ⟨rfl, rfl, rfl, -⟩
        exact ⟨rfl, rfl, rfl⟩

theorem Metadata.kind_of_key? {m : Metadata} {kind : Kind} (named : m.key? kind = some key) :
    key.kind = kind := (Metadata.key?_eq_some_iff.mp named).1

namespace Store

/-- The resource under a key; none if there is nothing or something else. -/
def read (τ : Type) [Resource τ] (s : Store) (key : ObjectKey) : Option τ :=
  (s.get? key).bind Resource.unwrap?

theorem read_eq_some_iff {s : Store} {r : τ} :
    s.read τ key = some r ↔ s.get? key = some (Resource.wrap r) := by
  unfold read
  cases s.get? key with
  | none => simp
  | some o => simp [Resource.unwrap?_eq_some_iff]

theorem read_congr {s s' : Store} (same : s'.get? key = s.get? key) :
    s'.read τ key = s.read τ key := by
  unfold read
  rw [same]

theorem read_of_absent {s : Store} (absent : s.get? key = none) : s.read τ key = none := by
  unfold read
  rw [absent]
  rfl

/-- What is under a key, if anything, is under its own. -/
def KeyedAt (s : Store) (key : ObjectKey) : Prop := ∀ o, s.get? key = some o → o.key? = some key

theorem keyedAt_of_absent {s : Store} (absent : s.get? key = none) : s.KeyedAt key :=
  fun _ held => absurd (absent.symm.trans held) nofun

/-- Every object is under a key of its kind. -/
def Kinded (s : Store) : Prop := ∀ key o, s.get? key = some o → o.kind = key.kind

theorem WellKeyed.kinded {s : Store} (keyed : s.WellKeyed) : s.Kinded :=
  fun key o held => (Metadata.kind_of_key? (keyed key o held)).symm

theorem WellKeyed.kind {s : Store} (keyed : s.WellKeyed) (held : s.get? key = some o) :
    o.kind = key.kind := keyed.kinded key o held

theorem find_of_read {s : Store} {r : τ} (kind : key.kind = Resource.kind τ)
    (held : s.read τ key = some r) : s.find τ key = .ok (some r) := by
  obtain ⟨o, found, unwrapped⟩ := Option.bind_eq_some_iff.mp held
  unfold Store.find
  rw [if_pos kind, found]
  simp only [unwrapped]

theorem find_of_absent {s : Store} (kind : key.kind = Resource.kind τ)
    (absent : s.get? key = none) : s.find τ key = .ok none := by
  unfold Store.find
  rw [if_pos kind, absent]

theorem find_of_other {s : Store} (other : key.kind ≠ Resource.kind τ) :
    s.find τ key = .error (.kindMismatch key (Resource.kind τ)) := by
  unfold Store.find
  rw [if_neg other]

/-- A search that succeeds answers what is under the key. -/
theorem read_of_find {s : Store} {found : Option τ} (answered : s.find τ key = .ok found) :
    s.read τ key = found := by
  unfold Store.find at answered
  unfold read
  split at answered
  · cases held : s.get? key with
    | none =>
      rw [held] at answered
      cases answered
      rfl
    | some o =>
      rw [held] at answered
      simp only at answered
      split at answered
      · rename_i r unwrapped
        cases answered
        exact unwrapped
      · cases answered
  · cases answered

/-- What is under a key is a resource of the kind that both have. -/
theorem read_of_kind {s : Store} (kind : key.kind = Resource.kind τ) (held : s.get? key = some o)
    (placed : o.kind = key.kind) : ∃ r : τ, s.read τ key = some r ∧ o = Resource.wrap r := by
  have unwraps := (Resource.isSome_unwrap? (τ := τ) o).mpr (placed.trans kind)
  obtain ⟨r, found⟩ := Option.isSome_iff_exists.mp unwraps
  have wrapped := (Resource.unwrap?_eq_some_iff o r).mp found
  exact ⟨r, read_eq_some_iff.mpr (wrapped ▸ held), wrapped⟩

/-- A search of the right kind answers if what it finds is of that kind too. -/
theorem find_of_kind {s : Store} (kind : key.kind = Resource.kind τ)
    (placed : ∀ o, s.get? key = some o → o.kind = key.kind) :
    s.find τ key = .ok (s.read τ key) := by
  cases held : s.get? key with
  | none => rw [find_of_absent kind held, read_of_absent held]
  | some o =>
    obtain ⟨r, found, -⟩ := read_of_kind kind held (placed o held)
    rw [find_of_read kind found, found]

theorem Kinded.read_of_get? {s : Store} (kinded : s.Kinded) (kind : key.kind = Resource.kind τ)
    (held : s.get? key = some o) : ∃ r : τ, s.read τ key = some r ∧ o = Resource.wrap r :=
  read_of_kind kind held (kinded key o held)

/-- Where every object is under a key of its kind, a search of the right kind answers. -/
theorem Kinded.find {s : Store} (kinded : s.Kinded) (kind : key.kind = Resource.kind τ) :
    s.find τ key = .ok (s.read τ key) := find_of_kind kind (kinded key)

theorem KeyedAt.find {s : Store} (keyed : s.KeyedAt key) (kind : key.kind = Resource.kind τ) :
    s.find τ key = .ok (s.read τ key) :=
  find_of_kind kind fun o held => (Metadata.kind_of_key? (keyed o held)).symm

theorem WellKeyed.find {s : Store} (keyed : s.WellKeyed) (kind : key.kind = Resource.kind τ) :
    s.find τ key = .ok (s.read τ key) := keyed.kinded.find kind

theorem WellKeyed.findNamed {s : Store} (keyed : s.WellKeyed) (ns name : String) :
    s.findNamed τ ns name = .ok (s.read τ ⟨Resource.kind τ, ns, name⟩) := keyed.find rfl

end Store

/-! ### What is stored -/

namespace Object

/-- The object with a generation and times of its own. -/
def timed (o : Object) (generation : Int) (created deleted : Option Timestamp) : Object :=
  o.withMetadata
    { o.metadata with
      generation := some generation
      creationTimestamp := created
      deletionTimestamp := deleted }

/-- The object with its generation told, the first one unless it has another. -/
def counted (o : Object) : Object :=
  o.withMetadata { o.metadata with generation := some (o.metadata.generation.getD 1) }

/-- The object with the generation and the times that its writer tells, if any. -/
def retold (o : Object) (generation : Option Int) (created deleted : Option Timestamp) : Object :=
  o.withMetadata
    { o.metadata with
      generation := generation
      creationTimestamp := created
      deletionTimestamp := deleted }

/-- What is under a key once `o` has been written over `previous`. -/
def stored (now : Timestamp) (o : Object) : Option Object → Object
  | none => o.asNew now
  | some previous => (previous.replacing o).getD previous

@[simp] theorem withMetadata_withMetadata (m m' : Metadata) (o : Object) :
    (o.withMetadata m).withMetadata m' = o.withMetadata m' := by cases o <;> rfl

@[simp] theorem withMetadata_metadata (o : Object) : o.withMetadata o.metadata = o := by
  cases o <;> rfl

@[simp] theorem sameSpec_refl (o : Object) : o.sameSpec o = true := by
  unfold sameSpec
  cases o.specJson? with
  | none => rfl
  | some v => exact v.same_refl

theorem key?_withMetadata {m : Metadata} (name : m.name = o.metadata.name)
    (ns : m.ns = o.metadata.ns) : (o.withMetadata m).key? = o.key? := by
  simp [key?, Metadata.key?, name, ns]

@[simp] theorem metadata_timed (g : Int) (c d : Option Timestamp) (o : Object) :
    (o.timed g c d).metadata =
      { o.metadata with
        generation := some g
        creationTimestamp := c
        deletionTimestamp := d } := metadata_withMetadata _ _

theorem key?_timed (g : Int) (c d : Option Timestamp) (o : Object) :
    (o.timed g c d).key? = o.key? := key?_withMetadata rfl rfl

theorem takingOver_eq (p o : Object) :
    p.takingOver o =
      o.timed (p.metadata.generation.getD 1)
        (o.metadata.creationTimestamp <|> p.metadata.creationTimestamp)
        (p.metadata.deletionTimestamp <|> o.metadata.deletionTimestamp) := rfl

theorem advanced_timed (g : Int) (c d : Option Timestamp) (o : Object) :
    (o.timed g c d).advanced = o.timed (nextGeneration g) c d := by
  simp [advanced, timed]

/-- An object with other times takes over nothing but those times from itself. -/
theorem takingOver_timed (g : Int) (c d : Option Timestamp) (o : Object) :
    (o.timed g c d).takingOver o =
      o.timed g (o.metadata.creationTimestamp <|> c) (d <|> o.metadata.deletionTimestamp) := by
  simp [takingOver_eq]

/-- A copy that tells no times but those that are stored takes over all of them. -/
theorem takingOver_retold {g : Option Int} {c d : Option Timestamp} (o : Object)
    (created : ∀ t, c = some t → p.metadata.creationTimestamp = some t)
    (deleted : d.isSome → p.metadata.deletionTimestamp.isSome) :
    p.takingOver (o.retold g c d) =
      o.timed (p.metadata.generation.getD 1) p.metadata.creationTimestamp
        p.metadata.deletionTimestamp := by
  have first : (c <|> p.metadata.creationTimestamp) = p.metadata.creationTimestamp := by
    cases c with
    | none => rfl
    | some t => exact (created t rfl).symm
  have last : (p.metadata.deletionTimestamp <|> d) = p.metadata.deletionTimestamp := by
    cases told : p.metadata.deletionTimestamp with
    | some t => rfl
    | none =>
      cases d with
      | none => rfl
      | some t => simp [told] at deleted
  simp [takingOver, timed, retold, first, last]

/-- Of its times an object tells the texts. -/
theorem toJson_timed {g : Int} {c c' d d' : Option Timestamp} (o : Object)
    (created : c.map Timestamp.text = c'.map Timestamp.text)
    (deleted : d.map Timestamp.text = d'.map Timestamp.text) :
    (o.timed g c d).toJson = (o.timed g c' d').toJson := by
  refine toJson_withMetadata o ?_
  have texts (t : Option Timestamp) :
      (t.map fun t => Json.str t.text) = (t.map Timestamp.text).map .str := by
    rw [Option.map_map]
    rfl
  simp only [Metadata.toJson, texts, created, deleted]

/-- What is stored is what was there and is written like `o`, or `o` with a generation and times. -/
theorem stored_cases (now : Timestamp) (o : Object) (previous : Option Object) :
    (∃ p, previous = some p ∧ stored now o previous = p ∧ (p.takingOver o).same p = true) ∨
    ∃ generation created, stored now o previous =
      o.timed generation (o.metadata.creationTimestamp <|> created)
        ((previous.bind (·.metadata.deletionTimestamp)) <|> o.metadata.deletionTimestamp) := by
  cases previous with
  | none =>
    refine .inr ⟨o.metadata.generation.getD 1, some now, ?_⟩
    unfold stored asNew timed
    cases o.metadata.creationTimestamp <;> simp
  | some p =>
    by_cases alike : (p.takingOver o).same p = true
    · exact .inl ⟨p, rfl, by simp [stored, replacing, alike], alike⟩
    · refine .inr ?_
      simp only [stored, replacing, alike, Bool.false_eq_true, if_false]
      split
      · exact ⟨_, _, takingOver_eq p o⟩
      · refine ⟨nextGeneration (p.metadata.generation.getD 1), p.metadata.creationTimestamp, ?_⟩
        rw [Option.getD_some, takingOver_eq, advanced_timed]
        rfl

theorem generation_stored (now : Timestamp) (o : Object) (previous : Option Object) :
    (stored now o previous).metadata.generation.isSome := by
  rcases stored_cases now o previous with ⟨p, -, stays, alike⟩ | ⟨_, _, replaced⟩
  · rw [stays, ← generation_of_same alike]
    simp [takingOver]
  · rw [replaced]
    simp [timed]

/-- Whatever is written, what is then stored is of its kind. -/
theorem kind_stored (now : Timestamp) (o : Object) (previous : Option Object) :
    (o.stored now previous).kind = o.kind := by
  rcases stored_cases now o previous with ⟨p, -, stays, alike⟩ | ⟨_, _, replaced⟩
  · rw [stays, ← kind_of_same alike]
    exact kind_withMetadata _ _
  · rw [replaced]
    exact kind_withMetadata _ _

/-- What finalizers hold is replaced whole by what has none. -/
theorem stored_of_held (now : Timestamp) {previous : Option Object}
    (free : o.hasFinalizers = false) (held : ∀ p, previous = some p → p.hasFinalizers = true) :
    ∃ generation created deleted, stored now o previous = o.timed generation created deleted := by
  rcases stored_cases now o previous with ⟨p, there, -, alike⟩ | ⟨g, c, replaced⟩
  · have finalizers := finalizers_of_same alike
    rw [takingOver_eq, metadata_timed] at finalizers
    have holds := held p there
    unfold hasFinalizers Metadata.hasFinalizers Metadata.finalizerList at free holds
    rw [finalizers, holds] at free
    cases free
  · exact ⟨g, _, _, replaced⟩

theorem key?_stored (now : Timestamp) {previous : Option Object} (named : o.key? = some key)
    (keyed : ∀ p, previous = some p → p.key? = some key) :
    (stored now o previous).key? = some key := by
  rcases stored_cases now o previous with ⟨p, held, stays, -⟩ | ⟨_, _, replaced⟩
  · rw [stays]
    exact keyed p held
  · rw [replaced, key?_timed, named]

/-- Writing what has been written changes nothing. -/
theorem replacing_stored (now : Timestamp) (o : Object) (previous : Option Object) :
    (stored now o previous).replacing o = none := by
  rcases stored_cases now o previous with ⟨p, -, stays, alike⟩ | ⟨g, c, replaced⟩
  · rw [stays]
    simp [replacing, alike]
  · have nothing : (stored now o previous).takingOver o = stored now o previous := by
      rw [replaced, takingOver_timed]
      cases o.metadata.creationTimestamp <;>
        cases previous.bind (·.metadata.deletionTimestamp) <;>
          cases o.metadata.deletionTimestamp <;> rfl
    simp [replacing, nothing, same_refl]

/-- Writing a copy of what has been written changes nothing either, whatever generation it tells. -/
theorem replacing_retold {now : Timestamp} {previous : Option Object} {g : Option Int}
    {c d : Option Timestamp} (held : stored now o previous = p)
    (created : ∀ t, c = some t → p.metadata.creationTimestamp = some t)
    (deleted : d.isSome → p.metadata.deletionTimestamp.isSome) :
    p.replacing (o.retold g c d) = none := by
  suffices alike : (p.takingOver (o.retold g c d)).same p = true by simp [replacing, alike]
  rw [takingOver_retold o created deleted]
  rcases stored_cases now o previous with ⟨q, -, stays, alike⟩ | ⟨n, t, replaced⟩
  · obtain rfl : q = p := stays.symm.trans held
    -- The object was written like `q`, so its times have the texts of those of `q`.
    have times := toJson_timed (g := q.metadata.generation.getD 1) o (created_of_same alike)
      (deleted_of_same alike)
    simp only [takingOver_eq, metadata_timed] at times alike
    unfold same at alike ⊢
    rw [← times]
    exact alike
  · rw [held] at replaced
    rw [replaced]
    simp [same_refl]

/-- A written object whose generation and times are those of the stored one keeps them. -/
theorem takingOver_of_times (generation : o.metadata.generation = p.metadata.generation)
    (created : o.metadata.creationTimestamp = p.metadata.creationTimestamp)
    (deleted : o.metadata.deletionTimestamp = p.metadata.deletionTimestamp) :
    p.takingOver o = o.counted := by
  unfold takingOver counted
  rw [← generation, ← created, ← deleted]
  simp

end Object

/-! ### Writing -/

namespace Store

/-- Whether writing an object under a key would change nothing. -/
def Holds (s : Store) (key : ObjectKey) (o : Object) : Prop :=
  ∃ p, s.get? key = some p ∧ p.replacing o = none

theorem Holds.congr {s s' : Store} (holds : s.Holds key o) (same : s'.get? key = s.get? key) :
    s'.Holds key o := by
  obtain ⟨p, held, nothing⟩ := holds
  exact ⟨p, same.trans held, nothing⟩

end Store

namespace Session

@[simp] theorem store_notify (s : Session) (key : ObjectKey) : (s.notify key).store = s.store := by
  unfold notify
  split <;> rfl

@[simp] theorem now_notify (s : Session) (key : ObjectKey) : (s.notify key).now = s.now := by
  unfold notify
  split <;> rfl

@[simp] theorem triggered_notify (s : Session) (key : ObjectKey) :
    (s.notify key).triggered = s.triggered := by
  unfold notify
  split <;> rfl

@[simp] theorem get?_put (s : Session) (key k : ObjectKey) (o : Object) :
    (s.put key o).store.get? k = if k = key then some o else s.store.get? k := by
  simp [put, setItems, Store.get?]

@[simp] theorem get?_remove (s : Session) (key k : ObjectKey) :
    (s.remove key).store.get? k = if k = key then none else s.store.get? k := by
  simp [remove, setItems, Store.get?]

theorem get?_write (s : Session) (key k : ObjectKey) (o : Object) :
    (s.write key o).store.get? k =
      if k = key then some (o.stored s.now (s.store.get? key)) else s.store.get? k := by
  unfold write
  cases held : s.store.get? key with
  | none => exact get?_put _ _ _ _
  | some p =>
    cases replaced : p.replacing o with
    | some o' => simp [Object.stored, replaced]
    | none =>
      by_cases here : k = key
      · simp [here, held, Object.stored, replaced]
      · simp [here, replaced]

theorem get?_write_self (s : Session) (key : ObjectKey) (o : Object) :
    (s.write key o).store.get? key = some (o.stored s.now (s.store.get? key)) := by
  rw [get?_write, if_pos rfl]

theorem get?_write_of_ne {k : ObjectKey} (s : Session) (o : Object) (other : k ≠ key) :
    (s.write key o).store.get? k = s.store.get? k := by
  rw [get?_write, if_neg other]

/-- A write takes nothing away. -/
theorem isSome_get?_write {k : ObjectKey} (o : Object) (held : (s.store.get? k).isSome) :
    ((s.write key o).store.get? k).isSome := by
  rw [get?_write]
  split
  · rfl
  · exact held

@[simp] theorem now_write (s : Session) (key : ObjectKey) (o : Object) :
    (s.write key o).now = s.now := by
  unfold write put setItems
  repeat' split
  all_goals simp

@[simp] theorem triggered_write (s : Session) (key : ObjectKey) (o : Object) :
    (s.write key o).triggered = s.triggered := by
  unfold write put setItems
  repeat' split
  all_goals simp

theorem write_of_holds (holds : s.store.Holds key o) : s.write key o = s := by
  obtain ⟨p, held, nothing⟩ := holds
  simp [write, held, nothing]

theorem holds_write (s : Session) (key : ObjectKey) (o : Object) :
    (s.write key o).store.Holds key o :=
  ⟨_, get?_write_self s key o, Object.replacing_stored _ _ _⟩

theorem keyedAt_write {k : ObjectKey} (keyed : s.store.KeyedAt k) (named : o.key? = some key) :
    (s.write key o).store.KeyedAt k := by
  intro p held
  rw [get?_write] at held
  split at held
  · rename_i here
    subst here
    cases held
    exact Object.key?_stored _ named keyed
  · exact keyed p held

theorem wellKeyed_write (keyed : s.store.WellKeyed) (named : o.key? = some key) :
    (s.write key o).store.WellKeyed := fun k => keyedAt_write (keyed k) named

theorem kinded_write (kinded : s.store.Kinded) (kind : o.kind = key.kind) :
    (s.write key o).store.Kinded := by
  intro k p held
  rw [get?_write] at held
  split at held
  · rename_i here
    cases held
    rw [here, Object.kind_stored, kind]
  · exact kinded k p held

/-! ### Deleting -/

theorem get?_delete_of_ne {k : ObjectKey} (s : Session) (other : k ≠ key) :
    (s.delete key).2.store.get? k = s.store.get? k := by
  unfold delete
  repeat' split
  all_goals simp [other]

@[simp] theorem now_delete (s : Session) (key : ObjectKey) : (s.delete key).2.now = s.now := by
  unfold delete put remove setItems
  repeat' split
  all_goals simp

@[simp] theorem triggered_delete (s : Session) (key : ObjectKey) :
    (s.delete key).2.triggered = s.triggered := by
  unfold delete put remove setItems
  repeat' split
  all_goals simp

theorem key?_marked (s : Session) (o : Object) : (s.marked o).key? = o.key? :=
  Object.key?_withMetadata rfl rfl

/-- An object that finalizers hold is only marked. -/
theorem get?_delete_held (held : s.store.get? key = some o) (finalizers : o.hasFinalizers = true) :
    (s.delete key).2.store.get? key = some (s.marked o) := by
  simp [delete, held, finalizers]

theorem get?_delete_free (held : s.store.get? key = some o) (free : o.hasFinalizers = false) :
    (s.delete key).2.store.get? key = none := by
  simp [delete, held, free]

/-- Nothing is left under a key after a deletion, unless finalizers held what was there. -/
theorem get?_delete_of_free (free : ∀ o, s.store.get? key = some o → o.hasFinalizers = false) :
    (s.delete key).2.store.get? key = none := by
  cases held : s.store.get? key with
  | none =>
    unfold delete
    rw [held]
    exact held
  | some o => exact get?_delete_free held (free o held)

theorem keyedAt_delete {k : ObjectKey} (keyed : s.store.KeyedAt k) (key : ObjectKey) :
    (s.delete key).2.store.KeyedAt k := by
  intro p held
  by_cases here : k = key
  · subst here
    cases found : s.store.get? k with
    | none =>
      rw [delete, found] at held
      exact absurd (found.symm.trans held) (by simp)
    | some o =>
      cases holds : o.hasFinalizers with
      | true =>
        rw [get?_delete_held found holds] at held
        cases held
        rw [key?_marked]
        exact keyed o found
      | false =>
        rw [get?_delete_free found holds] at held
        cases held
  · rw [get?_delete_of_ne s here] at held
    exact keyed p held

theorem wellKeyed_delete (keyed : s.store.WellKeyed) (key : ObjectKey) :
    (s.delete key).2.store.WellKeyed := fun k => keyedAt_delete (keyed k) key

theorem kinded_delete (kinded : s.store.Kinded) (key : ObjectKey) :
    (s.delete key).2.store.Kinded := by
  intro k p held
  by_cases here : k = key
  · subst here
    cases found : s.store.get? k with
    | none =>
      rw [delete, found] at held
      exact absurd (found.symm.trans held) (by simp)
    | some o =>
      cases holds : o.hasFinalizers with
      | true =>
        rw [get?_delete_held found holds] at held
        cases held
        exact (Object.kind_withMetadata _ _).trans (kinded k o found)
      | false =>
        rw [get?_delete_free found holds] at held
        cases held
  · rw [get?_delete_of_ne s here] at held
    exact kinded k p held

/-! ### Editing -/

/-- Writes what `f` makes of the resource under a key, if there is one. -/
def edit (s : Session) (key : ObjectKey) (f : τ → τ) : Session :=
  match s.store.read τ key with
  | none => s
  | some r => s.write key (Resource.wrap (f r))

/-- Writes an object under a key that has none. -/
def provide (s : Session) (key : ObjectKey) (o : Object) : Session :=
  if (s.store.get? key).isNone then s.write key o else s

/-- Hands over the job under a key. -/
def handOver (s : Session) (key : ObjectKey) : Session :=
  { s with triggered := s.triggered ++ [key] }

end Session

/-- An edit that does not rename. -/
def KeepsKey (f : τ → τ) : Prop :=
  ∀ r, (Resource.metadata (f r)).name = (Resource.metadata r).name ∧
    (Resource.metadata (f r)).ns = (Resource.metadata r).ns

/-- An edit that leaves the specification alone, and of the metadata everything but finalizers. -/
structure Gentle (f : τ → τ) : Prop where
  metadata : ∀ r, Resource.metadata (f r) =
    { Resource.metadata r with finalizers := (Resource.metadata (f r)).finalizers }
  spec : ∀ r, (Resource.wrap (f r)).specJson? = (Resource.wrap r).specJson?

theorem Gentle.keepsKey {f : τ → τ} (gentle : Gentle f) : KeepsKey f := by
  intro r
  rw [gentle.metadata r]
  exact ⟨rfl, rfl⟩

theorem key?_wrap (r : τ) :
    (Resource.wrap r).key? = (Resource.metadata r).key? (Resource.kind τ) := by
  unfold Object.key?
  rw [Resource.kind_wrap, Resource.metadata_wrap]

theorem KeepsKey.key? {f : τ → τ} (keeps : KeepsKey f) (r : τ) :
    (Resource.wrap (f r)).key? = (Resource.wrap r).key? := by
  rw [key?_wrap, key?_wrap]
  unfold Metadata.key?
  rw [(keeps r).1, (keeps r).2]

namespace Session

variable {f : τ → τ} {r : τ}

theorem edit_of_read_none (missing : s.store.read τ key = none) : s.edit key f = s := by
  unfold edit
  rw [missing]

theorem edit_of_read (held : s.store.read τ key = some r) :
    s.edit key f = s.write key (Resource.wrap (f r)) := by
  unfold edit
  rw [held]

theorem get?_edit_of_ne {k : ObjectKey} (s : Session) (f : τ → τ) (other : k ≠ key) :
    (s.edit key f).store.get? k = s.store.get? k := by
  unfold edit
  split
  · rfl
  · exact get?_write_of_ne s _ other

theorem isSome_get?_edit {k : ObjectKey} (f : τ → τ) (held : (s.store.get? k).isSome) :
    ((s.edit key f).store.get? k).isSome := by
  unfold edit
  split
  · exact held
  · exact isSome_get?_write _ held

@[simp] theorem now_edit (s : Session) (key : ObjectKey) (f : τ → τ) :
    (s.edit key f).now = s.now := by
  unfold edit
  split <;> simp

@[simp] theorem triggered_edit (s : Session) (key : ObjectKey) (f : τ → τ) :
    (s.edit key f).triggered = s.triggered := by
  unfold edit
  split <;> simp

theorem keyedAt_edit {k : ObjectKey} (keyed : s.store.KeyedAt k) (key : ObjectKey)
    (keeps : KeepsKey f) : (s.edit key f).store.KeyedAt k := by
  cases held : s.store.read τ key with
  | none => rwa [edit_of_read_none held]
  | some r =>
    rw [edit_of_read held]
    by_cases here : k = key
    · subst here
      refine keyedAt_write keyed ?_
      rw [keeps.key?]
      exact keyed _ (Store.read_eq_some_iff.mp held)
    · intro p after
      rw [get?_write_of_ne s _ here] at after
      exact keyed p after

theorem wellKeyed_edit (keyed : s.store.WellKeyed) (key : ObjectKey) (keeps : KeepsKey f) :
    (s.edit key f).store.WellKeyed := fun k => keyedAt_edit (keyed k) key keeps

/-- An edit can make nothing of a resource but a resource of the same kind. -/
theorem kinded_edit (kinded : s.store.Kinded) (key : ObjectKey) (f : τ → τ) :
    (s.edit key f).store.Kinded := by
  cases held : s.store.read τ key with
  | none => rwa [edit_of_read_none held]
  | some r =>
    rw [edit_of_read held]
    refine kinded_write kinded ?_
    have kind := kinded key _ (Store.read_eq_some_iff.mp held)
    rw [Resource.kind_wrap] at kind ⊢
    exact kind

/-- A gentle edit replaces what is stored by the edited resource, its generation told, unless that is
written alike. -/
theorem replacing_of_gentle (gentle : Gentle f) (r : τ) :
    (Resource.wrap r).replacing (Resource.wrap (f r)) =
      if (Resource.wrap (f r)).counted.same (Resource.wrap r) = true then none
      else some (Resource.wrap (f r)).counted := by
  have metadata := gentle.metadata r
  have taken : (Resource.wrap r).takingOver (Resource.wrap (f r)) =
      (Resource.wrap (f r)).counted := by
    apply Object.takingOver_of_times <;> rw [Resource.metadata_wrap, Resource.metadata_wrap, metadata]
  have spec : (Resource.wrap (f r)).counted.sameSpec (Resource.wrap r) = true := by
    unfold Object.counted Object.sameSpec
    rw [Object.specJson?_withMetadata, gentle.spec]
    exact Object.sameSpec_refl _
  simp only [Object.replacing, taken, spec, if_true]

/-- A gentle edit either stores the edited resource as it is, its generation told, or does nothing
because the resource was written like that before. -/
theorem edit_cases (gentle : Gentle f) (held : s.store.read τ key = some r) :
    s.edit key f = s ∧ (Resource.wrap (f r)).counted.same (Resource.wrap r) = true ∨
    s.edit key f = s.put key (Resource.wrap (f r)).counted := by
  rw [edit_of_read held, write, Store.read_eq_some_iff.mp held]
  simp only [replacing_of_gentle gentle]
  by_cases alike : (Resource.wrap (f r)).counted.same (Resource.wrap r) = true
  · rw [if_pos alike]
    exact .inl ⟨rfl, alike⟩
  · rw [if_neg alike]
    exact .inr rfl

/-- A gentle edit after which the resource is what it was has done nothing. -/
theorem edit_of_same (gentle : Gentle f) (held : s.store.read τ key = some r)
    (same : (s.edit key f).store.get? key = s.store.get? key) : s.edit key f = s := by
  rcases edit_cases gentle held with ⟨stays, -⟩ | replaced
  · exact stays
  · have stored : (Resource.wrap (f r)).counted = Resource.wrap r := by
      rw [replaced, get?_put, if_pos rfl, Store.read_eq_some_iff.mp held] at same
      exact Option.some.inj same
    rw [edit_of_read held]
    refine write_of_holds ⟨_, Store.read_eq_some_iff.mp held, ?_⟩
    rw [replacing_of_gentle gentle, stored, if_pos (Object.same_refl _)]

theorem provide_of_isSome (held : (s.store.get? key).isSome) : s.provide key o = s := by
  unfold provide
  rw [if_neg (by simpa [Option.isSome_iff_ne_none] using held)]

theorem get?_provide_of_ne {k : ObjectKey} (s : Session) (o : Object) (other : k ≠ key) :
    (s.provide key o).store.get? k = s.store.get? k := by
  unfold provide
  split
  · exact get?_write_of_ne s o other
  · rfl

/-- What is there already is not changed by providing something. -/
theorem get?_provide_of_isSome {k : ObjectKey} (o : Object) (there : (s.store.get? key).isSome) :
    (s.provide k o).store.get? key = s.store.get? key := by
  by_cases same : key = k
  · rw [← same, provide_of_isSome there]
  · exact get?_provide_of_ne s o same

theorem isSome_get?_provide (s : Session) (key : ObjectKey) (o : Object) :
    ((s.provide key o).store.get? key).isSome := by
  unfold provide
  split
  · rw [get?_write_self]
    rfl
  · rename_i held
    simpa [Option.isSome_iff_ne_none] using held

theorem wellKeyed_provide (keyed : s.store.WellKeyed) (named : o.key? = some key) :
    (s.provide key o).store.WellKeyed := by
  unfold provide
  split
  · exact wellKeyed_write keyed named
  · exact keyed

theorem kinded_provide (kinded : s.store.Kinded) (kind : o.kind = key.kind) :
    (s.provide key o).store.Kinded := by
  unfold provide
  split
  · exact kinded_write kinded kind
  · exact kinded

end Session

/-! ### Reading back -/

namespace Store

theorem WellKeyed.read_of_get? {s : Store} (keyed : s.WellKeyed) (kind : key.kind = Resource.kind τ)
    (held : s.get? key = some o) : ∃ r : τ, s.read τ key = some r ∧ o = Resource.wrap r :=
  keyed.kinded.read_of_get? kind held

theorem Kinded.read_eq_none_iff {s : Store} (kinded : s.Kinded)
    (kind : key.kind = Resource.kind τ) : s.read τ key = none ↔ s.get? key = none := by
  constructor
  · intro missing
    cases held : s.get? key with
    | none => rfl
    | some o =>
      obtain ⟨r, found, -⟩ := kinded.read_of_get? kind held
      rw [missing] at found
      cases found
  · exact read_of_absent

theorem WellKeyed.read_eq_none_iff {s : Store} (keyed : s.WellKeyed)
    (kind : key.kind = Resource.kind τ) : s.read τ key = none ↔ s.get? key = none :=
  keyed.kinded.read_eq_none_iff kind

end Store

namespace Session

/-- What is read back after a write has what was written, or is written like it. -/
theorem read_write (r : τ) (kind : key.kind = Resource.kind τ) :
    ∃ r' : τ, (s.write key (Resource.wrap r)).store.read τ key = some r' ∧
      ∃ generation created deleted,
        (((Resource.wrap r).timed generation created deleted).same (Resource.wrap r') = true) := by
  have placed : ((Resource.wrap r).stored s.now (s.store.get? key)).kind = key.kind :=
    (Object.kind_stored _ _ _).trans ((Resource.kind_wrap r).trans kind.symm)
  obtain ⟨r', found, stored⟩ :=
    Store.read_of_kind kind (get?_write_self s key (Resource.wrap r)) placed
  refine ⟨r', found, ?_⟩
  rw [← stored]
  rcases Object.stored_cases s.now (Resource.wrap r) (s.store.get? key) with
    ⟨p, -, stays, alike⟩ | ⟨g, d, replaced⟩
  · rw [stays]
    exact ⟨_, _, _, alike⟩
  · rw [replaced]
    exact ⟨_, _, _, Object.same_refl _⟩

theorem read_write_job (j : Job) (kind : key.kind = .job) (new : j.status = none) :
    ∃ j', (s.write key (Resource.wrap j)).store.read Job key = some j' ∧ j'.status = none ∧
      j'.metadata.annotations = j.metadata.annotations := by
  obtain ⟨j', found, g, d, e, alike⟩ := read_write j kind
  refine ⟨j', found, Job.status_none_of_same alike new, ?_⟩
  have annotations := Object.annotations_of_same alike
  rw [Object.metadata_timed] at annotations
  exact annotations.symm

theorem read_write_secret (secret : Secret) (kind : key.kind = .secret)
    (empty : secret.data = none) :
    ∃ secret', (s.write key (Resource.wrap secret)).store.read Secret key = some secret' ∧
      secret'.data = none ∧ secret'.stringData = secret.stringData := by
  obtain ⟨secret', found, g, d, e, alike⟩ := read_write secret kind
  exact ⟨secret', found, Secret.data_none_of_same alike empty,
    (Secret.stringData_of_same alike).symm⟩

theorem read_write_configMap (m : ConfigMap) (kind : key.kind = .configMap) :
    ∃ m', (s.write key (Resource.wrap m)).store.read ConfigMap key = some m' ∧ m'.data = m.data := by
  obtain ⟨m', found, g, d, e, alike⟩ := read_write m kind
  exact ⟨m', found, (ConfigMap.data_of_same alike).symm⟩

end Session

end Provisioner
