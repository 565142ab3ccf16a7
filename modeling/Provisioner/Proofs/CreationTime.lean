import Provisioner.Proofs.Lifecycle

/-!
When an entry says that it was created. Whoever writes first under a key either tells a time or
has the time of the write stored. A later writer that tells no time takes over the one that is
stored, but nothing is held against the time that a later writer does tell: the entry shows it from
then on. So as long as an entry stays, it shows the last time of creation that was told, and the
time of its insertion only while no writer tells another.
-/

namespace Provisioner

variable {s : Session} {key : ObjectKey} {o p w : Object} {now t : Timestamp}

/-! ### What a write stores -/

namespace Object

/-- The time of creation as the written form of an object shows it. -/
def shownCreation (o : Object) : Option String := o.metadata.creationTimestamp.map Timestamp.text

/-- A write is passed over, or stores the time of creation that its object tells, or else the one
that was stored. -/
theorem created_stored (now : Timestamp) (w p : Object) :
    w.stored now (some p) = p ∧ (p.takingOver w).same p = true ∨
    (w.stored now (some p)).metadata.creationTimestamp =
      (w.metadata.creationTimestamp <|> p.metadata.creationTimestamp) := by
  simp only [stored, replacing]
  split
  · rename_i alike
    exact .inl ⟨rfl, alike⟩
  · split
    · exact .inr (by simp [takingOver])
    · exact .inr (by simp [advanced, takingOver])

/-- A write that tells no time of creation leaves the one that is stored. -/
theorem created_of_untold (untold : w.metadata.creationTimestamp = none) :
    (w.stored now (some p)).metadata.creationTimestamp = p.metadata.creationTimestamp := by
  rcases created_stored now w p with ⟨stays, -⟩ | replaced
  · rw [stays]
  · rw [replaced, untold]
    rfl

/-- A write that tells a time of creation has it shown, also if it is passed over. -/
theorem shownCreation_of_told (told : w.metadata.creationTimestamp = some t) :
    (w.stored now (some p)).shownCreation = some t.text := by
  rcases created_stored now w p with ⟨stays, alike⟩ | replaced
  · have shown := created_of_same alike
    simp only [takingOver, metadata_withMetadata, told] at shown
    rw [stays]
    exact shown.symm
  · unfold shownCreation
    rw [replaced, told]
    rfl

theorem created_stored_none (now : Timestamp) (w : Object) :
    (w.stored now none).metadata.creationTimestamp =
      some (w.metadata.creationTimestamp.getD now) := by
  simp [stored, asNew]

end Object

/-! ### What writers tell -/

/-- The time of creation that is told by what is meant for the entry under a key. -/
def Intent.toldCreation (key : ObjectKey) : Intent → Option Timestamp
  | .write k w => if k = key then w.metadata.creationTimestamp else none
  | _ => none

theorem Intent.toldCreation_of_elsewhere {i : Intent} (elsewhere : i.key? ≠ some key) :
    i.toldCreation key = none := by
  cases i with
  | write k w => exact if_neg fun here => elsewhere (congrArg some here)
  | _ => rfl

namespace Session

/-- The last time of creation that is told for the entry under a key, if any is. -/
def toldCreation (key : ObjectKey) : Session → List Occurrence → Option Timestamp
  | _, [] => none
  | s, e :: rest => (toldCreation key (s.meet e) rest).or ((e.intent s.store).toldCreation key)

theorem toldCreation_cons_eq_none {e : Occurrence} {rest : List Occurrence} :
    s.toldCreation key (e :: rest) = none ↔
      (s.meet e).toldCreation key rest = none ∧ (e.intent s.store).toldCreation key = none := by
  rw [toldCreation, Option.or_eq_none_iff]

theorem toldCreation_cons_eq_some {e : Occurrence} {rest : List Occurrence} :
    s.toldCreation key (e :: rest) = some t ↔
      (s.meet e).toldCreation key rest = some t ∨
        (s.meet e).toldCreation key rest = none ∧ (e.intent s.store).toldCreation key = some t := by
  rw [toldCreation, Option.or_eq_some_iff]

namespace Turn

variable {i : Intent} {previous next : Option Object}

/-- An entry comes about by a write, with the time that is told or else with that of the write. -/
theorem inserted (turn : s.Turn key none i (some o)) :
    ∃ w, i = .write key w ∧
      o.metadata.creationTimestamp = some (w.metadata.creationTimestamp.getD s.now) := by
  cases turn with
  | @written _ w _ => exact ⟨w, rfl, Object.created_stored_none s.now w⟩

theorem created_of_untold (turn : s.Turn key (some p) i (some o))
    (untold : i.toldCreation key = none) :
    o.metadata.creationTimestamp = p.metadata.creationTimestamp := by
  cases turn with
  | untouched => rfl
  | written =>
    simp only [Intent.toldCreation, if_true] at untold
    exact Object.created_of_untold untold
  | deferred => simp [marked]

theorem shownCreation_of_told (turn : s.Turn key (some p) i (some o))
    (told : i.toldCreation key = some t) : o.shownCreation = some t.text := by
  cases turn with
  | untouched elsewhere =>
    rw [Intent.toldCreation_of_elsewhere elsewhere] at told
    cases told
  | written =>
    simp only [Intent.toldCreation, if_true] at told
    exact Object.shownCreation_of_told told
  | deferred => cases told

end Turn

/-! ### Runs -/

theorem created_through_of_untold {l : List Occurrence} (stays : s.Stays key l)
    (held : s.store.get? key = some p) (untold : s.toldCreation key l = none)
    (after : (s.through l).store.get? key = some o) :
    o.metadata.creationTimestamp = p.metadata.creationTimestamp := by
  induction l generalizing s p with
  | nil =>
    cases held.symm.trans after
    rfl
  | cons e rest ih =>
    obtain ⟨q, next, turn, later⟩ := stays.turn held
    obtain ⟨rest, first⟩ := toldCreation_cons_eq_none.mp untold
    exact (ih later next rest after).trans (turn.created_of_untold first)

theorem shownCreation_through_of_told {l : List Occurrence} (stays : s.Stays key l)
    (held : s.store.get? key = some p) (told : s.toldCreation key l = some t)
    (after : (s.through l).store.get? key = some o) : o.shownCreation = some t.text := by
  induction l generalizing s p with
  | nil => cases told
  | cons e rest ih =>
    obtain ⟨q, next, turn, later⟩ := stays.turn held
    rcases toldCreation_cons_eq_some.mp told with last | ⟨none, first⟩
    · exact ih later next last after
    · unfold Object.shownCreation
      rw [created_through_of_untold later next none after]
      exact turn.shownCreation_of_told first

end Session

/-- Only a write makes an entry under a free key, and the entry then tells the time of creation that
the write tells, or else when the write was made. While the entry stays, that time stays as long as
no writer tells one, and the entry shows the last one that a writer has told. -/
theorem creation_over_runs {e : Occurrence} (absent : s.store.get? key = none)
    (inserted : (s.meet e).store.get? key = some p) :
    ∃ w, e.intent s.store = .write key w ∧
      p.metadata.creationTimestamp = some (w.metadata.creationTimestamp.getD s.now) ∧
      ∀ (later : List Occurrence) o, (s.meet e).Stays key later →
        ((s.meet e).through later).store.get? key = some o →
          ((s.meet e).toldCreation key later = none →
            o.metadata.creationTimestamp = some (w.metadata.creationTimestamp.getD s.now)) ∧
          ∀ t, (s.meet e).toldCreation key later = some t → o.shownCreation = some t.text := by
  have turn : s.Turn key none (e.intent s.store) (some p) :=
    absent ▸ inserted ▸ s.turn_meet key e
  obtain ⟨w, means, created⟩ := turn.inserted
  exact ⟨w, means, created, fun later o stays after =>
    ⟨fun untold => (Session.created_through_of_untold stays inserted untold after).trans created,
      fun t told => Session.shownCreation_through_of_told stays inserted told after⟩⟩

namespace Sample

/-- The configuration is added without a time of creation. -/
def adding : Occurrence := .operation (.add Configuration hooked)

/-- It is written over with a time of creation. -/
def backdating : Occurrence :=
  .operation (.update Configuration
    { hooked with metadata := { hooked.metadata with creationTimestamp := some ⟨9, 0⟩ } })

end Sample

/-- The time of the insertion outlives an update that tells none, but not one that tells another. -/
theorem creation_over_runs_backdated :
    Sample.unwritten.store.get? Sample.entryKey = none ∧
    (∃ p, (Sample.unwritten.meet Sample.adding).store.get? Sample.entryKey = some p) ∧
    (∃ o, ((Sample.unwritten.meet Sample.adding).through Sample.revising).store.get?
        Sample.entryKey = some o ∧ o.metadata.creationTimestamp = some ⟨0, 0⟩) ∧
    ∃ o, ((Sample.unwritten.meet Sample.adding).through
        (Sample.revising ++ [Sample.backdating])).store.get? Sample.entryKey = some o ∧
      o.shownCreation = some (Timestamp.text ⟨9, 0⟩) := by
  have absent : Sample.unwritten.store.get? Sample.entryKey = none := rfl
  have held (l : List Occurrence)
      (there : (((Sample.unwritten.meet Sample.adding).through l).store.get?
        Sample.entryKey).isSome) :
      ∃ o, ((Sample.unwritten.meet Sample.adding).through l).store.get?
        Sample.entryKey = some o := Option.isSome_iff_exists.mp there
  obtain ⟨p, inserted⟩ := held [] rfl
  obtain ⟨o, kept⟩ := held Sample.revising rfl
  obtain ⟨o', moved⟩ := held (Sample.revising ++ [Sample.backdating]) rfl
  have stays : (Sample.unwritten.meet Sample.adding).Stays Sample.entryKey
      (Sample.revising ++ [Sample.backdating]) := by
    simp only [Sample.revising, List.cons_append, List.nil_append, Session.stays_cons,
      Session.stays_nil]
    exact ⟨rfl, rfl, rfl, rfl, rfl⟩
  obtain ⟨w, means, -, runs⟩ := creation_over_runs (s := Sample.unwritten) (e := Sample.adding)
    absent inserted
  cases means
  exact ⟨absent, ⟨p, inserted⟩,
    ⟨o, kept, (runs _ o (stays.of_prefix (List.prefix_append _ _)) kept).1 rfl⟩,
    ⟨o', moved, (runs _ o' stays moved).2 _ rfl⟩⟩

/-- An update replaces the time of creation that was stored. -/
theorem creation_replaced :
    ((Sample.unwritten.meet Sample.adding).store.get? Sample.entryKey).map
        (·.metadata.creationTimestamp) = some (some ⟨0, 0⟩) ∧
    (((Sample.unwritten.meet Sample.adding).meet Sample.backdating).store.get?
        Sample.entryKey).map (·.metadata.creationTimestamp) = some (some ⟨9, 0⟩) :=
  ⟨rfl, rfl⟩

end Provisioner
