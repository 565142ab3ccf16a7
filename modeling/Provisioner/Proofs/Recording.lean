import Provisioner.Proofs.ApplySteps
import Provisioner.Proofs.CredentialLookup

/-!
What a pass records at its end, and that recording it twice changes nothing. A note on a
configuration is absorbed once it has been made on one whose generation is told; outputs that have
been published are published the same way again. So the end of a pass leaves a store in which the
same end of a pass does nothing.
-/

namespace Provisioner

open Reconcile
open Executor (Progress Report)

variable {τ : Type} [Resource τ] {s s' : Session} {t : Target} {c c₁ : Configuration}
  {key : ObjectKey}

/-! ### Notes -/

namespace Object

/-- An object whose generation is told replaces itself by nothing. -/
theorem replacing_self {o : Object} (told : o.metadata.generation.isSome) :
    o.replacing o = none := by
  have counted : o.counted = o := by
    unfold Object.counted
    obtain ⟨g, here⟩ := Option.isSome_iff_exists.mp told
    rw [here, Option.getD_some, ← here]
    exact o.withMetadata_metadata
  have taken : o.takingOver o = o := (takingOver_of_times rfl rfl rfl).trans counted
  simp [replacing, taken, same_refl]

end Object

/-- Whether an edit of what is under a key would change nothing. -/
def Store.Absorbs (s : Store) (key : ObjectKey) (f : τ → τ) : Prop :=
  ∀ r, s.read τ key = some r → s.Holds key (Resource.wrap (f r))

theorem Store.Absorbs.congr {s s' : Store} {f : τ → τ} (absorbs : s.Absorbs key f)
    (same : s'.get? key = s.get? key) : s'.Absorbs key f := fun r held =>
  (absorbs r ((Store.read_congr same).symm.trans held)).congr same

theorem Session.edit_of_absorbs {f : τ → τ} (absorbs : s.store.Absorbs key f) :
    s.edit key f = s := by
  cases held : s.store.read τ key with
  | none => exact edit_of_read_none held
  | some r => rw [edit_of_read held, write_of_holds (absorbs r held)]

/-- An edit that does nothing is absorbed. -/
theorem Store.holds_of_edit {f : τ → τ} {r : τ} (gentle : Gentle f)
    (held : s.store.read τ key = some r)
    (alike : (Resource.wrap (f r)).counted.same (Resource.wrap r) = true) :
    s.store.Holds key (Resource.wrap (f r)) := by
  refine ⟨_, Store.read_eq_some_iff.mp held, ?_⟩
  have metadata := gentle.metadata r
  have taken : (Resource.wrap r).takingOver (Resource.wrap (f r)) =
      (Resource.wrap (f r)).counted := by
    apply Object.takingOver_of_times <;> rw [Resource.metadata_wrap, Resource.metadata_wrap, metadata]
  simp [Object.replacing, taken, alike]

/-- A status that has been noted where the generation is told is absorbed. -/
theorem Session.absorbs_edit (state : Configuration.State) (message : String)
    (outputs : Dict String String) (held : s.store.read Configuration key = some c)
    (told : c.metadata.generation.isSome) :
    (s.edit key (withApplyStatus state message outputs)).store.Absorbs key
      (withApplyStatus state message outputs) := by
  have gentle := (gentle_withApplyStatus state message outputs)
  rcases Session.edit_cases gentle held with ⟨stays, alike⟩ | replaced
  · rw [stays]
    intro c' held'
    cases held.symm.trans held'
    exact Store.holds_of_edit gentle held alike
  · rw [replaced]
    have stored : (s.put key (Resource.wrap (withApplyStatus state message outputs c)).counted).store.get?
        key = some (.configuration (withApplyStatus state message outputs c)) := by
      rw [get?_put, if_pos rfl]
      obtain ⟨g, here⟩ := Option.isSome_iff_exists.mp told
      have counted : (withApplyStatus state message outputs c).counted =
          withApplyStatus state message outputs c := by
        unfold Configuration.counted
        change { withApplyStatus state message outputs c with
          metadata := { c.metadata with generation := some (c.metadata.generation.getD 1) } } = _
        rw [here, Option.getD_some, ← here]
        rfl
      exact congrArg (some <| Object.configuration ·) counted
    intro c' held'
    cases (Store.read_eq_some_iff.mpr stored).symm.trans held'
    exact ⟨_, stored, Object.replacing_self told⟩

/-- A status that has been noted is there, with the generation told. -/
theorem Session.read_noted (state : Configuration.State) (message : String)
    (outputs : Dict String String) (held : s.store.read Configuration key = some c) :
    ∃ c', (s.edit key (withApplyStatus state message outputs)).store.read Configuration key = some c' ∧
      c'.applyState = some state ∧ c'.metadata.generation.isSome := by
  obtain ⟨c', found, -, told, -, status⟩ := Configuration.read_edit
    (gentle_withApplyStatus state message outputs) rfl held
  refine ⟨c', found, ?_, told⟩
  unfold Configuration.applyState
  rw [status]
  rfl

/-! ### Publishing -/

/-- The configuration that the secret of a namespace and name belongs to, if it is another one. -/
def Store.otherOwner? (s : Store) (t : Target) (ns name : String) : Option Request :=
  (s.read Secret ⟨.secret, ns, name⟩).bind fun secret => Outputs.otherOwner? secret t

theorem Store.otherOwner?_congr {s s' : Store} {ns name : String}
    (same : s'.get? ⟨.secret, ns, name⟩ = s.get? ⟨.secret, ns, name⟩) :
    s'.otherOwner? t ns name = s.otherOwner? t ns name := by
  unfold Store.otherOwner?
  rw [read_congr same]

namespace Session

/-- Publishes outputs in the secret of a namespace and name. -/
def publish (s : Session) (t : Target) (ns name : String) (outputs : Dict String String) :
    Session :=
  s.write ⟨.secret, ns, name⟩ <| Resource.wrap <|
    match s.store.read Secret ⟨.secret, ns, name⟩ with
    | none => Secret.ofTexts ns name outputs (some t.labels)
    | some secret => Outputs.refreshed secret outputs

/-- Outputs that have been published are published the same way again. -/
structure Published (t : Target) (ns name : String) (outputs : Dict String String) (s : Store) :
    Prop where
  own : s.otherOwner? t ns name = none
  again : ∃ secret, s.read Secret ⟨.secret, ns, name⟩ = some secret ∧
    s.Holds ⟨.secret, ns, name⟩ (Resource.wrap (Outputs.refreshed secret outputs))

theorem publish_of_published {ns name : String} {outputs : Dict String String}
    (published : Published t ns name outputs s.store) : s.publish t ns name outputs = s := by
  obtain ⟨secret, found, holds⟩ := published.again
  unfold publish
  rw [found]
  exact write_of_holds holds

end Session

/-- One target is told from another by its labels: by a name or a namespace that it has. -/
def Target.ToldFrom (owner t : Target) : Prop :=
  owner.name ≠ "" ∧ owner.name ≠ t.name ∨ owner.ns ≠ "" ∧ owner.ns ≠ t.ns

instance (owner t : Target) : Decidable (owner.ToldFrom t) :=
  inferInstanceAs (Decidable (_ ∨ _))

theorem Target.not_toldFrom_of_key {owner : Target} (same : t.key = owner.key) :
    ¬ owner.ToldFrom t := by
  injection same with _ ns name
  simp [Target.ToldFrom, name, ns]

/-- Labels speak of their owner where it is told from the target. -/
theorem Outputs.otherOwner?_of_owner {owner : Target} {secret : Secret}
    (labels : secret.metadata.labels = some owner.labels) :
    Outputs.otherOwner? secret t =
      if owner.ToldFrom t then some ⟨owner.ns, owner.name⟩ else none := by
  have name : owner.labels.get? Names.ownedByLabel = some owner.name := by
    unfold Target.labels
    rw [Dict.get?_ofList]
    rfl
  have ns : owner.labels.get? Names.ownedNamespaceLabel = some owner.ns := by
    unfold Target.labels
    rw [Dict.get?_ofList]
    rfl
  unfold Outputs.otherOwner?
  rw [labels, Option.bind_some]
  by_cases told : owner.ToldFrom t
  · rw [if_pos told]
    unfold Target.ToldFrom at told
    simp [name, ns, told]
  · rw [if_neg told]
    unfold Target.ToldFrom at told
    simp [name, ns, told]

theorem Outputs.otherOwner?_of_labels {secret : Secret}
    (labels : secret.metadata.labels = some t.labels) : Outputs.otherOwner? secret t = none :=
  (otherOwner?_of_owner labels).trans (if_neg (Target.not_toldFrom_of_key rfl))

/-- The secret with the outputs, once it is stored, is published the same way again. -/
theorem Session.published_of_get? {ns name : String} {outputs : Dict String String}
    {store : Store} {secret : Secret}
    (stored : store.get? ⟨.secret, ns, name⟩ = some (.secret secret))
    (told : secret.metadata.generation.isSome) (empty : secret.data = none)
    (texts : secret.stringData = some outputs) (own : Outputs.otherOwner? secret t = none) :
    Published t ns name outputs store := by
  have found : store.read Secret ⟨.secret, ns, name⟩ = some secret :=
    Store.read_eq_some_iff.mpr stored
  have same : Outputs.refreshed secret outputs = secret := by
    unfold Outputs.refreshed
    rw [← empty, ← texts]
  refine ⟨?_, secret, found, ?_⟩
  · unfold Store.otherOwner?
    rw [found, Option.bind_some, own]
  · rw [same]
    exact ⟨_, stored, Object.replacing_self told⟩

theorem Session.published_publish {ns name : String} (outputs : Dict String String)
    (keyed : s.store.WellKeyed) (own : s.store.otherOwner? t ns name = none) :
    Published t ns name outputs (s.publish t ns name outputs).store := by
  unfold publish
  cases found : s.store.read Secret ⟨.secret, ns, name⟩ with
  | none =>
    have missing := (keyed.read_eq_none_iff (τ := Secret) rfl).mp found
    have stored := get?_write_self s ⟨.secret, ns, name⟩
      (Resource.wrap (Secret.ofTexts ns name outputs (some t.labels)))
    rw [missing] at stored
    exact published_of_get? stored rfl rfl rfl (Outputs.otherOwner?_of_labels rfl)
  | some secret =>
    have held := Store.read_eq_some_iff.mp found
    have free : Outputs.otherOwner? secret t = none := by
      unfold Store.otherOwner? at own
      rwa [found] at own
    have stored := get?_write_self s ⟨.secret, ns, name⟩
      (Resource.wrap (Outputs.refreshed secret outputs))
    rw [held] at stored
    rcases Object.stored_cases s.now (Resource.wrap (Outputs.refreshed secret outputs))
      (some (Resource.wrap secret)) with ⟨p, previous, stays, -⟩ | ⟨g, d, replaced⟩
    · cases previous
      rw [stays] at stored
      have read : (s.write ⟨.secret, ns, name⟩
          (Resource.wrap (Outputs.refreshed secret outputs))).store.read Secret
          ⟨.secret, ns, name⟩ = some secret := Store.read_eq_some_iff.mpr stored
      refine ⟨?_, secret, read, holds_write _ _ _⟩
      unfold Store.otherOwner?
      rw [read, Option.bind_some, free]
    · rw [replaced] at stored
      exact published_of_get? stored rfl rfl rfl free

namespace Reconcile

theorem on_publish {ns name : String} (keyed : s.store.KeyedAt ⟨.secret, ns, name⟩)
    (asked : c.connectionSecret? = some (ns, name)) (outputs : Dict String String) :
    (Outputs.publish t ns name outputs).on s =
      match s.store.otherOwner? t ns name with
      | some owner => (.error (.secretConflict ⟨t.ns, t.name⟩ ⟨ns, name⟩ owner), s)
      | none => (.ok (), s.publish t ns name outputs) := by
  have search : s.store.findNamed Secret ns name =
      .ok (s.store.read Secret ⟨.secret, ns, name⟩) := keyed.find rfl
  unfold Outputs.publish Store.otherOwner? Session.publish
  rw [Pass.on_bind, Pass.on_findNamed, search]
  cases found : s.store.read Secret ⟨.secret, ns, name⟩ with
  | none => exact Pass.on_update (key?_outputs asked outputs)
  | some secret =>
    rw [Option.bind_some]
    simp only
    cases owned : Outputs.otherOwner? secret t with
    | some owner => rfl
    | none =>
      have placed := keyed _ (Store.read_eq_some_iff.mp found)
      exact Pass.on_update placed

theorem on_generate_unread {e : Error} (unread : Outputs.read s.store t = .error e) :
    (Outputs.generate c t).on s = (.error e, s) := by
  unfold Outputs.generate
  rw [Pass.on_bind, Pass.on_ask, unread]

/-- A harvest, where nothing but the secret that is asked for is under its key. -/
theorem on_generate_asked {ns name : String} (keyed : s.store.KeyedAt ⟨.secret, ns, name⟩)
    (asked : c.connectionSecret? = some (ns, name)) :
    (Outputs.generate c t).on s =
      match Outputs.read s.store t with
      | .error e => (.error e, s)
      | .ok outputs =>
        match s.store.otherOwner? t ns name with
        | some owner => (.error (.secretConflict ⟨t.ns, t.name⟩ ⟨ns, name⟩ owner), s)
        | none => (.ok outputs, s.publish t ns name outputs) := by
  unfold Outputs.generate
  rw [Pass.on_bind, Pass.on_ask]
  cases Outputs.read s.store t with
  | error e => rfl
  | ok outputs =>
    simp only [asked]
    rw [Pass.on_bind, on_publish keyed asked]
    cases s.store.otherOwner? t ns name <;> rfl

theorem on_generate (keyed : s.store.WellKeyed) :
    (Outputs.generate c t).on s =
      match Outputs.read s.store t with
      | .error e => (.error e, s)
      | .ok outputs =>
        match c.connectionSecret? with
        | none => (.ok outputs, s)
        | some (ns, name) =>
          match s.store.otherOwner? t ns name with
          | some owner => (.error (.secretConflict ⟨t.ns, t.name⟩ ⟨ns, name⟩ owner), s)
          | none => (.ok outputs, s.publish t ns name outputs) := by
  cases asked : c.connectionSecret? with
  | none =>
    unfold Outputs.generate
    rw [Pass.on_bind, Pass.on_ask, asked]
    cases Outputs.read s.store t <;> rfl
  | some place => exact on_generate_asked (keyed _) asked

theorem read_ungenerated (absent : s.store.get? t.stateSecretKey = none) :
    Outputs.read s.store t = .error (.state .notGenerated) := by
  have search : s.store.findNamed Secret t.stateNs t.stateSecret = .ok none :=
    Store.find_of_absent rfl absent
  unfold Outputs.read
  rw [search]
  rfl

/-- The outputs are read from the state secret only. -/
theorem read_congr {s s' : Store} (same : s'.get? t.stateSecretKey = s.get? t.stateSecretKey) :
    Outputs.read s' t = Outputs.read s t := by
  have found : s'.findNamed Secret t.stateNs t.stateSecret =
      s.findNamed Secret t.stateNs t.stateSecret := Store.find_congr same
  unfold Outputs.read
  rw [found]

/-- Where the secrets are those that publishing left, publishing again does nothing and answers the
same. -/
theorem generate_again (keyed : s.store.WellKeyed)
    (apart : ¬ Target.Publishes c t.stateSecretKey) (keyed' : s'.store.WellKeyed)
    (same : ∀ key, key.kind = .secret →
      s'.store.get? key = ((Outputs.generate c t).on s).2.store.get? key) :
    (Outputs.generate c t).on s' = (((Outputs.generate c t).on s).1, s') := by
  have state : s'.store.get? t.stateSecretKey = s.store.get? t.stateSecretKey := by
    rw [same _ rfl]
    exact (within_generate (t := t) (c := c) s keyed).get? (by nofun) apart
  rw [on_generate keyed] at same
  rw [on_generate keyed, on_generate keyed', read_congr state]
  cases read : Outputs.read s.store t with
  | error e => rfl
  | ok outputs =>
    rw [read] at same
    simp only at same ⊢
    cases asked : c.connectionSecret? with
    | none => rfl
    | some place =>
      obtain ⟨ns, name⟩ := place
      rw [asked] at same
      simp only at same ⊢
      cases owned : s.store.otherOwner? t ns name with
      | some owner =>
        rw [owned] at same
        have owned' : s'.store.otherOwner? t ns name = some owner :=
          (Store.otherOwner?_congr (same _ rfl)).trans owned
        rw [owned']
      | none =>
        rw [owned] at same
        have published := Session.published_publish outputs keyed owned
        have published' : Session.Published t ns name outputs s'.store := by
          obtain ⟨own, secret, found, holds⟩ := published
          exact ⟨(Store.otherOwner?_congr (same _ rfl)).trans own, secret,
            (Store.read_congr (same _ rfl)).trans found, holds.congr (same _ rfl)⟩
        rw [published'.own]
        simp only
        rw [Session.publish_of_published published']

/-- Publishing leaves everything alone that is no secret. -/
theorem get?_generate (keyed : s.store.WellKeyed) (other : key.kind ≠ .secret) :
    ((Outputs.generate c t).on s).2.store.get? key = s.store.get? key := by
  rw [on_generate keyed]
  split
  · rfl
  · split
    · rfl
    · split
      · rfl
      · exact Session.get?_write_of_ne _ _ fun here => other (here ▸ rfl)

/-! ### Progress -/

/-- The status that tells of outputs, or why there are none. -/
def withOutputs (answered : Except Error (Dict String String)) :
    Configuration → Configuration :=
  match answered with
  | .ok outputs =>
    withApplyStatus .available "Cloud resources are deployed and ready to use" outputs
  | .error e =>
    withApplyStatus .generatingOutputs ("failed to generate outputs: " ++ e.message) ∅

theorem on_recordSuccess :
    (recordSuccess t c).on s =
      (((Outputs.generate c t).on s).1.map fun _ => .done,
        ((Outputs.generate c t).on s).2.edit t.key (withOutputs ((Outputs.generate c t).on s).1)) := by
  unfold recordSuccess
  rw [Pass.on_bind, Pass.on_tryCatch]
  rcases (Outputs.generate c t).on s with ⟨e | outputs, s'⟩
  · simp only
    rw [Pass.on_bind, on_setApplyStatus]
    rfl
  · simp only
    rw [Pass.on_bind, on_setApplyStatus]
    rfl

theorem on_recordRunning (keyed : s.store.WellKeyed) :
    (recordRunning t).on s =
      (.error .applyPending,
        if isWaiting ((s.store.read Configuration t.key).bind (·.applyState)) then s
        else s.edit t.key (withApplyStatus .provisioningAndChecking
          "Cloud resources are being provisioned and provisioning status is checking..." ∅)) := by
  unfold recordRunning
  rw [Pass.on_bind, Pass.on_find, keyed.find rfl]
  dsimp only
  cases isWaiting ((s.store.read Configuration t.key).bind (·.applyState)) with
  | true => rfl
  | false =>
    simp only [Bool.not_false, if_true]
    rw [Pass.on_bind, on_setApplyStatus]
    rfl

/-- Recording the same progress again does nothing in a store. -/
def Recorded (t : Target) (c : Configuration) (r : Report) (answer : Except Error Outcome)
    (store : Store) : Prop :=
  ∀ s : Session, s.store = store → (recordProgress t c r).on s = (answer, s)

/-- How a pass over an active configuration ends: it no longer counts as reloading, and doing the
same `again` changes nothing, unless the generation was not told before and is told now. -/
structure Concluded (t : Target) (c₁ : Configuration) (again : Prop) (s : Store) : Prop where
  noted : ∃ c₂, s.read Configuration t.key = some c₂ ∧ c₂.applyState ≠ some .reloading ∧
    (c₂.metadata.generation.isSome ∨ again)
  again : c₁.metadata.generation.isSome → again

theorem Concluded.imp {again again' : Prop} {c₂ : Configuration} {s : Store}
    (concluded : Concluded t c₂ again s)
    (told : c₁.metadata.generation.isSome → c₂.metadata.generation.isSome)
    (rest : again → again') : Concluded t c₁ again' s := by
  obtain ⟨⟨c₃, held, other, settles⟩, then'⟩ := concluded
  exact ⟨⟨c₃, held, other, settles.imp_right rest⟩, fun told₁ => rest (then' (told told₁))⟩

theorem concluded_note {again : Prop} {state : Configuration.State} {message : String}
    {outputs : Dict String String} (held : s.store.read Configuration t.key = some c₁)
    (other : state ≠ .reloading)
    (absorbed : (s.edit t.key (withApplyStatus state message outputs)).store.Absorbs t.key
      (withApplyStatus state message outputs) → again) :
    Concluded t c₁ again (s.edit t.key (withApplyStatus state message outputs)).store := by
  obtain ⟨c₂, found, noted, told⟩ := Session.read_noted state message outputs held
  refine ⟨⟨c₂, found, by simp [noted, other], .inl told⟩, fun told₁ => absorbed ?_⟩
  exact Session.absorbs_edit state message outputs held told₁

theorem on_recordFailure {p : Progress} {state : Configuration.State}
    (failed : p.failureState = some state) (message : String) :
    (recordProgress t c ⟨p, message⟩).on s =
      (.ok .done, s.edit t.key (withApplyStatus state message ∅)) := by
  have noted : ∀ state : Configuration.State,
      (do setApplyStatus t.key state message; return .done : Pass Outcome).on s =
        (.ok .done, s.edit t.key (withApplyStatus state message ∅)) := by
    intro state
    rw [Pass.on_bind, on_setApplyStatus]
    rfl
  cases p with
  | provisioning => cases failed
  | succeeded => cases failed
  | initError | applyError | invalidRegion =>
    cases failed
    exact noted _

theorem concluded_withOutputs {again : Prop} (answered : Except Error (Dict String String))
    (held : s.store.read Configuration t.key = some c₁)
    (absorbed : (s.edit t.key (withOutputs answered)).store.Absorbs t.key (withOutputs answered) →
      again) : Concluded t c₁ again (s.edit t.key (withOutputs answered)).store := by
  have available : Configuration.State.available ≠ .reloading := by nofun
  have generating : Configuration.State.generatingOutputs ≠ .reloading := by nofun
  cases answered with
  | ok outputs => exact concluded_note held available absorbed
  | error e => exact concluded_note held generating absorbed

/-- Publishing again where a note has been made answers the same. -/
theorem recorded_recordSuccess {message : String} (keyed : s.store.WellKeyed)
    (apart : ¬ Target.Publishes c t.stateSecretKey)
    {answered : Except Error (Dict String String)} (first : ((Outputs.generate c t).on s).1 = answered)
    (absorbs : (((Outputs.generate c t).on s).2.edit t.key (withOutputs answered)).store.Absorbs
      t.key (withOutputs answered)) :
    Recorded t c ⟨.succeeded, message⟩ (answered.map fun _ => .done)
      (((Outputs.generate c t).on s).2.edit t.key (withOutputs answered)).store := by
  intro s' same
  have published := (within_generate (t := t) (c := c) s keyed).wellKeyed keyed
  have note : Note (withOutputs answered) := by
    cases answered <;> exact note_withApplyStatus (by decide) _ _
  have keyed' : s'.store.WellKeyed := by
    rw [same]
    exact Session.wellKeyed_note published t.key note
  have again := generate_again keyed apart keyed' fun key kind => by
    rw [same]
    refine Session.get?_edit_of_ne _ _ fun here => ?_
    rw [here] at kind
    cases kind
  change (recordSuccess t c).on s' = _
  rw [on_recordSuccess, again, first]
  simp only
  rw [Session.edit_of_absorbs]
  rw [same]
  exact absorbs

theorem concluded_recordProgress (keyed : s.store.WellKeyed)
    (held : s.store.read Configuration t.key = some c₁)
    (apart : ¬ Target.Publishes c t.stateSecretKey) (r : Report) :
    Concluded t c₁
      (Recorded t c r ((recordProgress t c r).on s).1 ((recordProgress t c r).on s).2.store)
      ((recordProgress t c r).on s).2.store := by
  obtain ⟨progress, message⟩ := r
  cases failure : progress.failureState with
  | some state =>
    have other : state ≠ .reloading := by
      rintro rfl
      cases progress <;> cases failure
    rw [on_recordFailure failure]
    refine concluded_note held other fun absorbs s' same => ?_
    rw [on_recordFailure failure, Session.edit_of_absorbs]
    rw [same]
    exact absorbs
  | none =>
    cases progress with
    | initError | applyError | invalidRegion => cases failure
    | succeeded =>
      have succeeded : (recordProgress t c ⟨.succeeded, message⟩).on s = (recordSuccess t c).on s :=
        rfl
      have held' := (Store.read_congr (get?_generate (t := t) (c := c) keyed (by nofun))).trans held
      rw [succeeded, on_recordSuccess]
      exact concluded_withOutputs _ held' (recorded_recordSuccess keyed apart rfl)
    | provisioning =>
      have running : ∀ s : Session,
          (recordProgress t c ⟨.provisioning, message⟩).on s = (recordRunning t).on s := fun _ => rfl
      rw [running, on_recordRunning keyed, held, Option.bind_some]
      cases waiting : isWaiting c₁.applyState with
      | false =>
        rw [if_neg (by decide)]
        refine concluded_note held (by nofun) fun absorbs s' same => ?_
        have keyed' : s'.store.WellKeyed := by
          rw [same]
          exact Session.wellKeyed_note keyed t.key (note_withApplyStatus (by decide) _ _)
        rw [← same] at absorbs
        rw [running, on_recordRunning keyed', Session.edit_of_absorbs absorbs, ite_self]
      | true =>
        have recorded : Recorded t c ⟨.provisioning, message⟩ (.error .applyPending) s.store := by
          intro s' same
          rw [running, on_recordRunning (same ▸ keyed), same, held, Option.bind_some, waiting]
          rfl
        refine ⟨⟨c₁, held, ?_, .inr recorded⟩, fun _ => recorded⟩
        intro reloading
        rw [reloading] at waiting
        cases waiting

end Reconcile

end Provisioner
