import Provisioner.Proofs.ApplyGate
import Provisioner.Proofs.Stability

/-!
The debounce of source changes. A pass that finds another text kept for its source than the one it
renders puts the source off: it keeps the new text, notes that the configuration reloads, asks to
come back, and touches nothing else. The pass after it finds what was kept and runs it. What is
compared is the text in the file that the source would be kept in, and only where no repository is
named. So a source that changes its kind goes unnoticed, its text before being in another file, and
so does any source beside which a blank repository is named.
-/

namespace Provisioner

open Reconcile

variable {s : Session} {t : Target} {c : Configuration} {b : Bundle} {settings : Settings}
  {request : Request}

/-! ### What counts as a change -/

/-- Another text is kept in the file that the text of a bundle is kept in. -/
def Store.KeepsOther (s : Store) (t : Target) (b : Bundle) : Prop :=
  ∃ kept data previous, s.read ConfigMap t.inputBundleKey = some kept ∧ kept.data = some data ∧
    data.get? (Terraform.fileName (some b.type)) = some previous ∧ previous ≠ b.text

theorem Store.bundleDiffers_iff {s : Store} :
    s.bundleDiffers t b = true ↔ t.remote = none ∧ s.KeepsOther t b := by
  unfold Store.bundleDiffers Reconcile.bundleDiffers
  rw [Bool.and_eq_true, Option.isNone_iff_eq_none]
  refine and_congr_right fun _ => ⟨fun differs => ?_, ?_⟩
  · obtain ⟨previous, listed, other⟩ := (Option.any_eq_true _ _).mp differs
    obtain ⟨data, held, listed⟩ := Option.bind_eq_some_iff.mp listed
    obtain ⟨kept, found, held⟩ := Option.bind_eq_some_iff.mp held
    exact ⟨kept, data, previous, found, held, listed, of_decide_eq_true other⟩
  · rintro ⟨kept, data, previous, found, held, listed, other⟩
    rw [found, Option.bind_some, held, Option.bind_some, listed]
    exact decide_eq_true other

/-! ### Putting a source off -/

/-- What a pass leaves that only keeps a source that has changed: the new text is kept, the
configuration is noted to reload, and no other object is written or heard of. -/
structure Session.PutsOff (s : Session) (t : Target) (c : Configuration) (b : Bundle)
    (s' : Session) : Prop where
  noted : ∃ c', s'.store.read Configuration t.key = some c' ∧ c.Continues c' ∧
    c'.applyState = some .reloading
  kept : ∃ m data, s'.store.read ConfigMap t.inputBundleKey = some m ∧ m.data = some data ∧
    data.get? (Terraform.fileName (some b.type)) = some b.text
  triggered : s'.triggered = s.triggered
  elsewhere : ∀ key, key ≠ t.key → key ≠ t.inputBundleKey →
    s'.store.get? key = s.store.get? key
  quiet : ∀ kind, kind ≠ .configuration → kind ≠ .configMap → s.Quiet kind s'

namespace Reconcile

/-- A pass over a configuration whose source has changed stops at that. -/
theorem on_changedPass (resolve : Resolver) (keyed : s.store.WellKeyed)
    (here : request.key .configuration = t.key) (target : Target.of settings c = t)
    (held : s.store.read Configuration t.key = some c) (active : c.metadata.lifecycle = .active)
    (bundled : bundle t c = .ok b) (source : (s.hold t c).store.bundleDiffers t b = true) :
    (configurationPass settings resolve request).on s =
      (.ok (.after Outcome.delay),
        s.stopped t c .reloading "Configuration's HCL has changed, and starts reloading") := by
  unfold Session.stopped Session.asked
  rw [on_activePass keyed (here ▸ held) active, target, on_apply keyed (keyed.placed held), bundled]
  simp only [source, if_true]
  rfl

end Reconcile

/-- A note leaves the source to be run by the passes to come. -/
theorem Poised.note {f : Configuration → Configuration} (poised : Poised t c b s.store)
    (note : Note f) : Poised t c b (s.edit t.key f).store := by
  obtain ⟨c₁, held, alike, own, active⟩ := poised.lives
  obtain ⟨c₂, held₂, continues⟩ := note.read_edit held
  exact ⟨Session.wellKeyed_note poised.keyed t.key note,
    ⟨c₂, held₂, alike.trans continues.alike, continues.held own,
      continues.lifecycle.trans active⟩,
    poised.source.congr (Session.get?_edit_of_ne _ _ (by nofun))⟩

/-- No change is found in a source that is kept. -/
theorem Poised.unchanged (poised : Poised t c b s.store) (target : Target.of settings c = t)
    (bundled : bundle t c = .ok b) :
    ∃ c', s.store.read Configuration t.key = some c' ∧
      ((renderInputs (.of settings c') c').on s).1 = .ok (b, false) := by
  obtain ⟨c', held, alike, -, -⟩ := poised.lives
  refine ⟨c', held, ?_⟩
  rw [alike.target settings, target, on_renderInputs poised.keyed, alike.bundle, bundled]
  simp only [poised.source_alike]

theorem putsOff_stopped (keyed : s.store.WellKeyed)
    (held : s.store.read Configuration t.key = some c) (bundled : bundle t c = .ok b)
    (message : String) : s.PutsOff t c b (s.stopped t c .reloading message) := by
  have asked : s.asked t c = (s.hold t c).keep t b := by simp only [Session.asked, bundled]
  obtain ⟨c₁, found, continues⟩ := Session.read_asked keyed held
  obtain ⟨m, kept, data⟩ := Session.read_write_configMap (s := s.hold t c) (bundleMap t b)
    (rfl : t.inputBundleKey.kind = .configMap)
  constructor
  case noted =>
    obtain ⟨c₂, left, noted, -⟩ := Session.read_noted .reloading message ∅ found
    have note : Note (withApplyStatus .reloading message ∅) :=
      note_withApplyStatus (by decide) message ∅
    obtain ⟨c₃, left', further⟩ := note.read_edit found
    cases left.symm.trans left'
    exact ⟨c₂, left, continues.trans further, noted⟩
  case kept =>
    have apart : t.inputBundleKey ≠ t.key := by rintro ⟨⟩
    refine ⟨m, b.data, (Store.read_congr (Session.get?_edit_of_ne _ _ apart)).trans ?_, data, ?_⟩
    · rw [asked]
      exact kept
    · simp [Bundle.data]
  case triggered => exact Session.triggered_stopped
  case elsewhere =>
    exact fun key other apart =>
      (Session.get?_edit_of_ne _ _ other).trans (Session.get?_asked other apart)
  case quiet =>
    exact fun kind configuration source => (Session.quiet_asked configuration source).trans
      ((Session.writes_edit _ t.key _).quiet configuration.symm)

/-! ### Passes -/

/-- The debounce of source changes. From a store with objects under their own keys, a pass over an
active configuration with an accepted source that is not in a repository renders the source. If the
text kept in its file is another one, the pass asks to come back in three seconds and puts the source
off: it keeps the new text and notes that the configuration reloads, no other object is written or
heard of, no job is handed over, and the pass after it, at whatever time, finds no change and runs
the source. Otherwise the source is run at once, whatever is kept in other files. -/
theorem source_change_debounced (settings : Settings) (resolve : Resolver) (s : Session)
    (request : Request) (c : Configuration) {type : Configuration.SourceType}
    (keyed : s.store.WellKeyed)
    (held : s.store.get? (request.key .configuration) = some (.configuration c))
    (active : c.metadata.lifecycle = .active) (accepted : Terraform.validate c.spec = .ok type)
    (inline : (Target.of settings c).remote = none) :
    let t := Target.of settings c
    let pass := (configurationPass settings resolve request).on s
    ∃ text, Terraform.render c.spec type t.name t.stateNs = .ok text ∧
      (s.store.KeepsOther t ⟨type, text⟩ →
        pass.1 = .ok (.after 3000) ∧ s.PutsOff t c ⟨type, text⟩ pass.2 ∧
        ∀ s' : Session, s'.store = pass.2.store →
          (∃ c', s'.store.read Configuration t.key = some c' ∧
            ((renderInputs (.of settings c') c').on s').1 = .ok (⟨type, text⟩, false)) ∧
          (configurationPass settings resolve request).on s' =
            (answer ((run settings resolve t c ⟨type, text⟩).on s').1,
              ((run settings resolve t c ⟨type, text⟩).on s').2)) ∧
      (¬ s.store.KeepsOther t ⟨type, text⟩ →
        pass = (answer ((run settings resolve t c ⟨type, text⟩).on
            ((s.hold t c).keep t ⟨type, text⟩)).1,
          ((run settings resolve t c ⟨type, text⟩).on ((s.hold t c).keep t ⟨type, text⟩)).2)) := by
  intro t pass
  have held : s.store.read Configuration (request.key .configuration) = some c :=
    Store.read_eq_some_iff.mpr held
  have here : request.key .configuration = t.key := (Target.key_of (keyed.placed held)).symm
  rw [here] at held
  obtain ⟨text, rendered, bundled⟩ := bundle_of_validate accepted t
  have source : (s.hold t c).store.bundleDiffers t ⟨type, text⟩ =
      s.store.bundleDiffers t ⟨type, text⟩ := Store.bundleDiffers_congr (Session.get?_hold (by nofun))
  refine ⟨text, rendered, fun other => ?_, fun same => ?_⟩
  · have differs := source.trans (Store.bundleDiffers_iff.mpr ⟨inline, other⟩)
    have stops : pass = (.ok (.after 3000),
        s.stopped t c .reloading "Configuration's HCL has changed, and starts reloading") :=
      on_changedPass resolve keyed here rfl held active bundled differs
    rw [stops]
    refine ⟨rfl, putsOff_stopped keyed held bundled _, fun s' left => ?_⟩
    have asked : s.asked t c = (s.hold t c).keep t ⟨type, text⟩ := by
      simp only [Session.asked, bundled]
    have poised : Poised t c ⟨type, text⟩ s'.store := by
      rw [left]
      unfold Session.stopped
      rw [asked]
      exact (poised_heldAndKept keyed held active).note (note_withApplyStatus (by decide) _ _)
    exact ⟨poised.unchanged rfl bundled, poised.on_pass resolve here rfl bundled⟩
  · refine on_unchangedPass resolve keyed here rfl held active bundled (source.trans ?_)
    exact Bool.eq_false_iff.mpr fun differs => same (Store.bundleDiffers_iff.mp differs).2

namespace Sample

/-- The configuration with its provider and its credentials, and with a text from before kept in a
file. -/
def reloading (c : Configuration) (file : String) : Session where
  store :=
    { items := .ofList
        [(Sample.request.key .configuration, .configuration c),
         (providerRequest.key .provider, .provider (provider "credentials")),
         (⟨.secret, "prod", "account"⟩, .secret account),
         (webTarget.inputBundleKey, .configMap
          { metadata := { name := some webTarget.inputBundle, ns := some "prod" }
            data := some (.singleton file "# before") })]
      listeners := ∅ }
  now := ⟨0, 0⟩

/-- It names a blank repository beside its source. -/
def blank : Configuration :=
  { configuration with spec := { configuration.spec with remote := some " " } }

/-- The pass over it. -/
def reloaded (c : Configuration) (file : String) : Except Error Outcome × Session :=
  (configurationPass {} Provider.resolve Sample.request).on (reloading c file)

variable {c : Configuration} {file : String}

theorem wellKeyed_reloading
    (named : (Object.configuration c).key? = some (Sample.request.key .configuration)) :
    (reloading c file).store.WellKeyed := by
  refine Store.wellKeyed_ofList fun e listed => ?_
  simp only [List.mem_cons, List.not_mem_nil, or_false] at listed
  rcases listed with rfl | rfl | rfl | rfl
  · exact named
  · rfl
  · rfl
  · rfl

theorem get?_reloading : (reloading c file).store.get? (Sample.request.key .configuration) =
    some (.configuration c) := by
  unfold reloading Store.get?
  rw [Dict.get?_ofList]
  rfl

/-- The source takes the place of the text from before, and is run by the pass that sees that. -/
structure RunsAtOnce (c : Configuration) (file : String) : Prop where
  keyed : (reloading c file).store.WellKeyed
  held : (reloading c file).store.get? (Sample.request.key .configuration) =
    some (.configuration c)
  active : c.metadata.lifecycle = .active
  accepted : Terraform.validate c.spec = .ok .hcl
  before : ((reloading c file).store.read ConfigMap webTarget.inputBundleKey).map (·.data) =
    some (some (.singleton file "# before"))
  other : webBundle.data ≠ .singleton file "# before"
  after : ((reloaded c file).2.store.read ConfigMap webTarget.inputBundleKey).map (·.data) =
    some (some webBundle.data)
  triggered : (reloaded c file).2.triggered = [webTarget.jobKey .apply]
  noted : ((reloaded c file).2.store.read Configuration webTarget.key).map (·.applyState) =
    some (some .provisioningAndChecking)

end Sample

/-- Another text in the file of the source is put off. -/
theorem source_change_debounced_reloading :
    (Sample.reloading Sample.configuration "main.tf").store.WellKeyed ∧
    Terraform.validate Sample.configuration.spec = .ok .hcl ∧
    (Target.of {} Sample.configuration).remote = none ∧
    (Sample.reloading Sample.configuration "main.tf").store.KeepsOther Sample.webTarget
      Sample.webBundle ∧
    (Sample.reloaded Sample.configuration "main.tf").1 = .ok (.after 3000) ∧
    (Sample.reloading Sample.configuration "main.tf").PutsOff Sample.webTarget
      Sample.configuration Sample.webBundle (Sample.reloaded Sample.configuration "main.tf").2 := by
  have keyed : (Sample.reloading Sample.configuration "main.tf").store.WellKeyed :=
    Sample.wellKeyed_reloading rfl
  have accepted : Terraform.validate Sample.configuration.spec = .ok .hcl := rfl
  have other : (Sample.reloading Sample.configuration "main.tf").store.KeepsOther Sample.webTarget
      Sample.webBundle := ⟨_, _, _, rfl, rfl, rfl, by decide⟩
  obtain ⟨text, rendered, stops, -⟩ := source_change_debounced {} Provider.resolve
    (Sample.reloading Sample.configuration "main.tf") Sample.request Sample.configuration
    keyed Sample.get?_reloading rfl accepted rfl
  cases rendered
  obtain ⟨answered, puts, -⟩ := stops other
  exact ⟨keyed, accepted, rfl, other, answered, puts⟩

/-- What was kept goes unnoticed, and the source is run at once, where it was kept in the file for
sources of another kind, and where a blank repository is named beside the source. -/
theorem source_change_unnoticed :
    Sample.RunsAtOnce Sample.configuration "main.tf.json" ∧
    Sample.RunsAtOnce Sample.blank "main.tf" := by
  have left : ∀ e ∈ [(Sample.configuration, "main.tf.json"), (Sample.blank, "main.tf")],
      ((Sample.reloaded e.1 e.2).2.store.read ConfigMap Sample.webTarget.inputBundleKey).map
        (·.data) = some (some Sample.webBundle.data) ∧
      (Sample.reloaded e.1 e.2).2.triggered = [Sample.webTarget.jobKey .apply] ∧
      ((Sample.reloaded e.1 e.2).2.store.read Configuration Sample.webTarget.key).map
        (·.applyState) = some (some .provisioningAndChecking) := by decide +kernel
  obtain ⟨after, triggered, noted⟩ := left _ (List.mem_cons_self ..)
  obtain ⟨after', triggered', noted'⟩ := left _ (List.mem_cons_of_mem _ List.mem_cons_self)
  exact ⟨⟨Sample.wellKeyed_reloading rfl, Sample.get?_reloading, rfl, rfl, rfl, by decide, after,
      triggered, noted⟩,
    ⟨Sample.wellKeyed_reloading rfl, Sample.get?_reloading, rfl, rfl, rfl, by decide, after',
      triggered', noted'⟩⟩

end Provisioner
