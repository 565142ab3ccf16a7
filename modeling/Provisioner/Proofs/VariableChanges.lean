import Mathlib.Data.List.Forall2
import Provisioner.Proofs.Fingerprint
import Provisioner.Proofs.Stability

/-!
Changes of variables are looked for twice. The variables that are asked for are compared with those
of the variable secret, and the fingerprint of the job tells those that it was made from. The
comparison counts both sides and walks only one, which is enough: it finds no change just if the
names are the same and the values are the same up to the case of ASCII letters. Variables without a
change between them make one and the same job, so a pass that finds none leaves a job alone that was
made from the variables of the secret.
-/

namespace Provisioner

namespace Dict

variable {κ α β : Type} [Ord κ]

@[simp] theorem keys_map (f : α → β) (d : Dict κ α) : (d.map f).keys = d.keys := by
  simp [keys, map]

theorem length_keys (d : Dict κ α) : d.keys.length = d.size := List.length_map ..

end Dict

namespace Terraform

/-! ### Texts up to case -/

/-- The same character, or the two cases of a letter of ASCII. -/
def SameLetter (c d : Char) : Prop :=
  c = d ∨ (c.isUpper ∧ d.toNat = c.toNat + 32) ∨ (d.isUpper ∧ c.toNat = d.toNat + 32)

/-- Letter by letter the same text, but for the case of letters of ASCII. -/
def SameButCase (s s' : String) : Prop := List.Forall₂ SameLetter s.toList s'.toList

theorem isUpper_iff {c : Char} : c.isUpper ↔ 65 ≤ c.toNat ∧ c.toNat ≤ 90 := by
  show decide (c.val ≥ 65 ∧ c.val ≤ 90) = true ↔ _
  simp [UInt32.le_iff_toNat_le]

theorem toNat_toLower (c : Char) :
    c.toLower.toNat = if c.isUpper then c.toNat + 32 else c.toNat := by
  unfold Char.toLower
  split
  · rename_i upper
    have bounds := isUpper_iff.mp (decide_eq_true upper)
    have most : c.val.toNat ≤ 90 := bounds.2
    rw [if_pos (isUpper_iff.mpr bounds)]
    show (c.val + 32).toNat = c.val.toNat + 32
    exact (UInt32.toNat_add ..).trans
      (Nat.mod_eq_of_lt (show c.val.toNat + 32 < 2 ^ 32 by omega))
  · rename_i other
    exact (if_neg fun upper : c.isUpper = true => other (of_decide_eq_true upper)).symm

theorem toLower_eq_iff {c d : Char} : c.toLower = d.toLower ↔ SameLetter c d := by
  unfold SameLetter
  rw [← Char.toNat_inj, ← Char.toNat_inj, toNat_toLower, toNat_toLower]
  simp only [isUpper_iff]
  split <;> split <;> omega

theorem foldCase_eq_iff {s s' : String} : foldCase s = foldCase s' ↔ SameButCase s s' := by
  unfold foldCase SameButCase
  rw [String.ofList_inj, ← List.forall₂_eq_eq_eq, List.forall₂_map_left_iff,
    List.forall₂_map_right_iff]
  simp only [toLower_eq_iff]

/-! ### Variables up to case -/

variable {a b : Dict String String}

/-- The same names, and under each of them the same value up to case. -/
structure SameVariables (a b : Dict String String) : Prop where
  names : a.keys = b.keys
  values : ∀ name x y, a.get? name = some x → b.get? name = some y → SameButCase x y

theorem sameVariables_iff : SameVariables a b ↔ a.map foldCase = b.map foldCase := by
  constructor
  · rintro ⟨names, values⟩
    refine Dict.ext_get? fun name => ?_
    have present : (a.get? name).isSome ↔ (b.get? name).isSome := by
      rw [← Dict.mem_keys_iff, ← Dict.mem_keys_iff, names]
    rw [Dict.get?_map, Dict.get?_map]
    cases kept : a.get? name with
    | none =>
      rw [kept] at present
      rw [Option.not_isSome_iff_eq_none.mp (mt present.mpr nofun)]
    | some x =>
      rw [kept] at present
      obtain ⟨y, asked⟩ := Option.isSome_iff_exists.mp (present.mp rfl)
      rw [asked, Option.map_some, Option.map_some, foldCase_eq_iff.mpr (values name x y kept asked)]
  · intro folded
    refine ⟨by rw [← Dict.keys_map foldCase, folded, Dict.keys_map], fun name x y kept asked => ?_⟩
    have same := congrArg (·.get? name) folded
    simp only [Dict.get?_map, kept, asked, Option.map_some, Option.some.injEq] at same
    exact foldCase_eq_iff.mp same

/-- What the comparison looks at: the numbers of variables, and each of those on one side. -/
theorem variablesDiffer_eq_false_iff : variablesDiffer a b = false ↔
    a.size = b.size ∧
      ∀ name y, b.get? name = some y → ∃ x, a.get? name = some x ∧ foldCase x = foldCase y := by
  unfold variablesDiffer
  rw [Bool.or_eq_false_iff, List.any_eq_false]
  have agrees {name y : String} : (¬ (!(a.get? name).any fun s => foldCase s = foldCase y) = true) ↔
      ∃ x, a.get? name = some x ∧ foldCase x = foldCase y := by
    rw [Bool.not_eq_true, Bool.not_eq_false', Option.any_eq_true]
    simp
  refine and_congr (by simp) ⟨fun walked name y asked => ?_, fun kept e listed => ?_⟩
  · exact agrees.mp (walked (name, y) (Dict.get?_eq_some_iff.mp asked))
  · exact agrees.mpr (kept e.1 e.2 (Dict.get?_eq_some_iff.mpr listed))

/-- Names that are all among those of a dictionary of the same size are all of its names. -/
theorem mem_keys_iff_of_subset (sizes : a.size = b.size) (among : b.keys ⊆ a.keys) (name : String) :
    name ∈ a.keys ↔ name ∈ b.keys := by
  refine ⟨fun kept => ?_, fun asked => among asked⟩
  by_contra missing
  have more : (name :: b.keys).length ≤ a.keys.length :=
    (List.nodup_cons.mpr ⟨missing, b.nodup_keys⟩).length_le_of_subset
      (List.cons_subset.mpr ⟨kept, among⟩)
  rw [List.length_cons, Dict.length_keys, Dict.length_keys] at more
  omega

/-- The comparison finds no change just if there is none, though it walks one side only. -/
theorem variablesDiffer_iff : variablesDiffer a b = false ↔ SameVariables a b := by
  rw [variablesDiffer_eq_false_iff, sameVariables_iff]
  constructor
  · rintro ⟨sizes, kept⟩
    have among : b.keys ⊆ a.keys := fun name asked => by
      obtain ⟨y, asked⟩ := Option.isSome_iff_exists.mp (Dict.mem_keys_iff.mp asked)
      obtain ⟨x, found, -⟩ := kept name y asked
      exact Dict.mem_keys_iff.mpr (Option.isSome_of_mem found)
    refine Dict.ext_get? fun name => ?_
    rw [Dict.get?_map, Dict.get?_map]
    cases asked : b.get? name with
    | some y =>
      obtain ⟨x, found, alike⟩ := kept name y asked
      rw [found, Option.map_some, Option.map_some, alike]
    | none =>
      have absent : name ∉ a.keys := by
        rw [mem_keys_iff_of_subset sizes among, Dict.mem_keys_iff, asked]
        nofun
      rw [Dict.mem_keys_iff, Option.not_isSome_iff_eq_none] at absent
      rw [absent]
  · intro folded
    have names : a.keys = b.keys := by
      rw [← Dict.keys_map foldCase, folded, Dict.keys_map]
    refine ⟨by rw [← Dict.length_keys, names, Dict.length_keys], fun name y asked => ?_⟩
    have same : (a.get? name).map foldCase = some (foldCase y) := by
      rw [← Dict.get?_map, folded, Dict.get?_map, asked, Option.map_some]
    exact Option.map_eq_some_iff.mp same

theorem equivalence_variablesDiffer :
    Equivalence (fun a b : Dict String String => variablesDiffer a b = false) := by
  simp only [variablesDiffer_iff, sameVariables_iff]
  exact ⟨fun _ => rfl, Eq.symm, Eq.trans⟩

end Terraform

namespace Executor

/-! ### Variables in jobs -/

variable {a b : Dict String String}

/-- The inputs with other variables. -/
def Inputs.withEnv (i : Inputs) (env : Dict String String) : Inputs := { i with env }

theorem flatMap_variableBytes (d : Dict String String) :
    d.entries.flatMap variableBytes = (d.map Terraform.foldCase).entries.flatMap fun e =>
      Text.utf8 e.1 ++ 0 :: (Text.utf8 e.2 ++ [0]) := by
  simp only [Dict.map, List.flatMap_map]
  rfl

/-- Variables without a change between them enter the fingerprint alike. -/
theorem fingerprint_withEnv (i : Inputs) (same : Terraform.SameVariables a b) :
    (i.withEnv a).fingerprint = (i.withEnv b).fingerprint := by
  have folded := Terraform.sameVariables_iff.mp same
  unfold Inputs.fingerprint Inputs.bytes Inputs.withEnv
  dsimp only
  rw [flatMap_variableBytes a, flatMap_variableBytes b, folded]
  rfl

/-- Variables without a change between them make the same job. -/
theorem job_withEnv (settings : Settings) (t : Target) (i : Inputs) (e : Execution)
    (same : Terraform.SameVariables a b) :
    job settings t (i.withEnv a) e = job settings t (i.withEnv b) e := by
  have drawn : environment t (i.withEnv a) = environment t (i.withEnv b) := by
    unfold environment Inputs.withEnv
    dsimp only
    rw [same.names]
  have told := fingerprint_withEnv i same
  unfold job podSpec initContainers mainContainer terraformContainer
  rw [drawn, told]
  rfl

end Executor

/-! ### Passes without a change -/

open Reconcile
open Executor (Inputs)

variable {s s' : Session} {t : Target} {c : Configuration} {b : Bundle} {settings : Settings}
  {resolve : Resolver}

/-- What a pass does on its way while it leaves jobs alone. -/
abbrev SparesJobs (t : Target) : Session → Session → Prop := Changes t fun key => key.kind ≠ .job

namespace SparesJobs

theorem of_changes {touched : ObjectKey → Prop} (changes : Changes t touched s s')
    (apart : ∀ key, touched key → key.kind ≠ .job) : SparesJobs t s s' := by
  induction changes with
  | refl => exact .refl
  | step _ last ih =>
    refine .step ih ?_
    cases last with
    | write here named => exact .write (apart _ here) named
    | delete here stale => exact .delete (apart _ here) stale
    | note note => exact .note note
    | handOver here => exact absurd rfl (apart _ here)

theorem hold (s : Session) (t : Target) (c : Configuration) : SparesJobs t s (s.hold t c) := by
  unfold Session.hold
  split
  · exact .refl
  · exact .single (.note note_withOwnFinalizer)

theorem keep (s : Session) (t : Target) (b : Bundle) : SparesJobs t s (s.keep t b) :=
  .single (.write nofun (key?_bundleMap t b))

theorem provideRole (s : Session) (t : Target) : SparesJobs t s (s.provideRole t) := by
  unfold Session.provideRole Session.provide
  split
  · exact .single (.write nofun (key?_role t))
  · exact .refl

theorem recordProgress (keyed : s.store.WellKeyed) (r : Executor.Report) :
    SparesJobs t s ((Reconcile.recordProgress t c r).on s).2 :=
  of_changes (within_recordProgress (t := t) (c := c) r s keyed) fun _ published job =>
    nomatch published.kind.symm.trans job

theorem triggered (spares : SparesJobs t s s') : s'.triggered = s.triggered :=
  Changes.triggered spares fun _ here => here rfl

theorem get?_jobKey (spares : SparesJobs t s s') (e : Execution) :
    s'.store.get? (t.jobKey e) = s.store.get? (t.jobKey e) :=
  Changes.get? spares nofun fun here => here rfl

/-- A pass that applies leaves jobs alone, but for getting ready to run the source that it keeps if
it gets so far. -/
theorem apply_cases (settings : Settings) (resolve : Resolver) (keyed : s.store.WellKeyed)
    (placed : (Resource.wrap c).key? = some t.key) :
    SparesJobs t s ((Reconcile.apply settings resolve t c).on s).2 ∨
    ∃ b env, bundle t c = .ok b ∧ ((s.hold t c).keep t b).store.desired resolve c = .ok env ∧
      SparesJobs t (((s.hold t c).keep t b).ready settings t b env)
        ((Reconcile.apply settings resolve t c).on s).2 := by
  have held := hold s t c
  have noted {s' : Session} (spares : SparesJobs t s s') (state : Configuration.State)
      (listed : state ∈ Configuration.State.ofApplying) (message : String) :
      SparesJobs t s (s'.edit t.key (withApplyStatus state message ∅)) :=
    .step spares (.note (note_withApplyStatus listed message ∅))
  rw [on_apply keyed placed]
  cases bundled : bundle t c with
  | error e =>
    cases e with
    | invalid fault => exact .inl (noted held _ (by decide) _)
    | _ => exact .inl held
  | ok b =>
    have kept := held.trans (keep _ t b)
    have keyed' := Session.wellKeyed_keep (Session.wellKeyed_hold keyed t c) t b
    simp only
    split
    · exact .inl (noted kept _ (by decide) _)
    rw [on_run keyed']
    cases resolved : resolveCredentials resolve c ((s.hold t c).keep t b).store with
    | error e => exact .inl (noted kept _ (by decide) _)
    | ok credentials =>
      cases settled : environment c credentials with
      | error e => exact .inl (by simpa only [settled] using kept)
      | ok env =>
        simp only [settled]
        refine .inr ⟨b, env, rfl, ?_, recordProgress (Session.wellKeyed_ready keyed' _ t b env) _⟩
        rw [Store.desired_of_ok resolved, settled]

/-- A pass that applies leaves jobs alone if all is aligned with whatever it asks for. -/
theorem apply (keyed : s.store.WellKeyed) (placed : (Resource.wrap c).key? = some t.key)
    (aligned : ∀ b env, bundle t c = .ok b →
      ((s.hold t c).keep t b).store.desired resolve c = .ok env →
      Aligned t b env .apply s.store) :
    SparesJobs t s ((Reconcile.apply settings resolve t c).on s).2 := by
  rcases apply_cases settings resolve keyed placed with spares | ⟨b, env, bundled, asked, ready⟩
  · exact spares
  · have alignedHeld : Aligned t b env .apply (s.hold t c).store :=
      (aligned b env bundled asked).hold
    rw [Session.ready_of_aligned settings alignedHeld.keep] at ready
    exact (((hold s t c).trans (keep _ t b)).trans (provideRole _ t)).trans ready

/-- So does destroying, if all is aligned with whatever it asks for. -/
theorem destroyResources (keyed : s.store.WellKeyed)
    (aligned : ∀ b env, bundle t c = .ok b → (s.keep t b).store.desired resolve c = .ok env →
      Aligned t b env .destroy s.store) :
    SparesJobs t s ((Reconcile.destroyResources settings resolve t c).on s).2 := by
  rcases prepare_cases resolve keyed (t := t) (c := c) with
    ⟨e, ran⟩ | ⟨b, bundled, ⟨e, ran⟩ | ⟨env, asked, ran⟩⟩
  · rw [destroyResources_of_error settings keyed ran]
    exact .single (.note (note_withDestroyStatus _ _))
  · rw [destroyResources_of_error settings keyed ran]
    exact .step (keep s t b) (.note (note_withDestroyStatus _ _))
  · have aligned := aligned b env bundled asked
    have notes := destroyResources_notes settings keyed ran
    rw [aligned.source, aligned.keep.values, Bool.or_false,
      Session.converge_of_aligned settings aligned.keep.settleVariables.provideRole,
      Session.settleVariables_of_aligned aligned.keep] at notes
    exact ((keep s t b).trans (provideRole _ t)).trans (of_changes notes fun _ published job =>
      nomatch published.kind.symm.trans job)

end SparesJobs

/-- The job that passes over a configuration bring in line. -/
def Lifecycle.execution : Lifecycle → Execution
  | .active => .apply
  | .terminating => .destroy

/-- A pass that finds all aligned with whatever it asks for hands nothing over, and unless it lets
the configuration go it leaves all jobs as they were. -/
theorem triggered_pass_of_aligned {request : Request} (keyed : s.store.WellKeyed)
    (held : s.store.read Configuration (request.key .configuration) = some c)
    (target : Target.of settings c = t)
    (aligned : ∀ b env, bundle t c = .ok b →
      ((s.hold t c).keep t b).store.desired resolve c = .ok env →
      Aligned t b env c.metadata.lifecycle.execution s.store) :
    ((configurationPass settings resolve request).on s).2.triggered = s.triggered ∧
    (c.metadata.lifecycle = .active → ∀ e,
      ((configurationPass settings resolve request).on s).2.store.get? (t.jobKey e) =
        s.store.get? (t.jobKey e)) := by
  have placed : (Resource.wrap c).key? = some t.key := by
    rw [← target, Target.key_of (keyed.placed held), keyed.placed held]
  cases lifecycle : c.metadata.lifecycle with
  | active =>
    rw [lifecycle] at aligned
    have spares : SparesJobs t s ((apply settings resolve t c).on s).2 :=
      .apply keyed placed aligned
    rw [on_activePass keyed held lifecycle, target]
    exact ⟨spares.triggered, fun _ => spares.get?_jobKey⟩
  | terminating =>
    rw [lifecycle] at aligned
    rw [on_terminatingPass keyed held lifecycle, target]
    refine ⟨?_, nofun⟩
    dsimp only
    rw [on_destroy keyed]
    split
    · rfl
    rename_i own
    rw [Session.hold_of_own (by simpa using own)] at aligned
    have spares : SparesJobs t s ((destroyResources settings resolve t c).on s).2 :=
      .destroyResources keyed aligned
    split
    · split
      · rename_i ran
        rw [ran] at spares
        exact spares.triggered
      · rename_i ran
        rw [ran] at spares
        exact Session.triggered_letGo.trans spares.triggered
    · exact Session.triggered_letGo

/-- What the two ways of looking for changes of variables have to do with each other. The comparison
finds no change just if names are the same and values are the same up to the case of ASCII letters,
and so it is an equivalence, though it walks one side only. Variables without a change between them
have the same fingerprint and make the same job. So where a pass finds its source as it is kept, and
no change between the variables of the secret and those it asks for, it hands over no job if the one
that is there was made from that source and the variables of the secret, and while the configuration
is active it leaves that job as it is. -/
theorem change_detectors_agree (settings : Settings) (resolve : Resolver) (s : Session)
    (request : Request) (c : Configuration) (b : Bundle) (secret : Secret) :
    let t := Target.of settings c
    let pass := (configurationPass settings resolve request).on s
    (∀ a a', Terraform.variablesDiffer a a' = false ↔ Terraform.SameVariables a a') ∧
    Equivalence (fun a a' => Terraform.variablesDiffer a a' = false) ∧
    (∀ a a', Terraform.variablesDiffer a a' = false → ∀ i : Inputs,
      (i.withEnv a).fingerprint = (i.withEnv a').fingerprint ∧
      ∀ e, Executor.job settings t (i.withEnv a) e = Executor.job settings t (i.withEnv a') e) ∧
    (s.store.WellKeyed →
      s.store.get? (request.key .configuration) = some (.configuration c) →
      bundle t c = .ok b →
      s.store.bundleDiffers t b = false →
      s.store.get? t.variableSecretKey = some (.secret secret) →
      (∀ env, ((s.hold t c).keep t b).store.desired resolve c = .ok env →
        Terraform.variablesDiffer secret.texts env = false) →
      s.store.fingerprint? (t.jobKey c.metadata.lifecycle.execution) =
        some (Inputs.of t b.text secret.texts).fingerprint →
      pass.2.triggered = s.triggered ∧
      (c.metadata.lifecycle = .active → ∀ e,
        pass.2.store.get? (t.jobKey e) = s.store.get? (t.jobKey e))) := by
  intro t pass
  refine ⟨fun a a' => Terraform.variablesDiffer_iff, Terraform.equivalence_variablesDiffer, ?_, ?_⟩
  · intro a a' unchanged i
    have same := Terraform.variablesDiffer_iff.mp unchanged
    exact ⟨Executor.fingerprint_withEnv i same, fun e => Executor.job_withEnv settings t i e same⟩
  · intro keyed held bundled source kept unchanged made
    have found : s.store.read Secret t.variableSecretKey = some secret :=
      Store.read_eq_some_iff.mpr kept
    refine triggered_pass_of_aligned keyed (Store.read_eq_some_iff.mpr held) rfl
      fun b' env bundled' asked => ?_
    cases bundled.symm.trans bundled'
    have same := unchanged env asked
    refine ⟨source, by rw [found]; rfl, ?_, made.trans (congrArg some ?_)⟩
    · unfold Store.variablesDiffer
      rw [found]
      exact same
    · exact Executor.fingerprint_withEnv (.of t b.text env) (Terraform.variablesDiffer_iff.mp same)

namespace Sample

/-- The configuration, asking for a variable. -/
def varied : Configuration :=
  { configuration with
    spec := { configuration.spec with values := some (.obj [("region", .str "eu")]) } }

/-- What it asks for. -/
def region : Dict String String := .singleton "TF_VAR_region" "eu"

/-- The same in capitals. -/
def capitals : Dict String String := .singleton "TF_VAR_region" "EU"

/-- The secret and the job were made when it asked for that in capitals. -/
def inRegion : Session where
  store :=
    { items := .ofList
        [(Sample.request.key .configuration, .configuration varied),
         (providerRequest.key .provider, .provider standing),
         (webTarget.variableSecretKey, .secret (variableSecret webTarget capitals)),
         (webTarget.jobKey .apply,
          .job (Executor.job {} webTarget (.of webTarget webBundle.text capitals) .apply))] }
  now := ⟨0, 0⟩

theorem wellKeyed_inRegion : inRegion.store.WellKeyed := by
  refine Store.wellKeyed_ofList fun e listed => ?_
  simp only [List.mem_cons, List.not_mem_nil, or_false] at listed
  rcases listed with rfl | rfl | rfl | rfl <;> rfl

end Sample

/-- A job that was made in capitals is left alone. -/
theorem change_detectors_agree_capitals :
    Sample.capitals ≠ Sample.region ∧
    Terraform.SameVariables Sample.capitals Sample.region ∧
    Executor.job {} Sample.webTarget (.of Sample.webTarget Sample.webBundle.text Sample.capitals)
        .apply =
      Executor.job {} Sample.webTarget (.of Sample.webTarget Sample.webBundle.text Sample.region)
        .apply ∧
    Sample.inRegion.store.WellKeyed ∧
    bundle Sample.webTarget Sample.varied = .ok Sample.webBundle ∧
    (Sample.inRegion.keep Sample.webTarget Sample.webBundle).store.desired Sample.anonymous
      Sample.varied = .ok Sample.region ∧
    ((configurationPass {} Sample.anonymous Sample.request).on Sample.inRegion).2.triggered = [] ∧
    ((configurationPass {} Sample.anonymous Sample.request).on Sample.inRegion).2.store.get?
      (Sample.webTarget.jobKey .apply) = some (.job (Executor.job {} Sample.webTarget
        (.of Sample.webTarget Sample.webBundle.text Sample.capitals) .apply)) := by
  have keyed : Sample.inRegion.store.WellKeyed := Sample.wellKeyed_inRegion
  have bundled : bundle Sample.webTarget Sample.varied = .ok Sample.webBundle := rfl
  have asked : (Sample.inRegion.keep Sample.webTarget Sample.webBundle).store.desired
      Sample.anonymous Sample.varied = .ok Sample.region := rfl
  obtain ⟨agrees, -, alike, passes⟩ := change_detectors_agree {} Sample.anonymous Sample.inRegion
    Sample.request Sample.varied Sample.webBundle
    (variableSecret Sample.webTarget Sample.capitals)
  have unchanged : Terraform.variablesDiffer Sample.capitals Sample.region = false := by decide
  obtain ⟨-, same⟩ := alike _ _ unchanged (.of Sample.webTarget Sample.webBundle.text ∅)
  obtain ⟨triggered, stays⟩ := passes keyed rfl bundled rfl rfl
    (fun env desired => by cases asked.symm.trans desired; exact unchanged)
    (fingerprint?_job {} Sample.webTarget _ .apply)
  exact ⟨by decide, (agrees _ _).mp unchanged, same .apply, keyed, bundled, asked, triggered,
    (stays rfl .apply).trans rfl⟩

end Provisioner
