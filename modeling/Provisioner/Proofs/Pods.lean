import Mathlib.Data.List.Nodup
import Provisioner.Executor.Job

/-!
What the pod of a job is like. Its volumes need names of their own, and so do its containers; what a
container mounts has to be one of the volumes, each at another place; and a container names a
variable once. Two of the three volumes have fixed names and the third, the working directory, is
named for the configuration. So all of this holds for every configuration but those two whose names
are the fixed ones, and for them only the volumes are at fault.
-/

namespace Provisioner

open Executor (Inputs)

variable {settings : Settings} {t : Target} {i : Inputs} {e : Execution} {c : Container}

/-! ### Well-formed pods -/

namespace Container

def mounts (c : Container) : List VolumeMount := c.volumeMounts.getD []

def environment (c : Container) : List EnvVar := c.env.getD []

end Container

namespace PodSpec

variable {p : PodSpec} {path : String} {v w : Volume}

/-- The containers that run first, and those that run then. -/
def allContainers (p : PodSpec) : List Container := p.initContainers.getD [] ++ p.containers

def declared (p : PodSpec) : List Volume := p.volumes.getD []

/-- A pod that is well-formed, but for the names of its volumes. -/
structure WellFormed (p : PodSpec) : Prop where
  containers : (p.allContainers.map (·.name)).Nodup
  mounts : ∀ c ∈ p.allContainers, ∀ m ∈ c.mounts, m.name ∈ p.declared.map (·.name)
  places : ∀ c ∈ p.allContainers, (c.mounts.map (·.mountPath)).Nodup
  environment : ∀ c ∈ p.allContainers, (c.environment.map (·.name)).Nodup

/-- Every variable of a pod is read from an entry of a secret. -/
def DrawsFrom (p : PodSpec) (secret : String) (entries : Dict String String) : Prop :=
  ∀ c ∈ p.allContainers, ∀ v ∈ c.environment,
    ∃ key ∈ entries.keys, v = { name := v.name, valueFrom := some (some ⟨secret, key⟩) }

/-- Some container mounts a volume of that name at a path. -/
def MountsAt (p : PodSpec) (path : String) (v : Volume) : Prop :=
  v ∈ p.declared ∧ ∃ c ∈ p.allContainers, ⟨v.name, path⟩ ∈ c.mounts

/-- A volume is told by its name where the names are different. -/
theorem eq_iff_of_name (distinct : (p.declared.map (·.name)).Nodup) (declared : w ∈ p.declared) :
    v ∈ p.declared ∧ v.name = w.name ↔ v = w := by
  constructor
  · rintro ⟨listed, same⟩
    exact List.inj_on_of_nodup_map distinct listed declared same
  · rintro rfl
    exact ⟨declared, rfl⟩

end PodSpec

/-- The pod that a job runs. -/
def Job.pod? (j : Job) : Option PodSpec := j.spec.bind (·.template.spec)

/-! ### The pod of a job -/

namespace Executor

/-- The containers of the pod: one that copies the source, one that clones a repository if there is
one, and two that run Terraform. -/
theorem mem_allContainers_iff :
    c ∈ (podSpec settings t i e).allContainers ↔
      c = prepareContainer settings t ∨
      (∃ remote, i.remote = some remote ∧ c = cloneContainer settings t remote i.path) ∨
      c = terraformContainer settings t i "terraform-init" "sh" "terraform init" ∨
      c = mainContainer settings t i e := by
  unfold PodSpec.allContainers podSpec initContainers
  cases i.remote with
  | none => simp
  | some remote => simp

theorem nodup_names (settings : Settings) (t : Target) (i : Inputs) (e : Execution) :
    ((podSpec settings t i e).allContainers.map (·.name)).Nodup := by
  unfold PodSpec.allContainers podSpec initContainers
  cases i.remote with
  | none =>
    exact (by decide : ["prepare-input-terraform-configurations", "terraform-init",
      "terraform-executor"].Nodup)
  | some remote =>
    exact (by decide : ["prepare-input-terraform-configurations", "git-configuration",
      "terraform-init", "terraform-executor"].Nodup)

/-- What is mounted where in the pod. -/
theorem mounts_iff {m : VolumeMount} :
    (∃ c ∈ (podSpec settings t i e).allContainers, m ∈ c.mounts) ↔
      m = ⟨t.name, workingDirectory⟩ ∨ m = ⟨inputVolume, inputDirectory⟩ ∨
      i.remote.isSome ∧ m = ⟨backendVolume, backendDirectory⟩ := by
  constructor
  · rintro ⟨c, listed, mounted⟩
    rcases mem_allContainers_iff.mp listed with rfl | ⟨remote, given, rfl⟩ | rfl | rfl
    all_goals
      simp only [Container.mounts, prepareContainer, cloneContainer, terraformContainer,
        mainContainer, container, Option.getD_some, List.mem_cons, List.not_mem_nil,
        or_false] at mounted
    · exact mounted.imp_right .inl
    · rw [given]
      exact mounted.imp_right fun here => .inr ⟨rfl, here⟩
    · exact .inl mounted
    · exact .inl mounted
  · rintro (rfl | rfl | ⟨cloned, rfl⟩)
    · exact ⟨_, mem_allContainers_iff.mpr (.inl rfl), List.mem_cons_self⟩
    · exact ⟨_, mem_allContainers_iff.mpr (.inl rfl), List.mem_cons_of_mem _ List.mem_cons_self⟩
    · obtain ⟨remote, given⟩ := Option.isSome_iff_exists.mp cloned
      exact ⟨_, mem_allContainers_iff.mpr (.inr (.inl ⟨remote, given, rfl⟩)),
        List.mem_cons_of_mem _ List.mem_cons_self⟩

theorem names_declared (settings : Settings) (t : Target) (i : Inputs) (e : Execution) :
    (podSpec settings t i e).declared.map (·.name) = [t.name, inputVolume, backendVolume] := rfl

theorem wellFormed_podSpec (settings : Settings) (t : Target) (i : Inputs) (e : Execution) :
    (podSpec settings t i e).WellFormed where
  containers := nodup_names settings t i e
  mounts c listed m mounted := by
    rw [names_declared]
    rcases mounts_iff.mp ⟨c, listed, mounted⟩ with rfl | rfl | ⟨-, rfl⟩ <;> simp
  places c listed := by
    rcases mem_allContainers_iff.mp listed with rfl | ⟨remote, -, rfl⟩ | rfl | rfl
    · exact (by decide : [workingDirectory, inputDirectory].Nodup)
    · exact (by decide : [workingDirectory, backendDirectory].Nodup)
    · exact (by decide : [workingDirectory].Nodup)
    · exact (by decide : [workingDirectory].Nodup)
  environment c listed := by
    have all : ((environment t i).map (·.name)).Nodup := by
      have names : (environment t i).map (·.name) = i.env.keys := by
        simp [environment, Function.comp_def]
      rw [names]
      exact i.env.nodup_keys
    rcases mem_allContainers_iff.mp listed with rfl | ⟨remote, -, rfl⟩ | rfl | rfl
    · exact .nil
    · exact .nil
    · exact all
    · exact all

theorem drawsFrom_podSpec (settings : Settings) (t : Target) (i : Inputs) (e : Execution) :
    (podSpec settings t i e).DrawsFrom t.variableSecret i.env := by
  intro c listed v named
  have drawn : v ∈ environment t i := by
    rcases mem_allContainers_iff.mp listed with rfl | ⟨remote, -, rfl⟩ | rfl | rfl
    · cases named
    · cases named
    · exact named
    · exact named
  obtain ⟨key, entry, rfl⟩ := List.mem_map.mp drawn
  exact ⟨key, entry, rfl⟩

/-- What is mounted in a pod: the source that is rendered, and two directories that are empty at
first, one to work in and one for a repository if there is one. -/
structure Arranged (t : Target) (i : Inputs) (p : PodSpec) : Prop where
  source : ∃ v : Volume, v.configMap = some t.inputBundle ∧ v.emptyDir = false ∧
    ∀ w, p.MountsAt inputDirectory w ↔ w = v
  empty : ∃ v v' : Volume, v ≠ v' ∧ v.emptyDir = true ∧ v.configMap = none ∧
    v'.emptyDir = true ∧ v'.configMap = none ∧
    (∀ w, p.MountsAt workingDirectory w ↔ w = v) ∧
    ∀ w, p.MountsAt backendDirectory w ↔ i.remote.isSome ∧ w = v'

section

variable {v : Volume}

theorem mountsAt_iff {path : String} :
    (podSpec settings t i e).MountsAt path v ↔ v ∈ (podSpec settings t i e).declared ∧
      (v.name = t.name ∧ path = workingDirectory ∨
        v.name = inputVolume ∧ path = inputDirectory ∨
        i.remote.isSome ∧ v.name = backendVolume ∧ path = backendDirectory) := by
  unfold PodSpec.MountsAt
  rw [mounts_iff]
  simp only [VolumeMount.mk.injEq]

theorem mountsAt_workingDirectory :
    (podSpec settings t i e).MountsAt workingDirectory v ↔
      v ∈ (podSpec settings t i e).declared ∧ v.name = t.name := by
  have input : workingDirectory ≠ inputDirectory := by decide
  have backend : workingDirectory ≠ backendDirectory := by decide
  rw [mountsAt_iff]
  simp [input, backend]

theorem mountsAt_inputDirectory :
    (podSpec settings t i e).MountsAt inputDirectory v ↔
      v ∈ (podSpec settings t i e).declared ∧ v.name = inputVolume := by
  have working : inputDirectory ≠ workingDirectory := by decide
  have backend : inputDirectory ≠ backendDirectory := by decide
  rw [mountsAt_iff]
  simp [working, backend]

theorem mountsAt_backendDirectory :
    (podSpec settings t i e).MountsAt backendDirectory v ↔
      i.remote.isSome ∧ v ∈ (podSpec settings t i e).declared ∧ v.name = backendVolume := by
  have working : backendDirectory ≠ workingDirectory := by decide
  have input : backendDirectory ≠ inputDirectory := by decide
  rw [mountsAt_iff]
  simp [working, input, and_left_comm]

end

theorem nodup_declared_iff (settings : Settings) (t : Target) (i : Inputs) (e : Execution) :
    ((podSpec settings t i e).declared.map (·.name)).Nodup ↔
      t.name ≠ inputVolume ∧ t.name ≠ backendVolume := by
  have fixed : inputVolume ≠ backendVolume := by decide
  rw [names_declared]
  simp [fixed]

/-- Where the names of the volumes are different, each path leads to the one that it is meant to
lead to. -/
theorem arranged_podSpec (distinct : ((podSpec settings t i e).declared.map (·.name)).Nodup) :
    Arranged t i (podSpec settings t i e) := by
  obtain ⟨-, other⟩ := (nodup_declared_iff settings t i e).mp distinct
  let working : Volume := { name := t.name, emptyDir := true }
  let input : Volume := { name := inputVolume, configMap := some t.inputBundle }
  let backend : Volume := { name := backendVolume, emptyDir := true }
  have told (v w : Volume) (listed : w ∈ [working, input, backend]) :=
    PodSpec.eq_iff_of_name (v := v) distinct listed
  refine ⟨⟨input, rfl, rfl, fun w => mountsAt_inputDirectory.trans (told w input (by simp))⟩,
    ⟨working, backend, fun same => other (congrArg Volume.name same), rfl, rfl, rfl, rfl,
      fun w => mountsAt_workingDirectory.trans (told w working (by simp)),
      fun w => mountsAt_backendDirectory.trans (and_congr_right fun _ => told w backend (by simp))⟩⟩

/-- The pod of a job is well-formed for every configuration, and all its variables are read from the
variable secret. Its volumes have different names unless the configuration is named as one of the
two others is; where they have, the source is mounted at its path, and the working directory and the
directory of the repository are two empty ones. -/
theorem pod_of_job (settings : Settings) (c : Configuration) (text : String)
    (env : Dict String String) (e : Execution) :
    let t := Target.of settings c
    let i := Inputs.of t text env
    ∃ p, (job settings t i e).pod? = some p ∧ p.WellFormed ∧
      p.DrawsFrom t.variableSecret env ∧
      ((p.declared.map (·.name)).Nodup ↔
        c.metadata.anyName ≠ inputVolume ∧ c.metadata.anyName ≠ backendVolume) ∧
      (c.metadata.anyName ≠ inputVolume → c.metadata.anyName ≠ backendVolume →
        Arranged t i p) := by
  intro t i
  have named := nodup_declared_iff settings t i e
  exact ⟨podSpec settings t i e, rfl, wellFormed_podSpec settings t i e,
    drawsFrom_podSpec settings t i e, named,
    fun input backend => arranged_podSpec (named.mpr ⟨input, backend⟩)⟩

end Executor

namespace Sample

/-- A configuration whose source is in a repository. -/
def fromRepository (name : String) : Configuration where
  metadata := { name := some name, ns := some "prod" }
  spec := { remote := some "https://example.com/source.git" }

/-- The pod that applies it. -/
def podOf? (name : String) : Option PodSpec :=
  (Executor.job {} (.of {} (fromRepository name))
    (.of (.of {} (fromRepository name)) "" ∅) .apply).pod?

end Sample

/-- The repository is cloned into an empty directory that is not the working directory. -/
theorem Executor.pod_of_job_cloned :
    ∃ p v, Sample.podOf? "web" = some p ∧ (p.declared.map (·.name)).Nodup ∧
      p.MountsAt Executor.backendDirectory v ∧ v.emptyDir = true ∧
      ¬ p.MountsAt Executor.workingDirectory v := by
  obtain ⟨p, runs, -, -, distinct, arranged⟩ :=
    Executor.pod_of_job {} (Sample.fromRepository "web") "" ∅ .apply
  have input : (Sample.fromRepository "web").metadata.anyName ≠ Executor.inputVolume := by decide
  have backend : (Sample.fromRepository "web").metadata.anyName ≠ Executor.backendVolume := by
    decide
  obtain ⟨v, v', apart, -, -, empty, -, working, cloned⟩ := (arranged input backend).empty
  exact ⟨p, v', runs, distinct.mpr ⟨input, backend⟩, (cloned v').mpr ⟨by decide, rfl⟩, empty,
    fun mounted => apart ((working v').mp mounted).symm⟩

/-- For a configuration that is named as the volume for repositories is, two volumes have one name,
which is mounted at both paths; for one that is named as the volume of the source is, one path leads
to two volumes. -/
theorem Executor.pod_volumes_clash :
    (∃ p, Sample.podOf? "tf-backend" = some p ∧ ¬ (p.declared.map (·.name)).Nodup ∧
      ∀ v, p.MountsAt Executor.backendDirectory v ↔ p.MountsAt Executor.workingDirectory v) ∧
    ∃ p v w, Sample.podOf? "tf-input-configuration" = some p ∧
      ¬ (p.declared.map (·.name)).Nodup ∧ v ≠ w ∧
      p.MountsAt Executor.inputDirectory v ∧ p.MountsAt Executor.inputDirectory w := by
  refine ⟨⟨_, rfl, by decide, fun v => ?_⟩,
    ⟨_, { name := "tf-input-configuration", emptyDir := true },
      { name := "tf-input-configuration", configMap := some "tf-tf-input-configuration" }, rfl,
      by decide, by decide, ?_, ?_⟩⟩
  · rw [Executor.mountsAt_backendDirectory, Executor.mountsAt_workingDirectory]
    exact and_iff_right rfl
  · exact Executor.mountsAt_inputDirectory.mpr ⟨by decide, rfl⟩
  · exact Executor.mountsAt_inputDirectory.mpr ⟨by decide, rfl⟩

end Provisioner
