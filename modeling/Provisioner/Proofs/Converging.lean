import Provisioner.Proofs.Alignment
import Provisioner.Proofs.Pods

/-!
What convergence leaves, whatever was there. The job and the variable secret may have been left by
another version of the configuration, or may be held by finalizers, so that deleting them only marks
them. A secret that is written over reads as what was written. A job is written over only after it
was deleted, so what is there then is held by finalizers; the job has none and replaces it whole.
-/

namespace Provisioner

open Reconcile
open Executor (Inputs)

variable {s : Session} {t : Target} {settings : Settings}

namespace Executor

/-- The variables of a container, each read from an entry of a secret. -/
def drawnFrom (name : String) (entries : Dict String String) : List EnvVar :=
  entries.keys.map fun key => { name := key, valueFrom := some (some ⟨name, key⟩) }

/-- A pod that runs Terraform on the entries of a secret: it has the two containers that do, and the
variables of both are those entries; no other container has any. -/
structure RunsOn (p : PodSpec) (name : String) (entries : Dict String String) : Prop where
  first : ∃ c ∈ p.initContainers.getD [], c.name = "terraform-init"
  main : ∃ c ∈ p.containers, c.name = "terraform-executor"
  env : ∀ c ∈ p.initContainers.getD [] ++ p.containers,
    c.env = if c.name = "terraform-init" ∨ c.name = "terraform-executor" then
      some (drawnFrom name entries) else none

theorem runsOn_podSpec (settings : Settings) (t : Target) (i : Inputs) (e : Execution) :
    RunsOn (podSpec settings t i e) t.variableSecret i.env where
  first := ⟨terraformContainer settings t i "terraform-init" "sh" "terraform init",
    by simp [podSpec, initContainers], rfl⟩
  main := ⟨mainContainer settings t i e, by simp [podSpec], rfl⟩
  env c listed := by
    rcases mem_allContainers_iff.mp listed with rfl | ⟨remote, -, rfl⟩ | rfl | rfl <;>
      simp [prepareContainer, cloneContainer, terraformContainer, mainContainer, container,
        environment, drawnFrom]

end Executor

/-! ### What is written -/

namespace Session

/-- Nothing is left under a key after a deletion but what finalizers hold. -/
theorem held_of_delete {key : ObjectKey} {o : Object}
    (left : (s.delete key).2.store.get? key = some o) : o.hasFinalizers = true := by
  cases there : s.store.get? key with
  | none =>
    rw [get?_delete_of_free fun p held => absurd (there.symm.trans held) nofun] at left
    cases left
  | some p =>
    cases holds : p.hasFinalizers with
    | true =>
      rw [get?_delete_held there holds] at left
      cases left
      rw [hasFinalizers_marked, holds]
    | false =>
      rw [get?_delete_free there holds] at left
      cases left

/-- Where finalizers hold whatever is there, a job that is written is there as it is, generation and
times apart. -/
theorem read_write_job_of_held {key : ObjectKey} (j : Job)
    (free : j.metadata.hasFinalizers = false)
    (held : ∀ o, s.store.get? key = some o → o.hasFinalizers = true) :
    ∃ j', (s.write key (Resource.wrap j)).store.read Job key = some j' ∧
      j'.spec = j.spec ∧ j'.status = j.status ∧ j'.metadata.labels = j.metadata.labels ∧
      j'.metadata.annotations = j.metadata.annotations := by
  obtain ⟨g, c, d, stored⟩ := Object.stored_of_held s.now (o := Resource.wrap j) free held
  have there := get?_write_self s key (Resource.wrap j)
  rw [stored] at there
  exact ⟨_, Store.read_eq_some_iff.mpr there, rfl, rfl, rfl, rfl⟩

end Session

/-! ### What is made -/

/-- What starting a job leaves: the job as it is to be, a secret that reads as its variables and that
the job runs on, and everything else that it needs. -/
structure Started (settings : Settings) (t : Target) (i : Inputs) (e : Execution) (s : Store)
    (j : Job) (secret : Secret) : Prop where
  found : s.read Job (t.jobKey e) = some j
  spec : j.spec = (Executor.job settings t i e).spec
  status : j.status = none
  labels : j.metadata.labels = (Executor.job settings t i e).metadata.labels
  annotations : j.metadata.annotations = (Executor.job settings t i e).metadata.annotations
  kept : s.read Secret t.variableSecretKey = some secret
  texts : secret.texts = i.env
  pod : ∃ p, j.spec.bind (·.template.spec) = some p ∧
    Executor.RunsOn p t.variableSecret secret.texts
  account : (s.get? t.accountKey).isSome
  binding : (s.get? t.bindingKey).isSome

namespace Session

/-- A job that is started where there is none, or one that finalizers hold, is as it is to be. -/
theorem started_start (settings : Settings) (t : Target) (i : Inputs) (e : Execution)
    (held : ∀ o, s.store.get? (t.jobKey e) = some o → o.hasFinalizers = true) :
    ∃ j secret, Started settings t i e (s.start settings t i e).store j secret := by
  have written : ∃ j, (s.start settings t i e).store.read Job (t.jobKey e) = some j ∧ _ :=
    read_write_job_of_held (Executor.job settings t i e) rfl fun o left => held o <| by
      rwa [get?_provide_of_ne _ _ (by nofun), get?_provide_of_ne _ _ (by nofun),
        get?_write_of_ne _ _ (by nofun)] at left
  obtain ⟨j, found, spec, status, labels, annotations⟩ := written
  obtain ⟨secret, kept, empty, stringData⟩ := read_write_secret (s := s)
    (variableSecret t i.env) (rfl : t.variableSecretKey.kind = .secret) rfl
  have texts : secret.texts = i.env := Secret.texts_of_stringData empty stringData
  refine ⟨j, secret, {
    found, spec, status, labels, annotations, texts
    kept := (Store.read_congr (get?_start settings i ⟨by nofun, by nofun, by nofun⟩)).trans kept
    pod := ⟨_, by rw [spec]; rfl, texts ▸ Executor.runsOn_podSpec settings t i e⟩
    account := isSome_get?_write _ ?_
    binding := isSome_get?_write _ (isSome_get?_provide _ _ _) }⟩
  rw [get?_provide_of_isSome _ (isSome_get?_provide _ _ _)]
  exact isSome_get?_provide _ _ _

/-- Convergence that does anything starts the job where there is none, or one that finalizers
hold. -/
theorem started_converge (kinded : s.store.Kinded) (settings : Settings) (t : Target) (i : Inputs)
    (changed : Bool) (e : Execution) (planned : s.plan settings t i changed e ≠ .unchanged) :
    ∃ j secret, Started settings t i e (s.converge settings t i changed e).store j secret := by
  unfold converge
  cases plan : s.plan settings t i changed e with
  | unchanged => exact absurd plan planned
  | recreate =>
    refine started_start settings t i e fun o left => ?_
    rw [get?_delete_of_ne _ (by nofun)] at left
    exact held_of_delete left
  | trigger =>
    refine started_start settings t i e fun o held => ?_
    obtain ⟨j, found, -⟩ := kinded.read_of_get? (τ := Job) rfl held
    unfold Session.plan Executor.plan at plan
    rw [found] at plan
    dsimp only at plan
    split at plan <;> cases plan

theorem kinded_converge (kinded : s.store.Kinded) (settings : Settings) (t : Target) (i : Inputs)
    (changed : Bool) (e : Execution) : (s.converge settings t i changed e).store.Kinded := by
  have started (s : Session) (kinded : s.store.Kinded) : (s.start settings t i e).store.Kinded :=
    kinded_write (kinded_provide (kinded_provide (kinded_write kinded rfl) rfl) rfl) rfl
  unfold converge
  split
  · exact kinded
  · exact started _ (kinded_delete (kinded_delete kinded _) _)
  · exact started s kinded

end Session

namespace Reconcile

/-- Convergence converges, whatever was there. It succeeds, and unless it leaves the job alone, the
job is then as it is to be, with no status, the variable secret reads as the variables, and whatever
the job needs is there. In any case the job tells the inputs, so converging again does nothing. -/
theorem convergeJob_converges (kinded : s.store.Kinded) (settings : Settings) (t : Target)
    (i : Inputs) (changed : Bool) (e : Execution) :
    ∃ s', (convergeJob settings t i changed e).on s = (.ok (), s') ∧
      (Executor.plan changed (s.store.read Job (t.jobKey e)) (Executor.job settings t i e) ≠
          .unchanged →
        ∃ j secret, Started settings t i e s'.store j secret) ∧
      (∃ j, s'.store.read Job (t.jobKey e) = some j ∧
        Executor.fingerprint? j = some i.fingerprint) ∧
      (convergeJob settings t i false e).on s' = (.ok (), s') := by
  have made : ∃ j, (s.converge settings t i changed e).store.read Job (t.jobKey e) = some j ∧
      Executor.fingerprint? j = some i.fingerprint := by
    rcases s.converge_cases settings t i changed e with ⟨planned, stays⟩ | ⟨j, found, -, tells⟩
    · rw [stays]
      exact ((Session.plan_unchanged_iff settings t i changed e).mp planned).2
    · exact ⟨j, found, tells⟩
  refine ⟨_, on_convergeJob kinded i changed e, Session.started_converge kinded settings t i changed e,
    made, ?_⟩
  have planned := (Session.plan_unchanged_iff settings t i false e).mpr ⟨rfl, made⟩
  rw [on_convergeJob (Session.kinded_converge kinded settings t i changed e)]
  unfold Session.converge at planned ⊢
  rw [planned]

end Reconcile

namespace Sample

def leftTarget : Target where
  name := "web"
  ns := "prod"
  stateNs := "vela-system"
  remote := none
  path := "."
  deleteResource := true

/-- A job that succeeded for other inputs, and that a finalizer holds. -/
def leftJob : Job where
  metadata := { name := some "web-apply", ns := some "prod", finalizers := some ["example.com/keep"] }
  status := some { succeeded := some 1 }

/-- A secret with an entry that nobody asks for, and that a finalizer holds. -/
def leftSecret : Secret where
  metadata :=
    { name := some "variable-web", ns := some "prod", finalizers := some ["example.com/keep"] }
  data := some (.singleton "STALE" [])

/-- A store in which both are in the way. -/
def obstructed : Session :=
  (({ store := {}, now := ⟨0, 0⟩ } : Session).write (leftTarget.jobKey .apply)
    (.job leftJob)).write leftTarget.variableSecretKey (.secret leftSecret)

def regional : Inputs := .of leftTarget "# nothing" (.singleton "REGION" "eu")

theorem kinded_obstructed : obstructed.store.Kinded :=
  Session.kinded_write (Session.kinded_write (fun _ _ held => nomatch held) rfl) rfl

end Sample

/-- What finalizers hold makes way: the job that had succeeded has no status, and the secret reads as
the variables alone. -/
theorem Reconcile.convergeJob_converges_obstructed :
    Sample.obstructed.store.Kinded ∧
    (Sample.obstructed.store.read Job (Sample.leftTarget.jobKey .apply)).bind (·.status) =
      some { succeeded := some 1 } ∧
    ∃ s' j secret,
      (convergeJob {} Sample.leftTarget Sample.regional true .apply).on Sample.obstructed =
        (.ok (), s') ∧
      s'.store.read Job (Sample.leftTarget.jobKey .apply) = some j ∧ j.status = none ∧
      s'.store.read Secret Sample.leftTarget.variableSecretKey = some secret ∧
      secret.texts = .singleton "REGION" "eu" := by
  have status : (Sample.obstructed.store.read Job (Sample.leftTarget.jobKey .apply)).bind
      (·.status) = some { succeeded := some 1 } := by decide +kernel
  refine ⟨Sample.kinded_obstructed, status, ?_⟩
  obtain ⟨s', done, started, -⟩ := convergeJob_converges Sample.kinded_obstructed {}
    Sample.leftTarget Sample.regional true .apply
  obtain ⟨j, secret, made⟩ := started <| by
    unfold Executor.plan
    split
    · nofun
    · nofun
  exact ⟨s', j, secret, done, made.found, made.status, made.kept, made.texts⟩

end Provisioner
