import Mathlib.Logic.Relation
import Provisioner.Proofs.Stability

/-!
Whose the secret is in which configurations ask for their outputs. The harvest that creates it
stores it with the labels of its configuration. From then on the harvests of other configurations
are refused there and their cleanups pass it over, until its owner cleans up. A label that is empty
tells nobody from the owner, though, and a cleanup also removes whatever bears the name of something
that is generated for its configuration.
-/

namespace Provisioner

open Reconcile

variable {s s' : Session} {t owner : Target} {settings : Settings} {c : Configuration}
  {ns name : String} {outputs : Dict String String}

/-! ### A secret with an owner -/

/-- A secret with the labels of its owner, under its own key and held by nobody. -/
structure Secret.BelongsTo (owner : Target) (ns name : String) (secret : Secret) : Prop where
  labels : secret.metadata.labels = some owner.labels
  placed : (Object.secret secret).key? = some ⟨.secret, ns, name⟩
  free : (Object.secret secret).hasFinalizers = false

/-- What is under a key is a secret that belongs to the owner. -/
def Object.BelongsTo (owner : Target) (ns name : String) (o : Object) : Prop :=
  ∃ secret, o = .secret secret ∧ secret.BelongsTo owner ns name

/-- The secret of a namespace and name is there and belongs to its owner. -/
def Store.Keeps (s : Store) (owner : Target) (ns name : String) : Prop :=
  ∃ o, s.get? ⟨.secret, ns, name⟩ = some o ∧ o.BelongsTo owner ns name

/-- A secret of the owner is stored as one, if it does not replace anything else. -/
theorem Secret.BelongsTo.stored {secret : Secret} {previous : Option Object} (now : Timestamp)
    (belongs : secret.BelongsTo owner ns name)
    (before : ∀ p, previous = some p → p.BelongsTo owner ns name) :
    ((Object.secret secret).stored now previous).BelongsTo owner ns name := by
  rcases Object.stored_cases now (.secret secret) previous with
    ⟨p, there, stays, -⟩ | ⟨g, created, replaced⟩
  · rw [stays]
    exact before p there
  · rw [replaced]
    exact ⟨_, rfl, belongs.labels, (Object.key?_timed ..).trans belongs.placed, belongs.free⟩

namespace Session

theorem keeps_write {secret : Secret} (belongs : secret.BelongsTo owner ns name)
    (before : ∀ p, s.store.get? ⟨.secret, ns, name⟩ = some p → p.BelongsTo owner ns name) :
    (s.write ⟨.secret, ns, name⟩ (.secret secret)).store.Keeps owner ns name :=
  ⟨_, get?_write_self _ _ _, belongs.stored s.now before⟩

/-- Outputs that are published where nothing was make a secret that belongs to their target. -/
theorem keeps_publish (absent : s.store.get? ⟨.secret, ns, name⟩ = none)
    (asked : c.connectionSecret? = some (ns, name)) (outputs : Dict String String) :
    (s.publish t ns name outputs).store.Keeps t ns name := by
  unfold publish
  rw [Store.read_of_absent absent]
  exact keeps_write ⟨rfl, key?_outputs asked outputs, rfl⟩ fun p held =>
    absurd (absent.symm.trans held) nofun

/-- The harvest that creates a secret makes it one of its target. -/
theorem keeps_generate (absent : s.store.get? ⟨.secret, ns, name⟩ = none)
    (asked : c.connectionSecret? = some (ns, name))
    (created : ((Outputs.generate c t).on s).1 = .ok outputs) :
    ((Outputs.generate c t).on s).2.store.Keeps t ns name := by
  have unowned : s.store.otherOwner? t ns name = none := by
    unfold Store.otherOwner?
    rw [Store.read_of_absent absent]
    rfl
  rw [on_generate_asked (Store.keyedAt_of_absent absent) asked] at created ⊢
  cases read : Outputs.read s.store t with
  | error e =>
    rw [read] at created
    cases created
  | ok outputs =>
    simp only [unowned]
    exact keeps_publish absent asked outputs

end Session

namespace Store.Keeps

variable (keeps : s.store.Keeps owner ns name)

include keeps

theorem keyedAt : s.store.KeyedAt ⟨.secret, ns, name⟩ := by
  obtain ⟨_, held, secret, rfl, belongs⟩ := keeps
  intro o there
  cases held.symm.trans there
  exact belongs.placed

theorem found : ∃ secret, s.store.read Secret ⟨.secret, ns, name⟩ = some secret ∧
    secret.BelongsTo owner ns name := by
  obtain ⟨_, held, secret, rfl, belongs⟩ := keeps
  exact ⟨secret, read_eq_some_iff.mpr held, belongs⟩

theorem congr (same : s'.store.get? ⟨.secret, ns, name⟩ = s.store.get? ⟨.secret, ns, name⟩) :
    s'.store.Keeps owner ns name := by
  obtain ⟨o, held, belongs⟩ := keeps
  exact ⟨o, same.trans held, belongs⟩

theorem otherOwner? (t : Target) :
    s.store.otherOwner? t ns name =
      if owner.ToldFrom t then some ⟨owner.ns, owner.name⟩ else none := by
  obtain ⟨secret, found, belongs⟩ := keeps.found
  unfold Store.otherOwner?
  rw [found]
  exact Outputs.otherOwner?_of_owner belongs.labels

theorem ownConnectionKey? (asked : c.connectionSecret? = some (ns, name)) :
    Reconcile.ownConnectionKey? t c s.store =
      if owner.ToldFrom t then none else some ⟨.secret, ns, name⟩ := by
  have search : s.store.findNamed Secret ns name =
      .ok (s.store.read Secret ⟨.secret, ns, name⟩) := keeps.keyedAt.find rfl
  obtain ⟨secret, found, belongs⟩ := keeps.found
  unfold Reconcile.ownConnectionKey?
  rw [asked, Option.bind_some]
  simp only [search, found, Outputs.otherOwner?_of_owner belongs.labels]
  by_cases told : owner.ToldFrom t
  · simp [told]
  · simp [told]

/-! ### Harvests -/

/-- Whoever publishes in the secret leaves it to its owner. -/
theorem publish (t : Target) (outputs : Dict String String) :
    (s.publish t ns name outputs).store.Keeps owner ns name := by
  obtain ⟨secret, found, belongs⟩ := keeps.found
  unfold Session.publish
  rw [found]
  refine Session.keeps_write ⟨belongs.labels, belongs.placed, belongs.free⟩ fun p there => ?_
  cases (read_eq_some_iff.mp found).symm.trans there
  exact ⟨secret, rfl, belongs⟩

theorem harvest (asked : c.connectionSecret? = some (ns, name)) (t : Target) :
    ((Outputs.generate c t).on s).2.store.Keeps owner ns name := by
  rw [on_generate_asked keeps.keyedAt asked]
  cases Outputs.read s.store t with
  | error e => exact keeps
  | ok outputs =>
    simp only
    cases s.store.otherOwner? t ns name with
    | some other => exact keeps
    | none => exact keeps.publish t outputs

/-- The harvest of a configuration that is told from the owner ends with reading the outputs. -/
theorem refused (told : owner.ToldFrom t) (asked : c.connectionSecret? = some (ns, name)) :
    (Outputs.generate c t).on s =
      ((Outputs.read s.store t).bind fun _ =>
        .error (.secretConflict ⟨t.ns, t.name⟩ ⟨ns, name⟩ ⟨owner.ns, owner.name⟩), s) := by
  rw [on_generate_asked keeps.keyedAt asked, keeps.otherOwner?, if_pos told]
  cases Outputs.read s.store t <;> rfl

/-! ### Cleanups -/

theorem passedOver (told : owner.ToldFrom t) (asked : c.connectionSecret? = some (ns, name))
    (apart : (⟨.secret, ns, name⟩ : ObjectKey) ∉ generatedKeys t) :
    (s.cleanup t c).store.get? ⟨.secret, ns, name⟩ = s.store.get? ⟨.secret, ns, name⟩ := by
  refine Session.get?_deleteAll_of_not_mem ?_
  rw [keeps.ownConnectionKey? asked, if_pos told, Option.toList_none, List.append_nil]
  exact apart

theorem removed (untold : ¬ owner.ToldFrom t) (asked : c.connectionSecret? = some (ns, name)) :
    (s.cleanup t c).store.get? ⟨.secret, ns, name⟩ = none := by
  -- the secret is among what is cleaned up, and no finalizer keeps it from going
  refine Session.get?_deleteAll_of_free ?_ fun o there => ?_
  · rw [keeps.ownConnectionKey? asked, if_neg untold]
    simp
  · obtain ⟨_, held, secret, rfl, belongs⟩ := keeps
    cases held.symm.trans there
    exact belongs.free

end Store.Keeps

/-! ### Runs -/

/-- What may happen around a secret that belongs to its owner: anybody who asks for the outputs
there harvests them, a configuration that is told from the owner cleans up unless the secret bears
the name of something generated for it, and all else leaves the secret alone. -/
inductive Session.Custody (settings : Settings) (owner : Target) (ns name : String) :
    Session → Session → Prop
  | harvest {s : Session} {c : Configuration} (asked : c.connectionSecret? = some (ns, name)) :
      Custody settings owner ns name s ((Outputs.generate c (.of settings c)).on s).2
  | cleanup {s : Session} {c : Configuration} (told : owner.ToldFrom (.of settings c))
      (asked : c.connectionSecret? = some (ns, name))
      (apart : (⟨.secret, ns, name⟩ : ObjectKey) ∉ generatedKeys (.of settings c)) :
      Custody settings owner ns name s ((Reconcile.cleanup (.of settings c) c).on s).2
  | elsewhere {s s' : Session}
      (same : s'.store.get? ⟨.secret, ns, name⟩ = s.store.get? ⟨.secret, ns, name⟩) :
      Custody settings owner ns name s s'

theorem Session.Custody.keeps (step : Custody settings owner ns name s s')
    (keeps : s.store.Keeps owner ns name) : s'.store.Keeps owner ns name := by
  cases step with
  | harvest asked => exact keeps.harvest asked _
  | cleanup told asked apart =>
    simp only [on_cleanup]
    exact keeps.congr (keeps.passedOver told asked apart)
  | elsewhere same => exact keeps.congr same

theorem Store.Keeps.run (keeps : s.store.Keeps owner ns name)
    (run : Relation.ReflTransGen (Session.Custody settings owner ns name) s s') :
    s'.store.Keeps owner ns name := by
  induction run with
  | refl => exact keeps
  | tail _ step ih => exact step.keeps ih

/-- Once a harvest has created the secret that its configuration asks for its outputs in, the secret
is there with the labels of that configuration through all harvests that ask for it and through the
cleanups of all that are told from its owner, unless it bears the name of something generated for
one of those. All that time the harvest of a configuration that is told from the owner changes
nothing and fails, with the conflict if its outputs can be read; its cleanup leaves the secret as it
is; and the owner's removes it. -/
theorem outputs_stay_with_owner {a : Configuration}
    (absent : s.store.get? ⟨.secret, ns, name⟩ = none)
    (asked : a.connectionSecret? = some (ns, name))
    (created : ((Outputs.generate a (.of settings a)).on s).1 = .ok outputs)
    (run : Relation.ReflTransGen (Session.Custody settings (.of settings a) ns name)
      ((Outputs.generate a (.of settings a)).on s).2 s') :
    (∃ secret, s'.store.get? ⟨.secret, ns, name⟩ = some (.secret secret) ∧
      secret.metadata.labels = some (Target.of settings a).labels) ∧
    (∀ b : Configuration, b.connectionSecret? = some (ns, name) →
      (Target.of settings a).ToldFrom (.of settings b) →
        (Outputs.generate b (.of settings b)).on s' =
          ((Outputs.read s'.store (.of settings b)).bind fun _ =>
            .error (.secretConflict ⟨(Target.of settings b).ns, (Target.of settings b).name⟩
              ⟨ns, name⟩ ⟨(Target.of settings a).ns, (Target.of settings a).name⟩), s') ∧
        ((⟨.secret, ns, name⟩ : ObjectKey) ∉ generatedKeys (.of settings b) →
          ((Reconcile.cleanup (.of settings b) b).on s').2.store.get? ⟨.secret, ns, name⟩ =
            s'.store.get? ⟨.secret, ns, name⟩)) ∧
    ∀ a' : Configuration, a'.connectionSecret? = some (ns, name) →
      (Target.of settings a').key = (Target.of settings a).key →
        ((Reconcile.cleanup (.of settings a') a').on s').2.store.get? ⟨.secret, ns, name⟩ =
          none := by
  have keeps := (Session.keeps_generate absent asked created).run run
  refine ⟨?_, fun b asked told => ⟨keeps.refused told asked, fun apart => ?_⟩,
    fun a' asked same => ?_⟩
  · obtain ⟨_, held, secret, rfl, belongs⟩ := keeps
    exact ⟨secret, held, belongs.labels⟩
  · simp only [on_cleanup]
    exact keeps.passedOver told asked apart
  · simp only [on_cleanup]
    exact keeps.removed (Target.not_toldFrom_of_key same) asked

namespace Sample

/-- A configuration that asks for its outputs in a secret of that name. -/
def naming (ns : Option String) (name secret : String) : Configuration where
  metadata := { name := some name, ns := ns }
  spec := { writeConnectionSecretToRef := some ⟨secret, some "prod"⟩ }

/-- What the executor has left for the configurations called web. -/
def applied : Session where
  store :=
    { items := .ofList [(⟨.secret, "vela-system", "tfstate-default-web"⟩, .secret stored)]
      listeners := ∅ }
  now := ⟨0, 0⟩

/-- The harvest of a configuration. -/
def harvestOf (c : Configuration) (s : Session) : Except Error (Dict String String) × Session :=
  (Outputs.generate c (.of {} c)).on s

/-- The store once a configuration has been cleaned up after. -/
def cleanedUp (c : Configuration) (s : Session) : Session := ((cleanup (.of {} c) c).on s).2

def owning : Configuration := naming (some "prod") "web" "web-conn"

/-- It has the name of the owner, and so its state, in another namespace. -/
def rival : Configuration := naming (some "staging") "web" "web-conn"

end Sample

/-- The rival is refused and its cleanup passes the secret over, which goes when the owner does. -/
theorem outputs_stay_with_owner_rival :
    Sample.applied.store.get? ⟨.secret, "prod", "web-conn"⟩ = none ∧
    (Sample.harvestOf Sample.owning Sample.applied).1 = .ok ∅ ∧
    let created := (Sample.harvestOf Sample.owning Sample.applied).2
    Sample.harvestOf Sample.rival created =
      (.error (.secretConflict ⟨"staging", "web"⟩ ⟨"prod", "web-conn"⟩ ⟨"prod", "web"⟩), created) ∧
    (∃ secret, (Sample.cleanedUp Sample.rival created).store.get?
      ⟨.secret, "prod", "web-conn"⟩ = some (.secret secret)) ∧
    (Sample.cleanedUp Sample.owning (Sample.cleanedUp Sample.rival created)).store.get?
      ⟨.secret, "prod", "web-conn"⟩ = none := by
  have absent : Sample.applied.store.get? ⟨.secret, "prod", "web-conn"⟩ = none := by
    decide +kernel
  obtain ⟨harvested, read⟩ :
      (Sample.harvestOf Sample.owning Sample.applied).1.toOption = some ∅ ∧
      (Outputs.read (Sample.harvestOf Sample.owning Sample.applied).2.store
        (.of {} Sample.rival)).toOption = some ∅ := by decide +kernel
  have asks : Sample.owning.connectionSecret? = some ("prod", "web-conn") := by decide +kernel
  have rivals : Sample.rival.connectionSecret? = some ("prod", "web-conn") := by decide +kernel
  have told : (Target.of {} Sample.owning).ToldFrom (.of {} Sample.rival) := by decide
  have apart : (⟨.secret, "prod", "web-conn"⟩ : ObjectKey) ∉
      generatedKeys (.of {} Sample.rival) := by decide
  have created := eq_ok_of_toOption harvested
  obtain ⟨-, others, -⟩ := outputs_stay_with_owner absent asks created .refl
  obtain ⟨⟨secret, kept, -⟩, -, own⟩ := outputs_stay_with_owner absent asks created
    (.single (.cleanup told rivals apart))
  refine ⟨absent, created, ?_, ⟨secret, kept⟩, own _ asks rfl⟩
  refine (others _ rivals told).1.trans ?_
  unfold Sample.harvestOf at read
  rw [eq_ok_of_toOption read]
  rfl

/-- Without a namespace the owner is not told from a configuration of its name: that one is not
refused, and its cleanup takes the secret. So does the cleanup of a configuration whose variables
have the name of the secret; and a configuration without a state fails for that before anybody asks
whose the secret is. -/
theorem outputs_taken_from_owner :
    let unplaced := Sample.naming none "web" "web-conn"
    let created := Sample.harvestOf unplaced Sample.applied
    let other := Sample.naming (some "prod") "db" "variable-db"
    let named := Sample.harvestOf (Sample.naming (some "prod") "web" "variable-db") Sample.applied
    (created.1 = .ok ∅ ∧ (created.2.store.get? ⟨.secret, "prod", "web-conn"⟩).isSome ∧
      (Sample.harvestOf Sample.owning created.2).1 = .ok ∅ ∧
      (Sample.cleanedUp Sample.owning created.2).store.get? ⟨.secret, "prod", "web-conn"⟩ = none) ∧
    named.1 = .ok ∅ ∧ (named.2.store.get? ⟨.secret, "prod", "variable-db"⟩).isSome ∧
      (Sample.harvestOf other named.2).1 = .error (.state .notGenerated) ∧
      (Sample.cleanedUp other named.2).store.get? ⟨.secret, "prod", "variable-db"⟩ = none := by
  intro unplaced created other named
  obtain ⟨harvested, stored, again, gone⟩ : created.1.toOption = some ∅ ∧
      (created.2.store.get? ⟨.secret, "prod", "web-conn"⟩).isSome ∧
      (Sample.harvestOf Sample.owning created.2).1.toOption = some ∅ ∧
      (Sample.cleanedUp Sample.owning created.2).store.get? ⟨.secret, "prod", "web-conn"⟩ =
        none := by decide +kernel
  obtain ⟨harvested', stored', stateless, gone'⟩ : named.1.toOption = some ∅ ∧
      (named.2.store.get? ⟨.secret, "prod", "variable-db"⟩).isSome ∧
      named.2.store.get? (Target.of {} other).stateSecretKey = none ∧
      (Sample.cleanedUp other named.2).store.get? ⟨.secret, "prod", "variable-db"⟩ = none := by
    decide +kernel
  have unread : (Sample.harvestOf other named.2).1 = .error (.state .notGenerated) :=
    congrArg Prod.fst (on_generate_unread (read_ungenerated stateless))
  exact ⟨⟨eq_ok_of_toOption harvested, stored, eq_ok_of_toOption again, gone⟩,
    eq_ok_of_toOption harvested', stored', unread, gone'⟩

end Provisioner
