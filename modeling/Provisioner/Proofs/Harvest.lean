import Provisioner.Proofs.Operations
import Provisioner.Proofs.Ownership

/-!
A harvest as a whole. It reads the state, takes a text from each output in it, and publishes the texts
where the configuration asks for them. Nothing is written before all texts are there and the secret
is known to belong to nobody else, so a harvest that fails has done nothing. One that succeeds in a
store whose objects are under their own keys has published all outputs and nothing else. A secret of
somebody else is left alone by the harvest and by the cleanup alike.
-/

namespace Provisioner

open Reconcile

variable {s : Session} {t : Target} {c : Configuration} {ns name : String} {e : Error}

/-! ### Texts of outputs -/

namespace Terraform

/-- Either all entries have texts, which are then those under their names, or some entry has none. -/
theorem mapM_outputEntry_cases (l : List (String × Json)) :
    (∃ texts, l.mapM outputEntry = .ok texts ∧ texts.map (·.1) = l.map (·.1) ∧
      ∀ name, (Dict.lookup name l).map valueText = (Dict.lookup name texts).map .ok) ∨
    ∃ name value e, (name, value) ∈ l ∧ valueText value = .error e ∧
      l.mapM outputEntry = .error (.output name e) := by
  induction l with
  | nil => exact .inl ⟨[], rfl, rfl, fun _ => rfl⟩
  | cons entry rest ih =>
    obtain ⟨first, value⟩ := entry
    rw [List.mapM_cons]
    cases said : valueText value with
    | error e =>
      refine .inr ⟨first, value, e, List.mem_cons_self, said, ?_⟩
      simp [outputEntry, said, bind, Except.bind]
    | ok text =>
      have made : outputEntry (first, value) = .ok (first, text) := by simp [outputEntry, said]
      rw [made]
      rcases ih with ⟨texts, all, names, agree⟩ | ⟨name, v, e, listed, failed, stopped⟩
      · rw [all]
        refine .inl ⟨(first, text) :: texts, rfl, by simp [names], fun name => ?_⟩
        simp only [Dict.lookup]
        split
        · simp [said]
        · exact agree name
      · rw [stopped]
        exact .inr ⟨name, v, e, List.mem_cons_of_mem _ listed, failed, rfl⟩

/-- What is read of a document: the text of every output, unless the document cannot be read or some
output has no text. -/
theorem outputs_cases (document : Text.Bytes) :
    (∃ e, outputValues document = .error e ∧ outputs document = .error (.json e)) ∨
    ∃ values, outputValues document = .ok values ∧
      ((∃ texts, outputs document = .ok texts ∧
          ∀ name, (values.get? name).map valueText = (texts.get? name).map .ok) ∨
        ∃ name value e, values.get? name = some value ∧ valueText value = .error e ∧
          outputs document = .error (.state (.output name e))) := by
  cases read : outputValues document with
  | error e =>
    refine .inl ⟨e, rfl, ?_⟩
    unfold outputs
    rw [read]
    rfl
  | ok values =>
    refine .inr ⟨values, rfl, ?_⟩
    rcases mapM_outputEntry_cases values.entries with
      ⟨texts, all, names, agree⟩ | ⟨name, value, e, listed, failed, stopped⟩
    · refine .inl ⟨.ofList texts, ?_, fun name => ?_⟩
      · unfold outputs
        rw [read]
        simp only [mapError_ok, bind, Except.bind, all]
        rfl
      · have increasing : texts.Pairwise fun a b => compare a.1 b.1 = .lt := by
          rw [← List.pairwise_map (f := Prod.fst) (R := fun a b => compare a b = .lt), names,
            List.pairwise_map]
          exact values.increasing
        rw [Dict.get?_ofList, Dict.foldl_eq_lookup increasing, Option.or_none]
        exact agree name
    · refine .inr ⟨name, value, e, Dict.get?_eq_some_iff.mpr listed, failed, ?_⟩
      unfold outputs
      rw [read]
      simp only [mapError_ok, bind, Except.bind, stopped]
      rfl

end Terraform

/-! ### Reading the state -/

namespace Outputs

/-- The state that is stored for a target has outputs of these values. -/
def Lists (s : Store) (t : Target) (values : Dict String Json) : Prop :=
  ∃ secret raw document, s.read Secret t.stateSecretKey = some secret ∧
    secret.bytes? Names.stateEntry = some raw ∧ Terraform.stateDocument raw = .ok document ∧
    Terraform.outputValues document = .ok values

/-- Why the outputs of a target cannot be read: the state is missing or cannot be decoded, or some
output in it has no text. -/
inductive Unread (s : Store) (t : Target) : Error → Prop
  | missing (absent : s.read Secret t.stateSecretKey = none) : Unread s t (.state .notGenerated)
  | empty {secret : Secret} (found : s.read Secret t.stateSecretKey = some secret)
    (absent : secret.bytes? Names.stateEntry = none) :
    Unread s t (.state (.noEntry t.stateSecret))
  | undecoded {secret : Secret} {raw : Text.Bytes} {e : StateFault}
    (found : s.read Secret t.stateSecretKey = some secret)
    (stored : secret.bytes? Names.stateEntry = some raw)
    (failed : Terraform.stateDocument raw = .error e) : Unread s t (.state e)
  | malformed {secret : Secret} {raw document : Text.Bytes} {e : Json.ReadError}
    (found : s.read Secret t.stateSecretKey = some secret)
    (stored : secret.bytes? Names.stateEntry = some raw)
    (decoded : Terraform.stateDocument raw = .ok document)
    (failed : Terraform.outputValues document = .error e) : Unread s t (.json e)
  | textless {values : Dict String Json} {name : String} {value : Json} {e : SpecFault}
    (lists : Lists s t values) (listed : values.get? name = some value)
    (failed : Terraform.valueText value = .error e) : Unread s t (.state (.output name e))

/-- The texts of every output in the state that is stored for a target. -/
def Texts (s : Store) (t : Target) (outputs : Dict String String) : Prop :=
  ∃ values, Lists s t values ∧
    ∀ name, (values.get? name).map Terraform.valueText = (outputs.get? name).map .ok

theorem read_cases {s : Store} (kinded : s.Kinded) (t : Target) :
    (∃ e, read s t = .error e ∧ Unread s t e) ∨
      ∃ outputs, read s t = .ok outputs ∧ Texts s t outputs := by
  have search : s.findNamed Secret t.stateNs t.stateSecret =
      .ok (s.read Secret t.stateSecretKey) := kinded.find rfl
  unfold read
  rw [search]
  simp only [bind, Except.bind]
  cases found : s.read Secret t.stateSecretKey with
  | none => exact .inl ⟨_, rfl, .missing found⟩
  | some secret =>
    simp only
    cases stored : secret.bytes? Names.stateEntry with
    | none => exact .inl ⟨_, rfl, .empty found stored⟩
    | some raw =>
      simp only
      cases decoded : Terraform.stateDocument raw with
      | error e => exact .inl ⟨_, rfl, .undecoded found stored decoded⟩
      | ok document =>
        rw [mapError_ok]
        rcases Terraform.outputs_cases document with
          ⟨e, failed, said⟩ | ⟨values, parsed, ⟨texts, said, agree⟩ |
            ⟨name, value, e, listed, failed, said⟩⟩
        · exact .inl ⟨_, said, .malformed found stored decoded failed⟩
        · exact .inr ⟨texts, said, values, ⟨secret, raw, document, found, stored, decoded, parsed⟩,
            agree⟩
        · exact .inl ⟨_, said, .textless ⟨secret, raw, document, found, stored, decoded, parsed⟩
            listed failed⟩

end Outputs

/-! ### Failure -/

/-- A pass that has done nothing when it fails. -/
def Pass.Atomic {α : Type} (p : Pass α) : Prop :=
  ∀ (s : Session) (e : Error), (p.on s).1 = .error e → (p.on s).2 = s

namespace Pass

variable {α β τ : Type} [Resource τ]

theorem atomic_throw (e : Error) : Atomic (throw e : Pass α) := fun _ _ _ => rfl

theorem atomic_update (r : τ) : (update r).Atomic := by
  intro s e failed
  cases named : (Resource.wrap r).key? with
  | none => rw [on_update_of_nameless named]
  | some key =>
    rw [on_update named] at failed
    cases failed

/-- What comes before the last thing that may fail may only ask. -/
theorem atomic_ask_bind (question : Store → Except Error α) {f : α → Pass β}
    (atomic : ∀ a, (f a).Atomic) : (ask question >>= f).Atomic := by
  intro s e failed
  rw [on_bind, on_ask] at failed ⊢
  cases said : question s.store with
  | error e => rfl
  | ok a =>
    rw [said] at failed
    exact atomic a s e failed

theorem Atomic.bind_pure {p : Pass α} (atomic : p.Atomic) (b : β) :
    (p >>= fun _ => pure b).Atomic := by
  intro s e failed
  have unchanged := atomic s
  rw [on_bind] at failed ⊢
  rcases ran : p.on s with ⟨e' | a, s'⟩ <;> rw [ran] at failed unchanged
  · exact unchanged e' rfl
  · cases failed

end Pass

namespace Outputs

theorem atomic_publish (t : Target) (ns name : String) (outputs : Dict String String) :
    (publish t ns name outputs).Atomic := by
  refine Pass.atomic_ask_bind _ fun found => ?_
  cases found with
  | none => exact Pass.atomic_update _
  | some secret =>
    simp only
    cases otherOwner? secret t with
    | none => exact Pass.atomic_update _
    | some owner => exact Pass.atomic_throw _

/-- A harvest that fails has done nothing. -/
theorem atomic_generate (c : Configuration) (t : Target) : (generate c t).Atomic := by
  refine Pass.atomic_ask_bind _ fun outputs => ?_
  cases c.connectionSecret? with
  | none => exact fun _ _ failed => nomatch failed
  | some place => exact (atomic_publish t place.1 place.2 outputs).bind_pure outputs

end Outputs

/-! ### Secrets of others -/

/-- A secret that a label says to belong to a configuration of another name or namespace. -/
def Secret.Foreign (secret : Secret) (t : Target) : Prop :=
  ∃ labels owner, secret.metadata.labels = some labels ∧ owner ≠ "" ∧
    (labels.get? Names.ownedByLabel = some owner ∧ owner ≠ t.name ∨
      labels.get? Names.ownedNamespaceLabel = some owner ∧ owner ≠ t.ns)

theorem Secret.Foreign.otherOwner? {secret : Secret} (foreign : secret.Foreign t) :
    ∃ owner, Outputs.otherOwner? secret t = some owner := by
  obtain ⟨labels, owner, labelled, nonempty, told⟩ := foreign
  refine Option.isSome_iff_exists.mp ?_
  unfold Outputs.otherOwner?
  rw [labelled, Option.bind_some]
  rcases told with ⟨name, other⟩ | ⟨ns, other⟩
  · simp [name, nonempty, other]
  · simp [ns, nonempty, other]

namespace Outputs

variable {secret : Secret}

/-- Whoever's secret it is, nobody else publishes there. -/
theorem generate_of_foreign (asked : c.connectionSecret? = some (ns, name))
    (found : s.store.read Secret ⟨.secret, ns, name⟩ = some secret) (foreign : secret.Foreign t) :
    ∃ e, (generate c t).on s = (.error e, s) := by
  suffices failed : ∃ e, ((generate c t).on s).1 = .error e by
    obtain ⟨e, failed⟩ := failed
    exact ⟨e, Prod.ext failed (atomic_generate c t s e failed)⟩
  obtain ⟨owner, owned⟩ := foreign.otherOwner?
  have search : s.store.findNamed Secret ns name = .ok (some secret) := Store.find_of_read rfl found
  unfold generate
  rw [Pass.on_bind, Pass.on_ask]
  cases read s.store t with
  | error e => exact ⟨e, rfl⟩
  | ok outputs =>
    simp only [asked]
    rw [Pass.on_bind]
    unfold publish
    rw [Pass.on_bind, Pass.on_findNamed, search]
    simp only [owned]
    exact ⟨_, rfl⟩

end Outputs

/-- Nobody else's cleanup takes the secret, unless it bears the name of something of theirs. -/
theorem get?_cleanup_of_foreign {secret : Secret}
    (asked : c.connectionSecret? = some (ns, name))
    (found : s.store.read Secret ⟨.secret, ns, name⟩ = some secret) (foreign : secret.Foreign t)
    (values : (⟨.secret, ns, name⟩ : ObjectKey) ≠ t.variableSecretKey)
    (state : (⟨.secret, ns, name⟩ : ObjectKey) ≠ t.stateSecretKey) :
    (s.cleanup t c).store.get? ⟨.secret, ns, name⟩ = s.store.get? ⟨.secret, ns, name⟩ := by
  obtain ⟨owner, owned⟩ := foreign.otherOwner?
  have search : s.store.findNamed Secret ns name = .ok (some secret) := Store.find_of_read rfl found
  have passed : ownConnectionKey? t c s.store = none := by
    unfold ownConnectionKey?
    rw [asked, Option.bind_some]
    simp [search, owned]
  refine Session.get?_deleteAll_of_not_mem ?_
  rw [passed, Option.toList_none, List.append_nil]
  simp only [generatedKeys, List.mem_cons, List.not_mem_nil, or_false, not_or]
  refine ⟨?_, values, state, ?_, ?_⟩
  all_goals rintro ⟨⟩

/-! ### Harvests -/

namespace Outputs

/-- What is stored after a harvest: the secret of a namespace and name reads as the outputs, its
labels are those that it had, or tell its owner if it was not there, and all else is as before. -/
structure Left (t : Target) (ns name : String) (outputs : Dict String String)
    (before after : Store) : Prop where
  published : ∃ secret, after.read Secret ⟨.secret, ns, name⟩ = some secret ∧
    secret.texts = outputs ∧
    (before.read Secret ⟨.secret, ns, name⟩ = none →
      secret.metadata.labels = some (.ofList
        [("terraform.core.oam.dev/created-by", "terraform-controller"),
          ("terraform.core.oam.dev/owned-by", t.name),
          ("terraform.core.oam.dev/owned-namespace", t.ns)])) ∧
    ∀ earlier, before.read Secret ⟨.secret, ns, name⟩ = some earlier →
      secret.metadata.labels = earlier.metadata.labels
  elsewhere : ∀ key, key ≠ ⟨.secret, ns, name⟩ → after.get? key = before.get? key

theorem left_publish (s : Session) (t : Target) (ns name : String)
    (outputs : Dict String String) :
    Left t ns name outputs s.store (s.publish t ns name outputs).store where
  published := by
    obtain ⟨secret, found, texts, labels⟩ := s.read_publish t ns name outputs
    refine ⟨secret, found, texts, fun absent => ?_, fun earlier held => ?_⟩
    · rw [labels, absent]
      rfl
    · rw [labels, held]
  elsewhere _ other := Session.get?_write_of_ne _ _ other

/-- A harvest is all or nothing, and respects whose the secret is. If it fails, it has done nothing;
and it fails only if the outputs cannot be read or the secret belongs to somebody else. Else, in a
store whose objects are under their own keys, it answers the texts of all outputs in the state, and
the secret that is asked for, if any, reads as just those, while all else stays. Where a label tells
that the secret is another's, no harvest succeeds, and harvest and cleanup leave it alone. -/
theorem harvest_atomic (s : Session) (c : Configuration) (t : Target) :
    (∀ e, ((generate c t).on s).1 = .error e → ((generate c t).on s).2 = s) ∧
    (s.store.WellKeyed →
      (∃ e, (generate c t).on s = (.error e, s) ∧
        (Unread s.store t e ∨ ∃ ns name owner, c.connectionSecret? = some (ns, name) ∧
          s.store.otherOwner? t ns name = some owner ∧
          e = .secretConflict ⟨t.ns, t.name⟩ ⟨ns, name⟩ owner)) ∨
      ∃ outputs s', (generate c t).on s = (.ok outputs, s') ∧ Texts s.store t outputs ∧
        (c.connectionSecret? = none → s' = s) ∧
        ∀ ns name, c.connectionSecret? = some (ns, name) →
          Left t ns name outputs s.store s'.store) ∧
    ∀ ns name secret, c.connectionSecret? = some (ns, name) →
      s.store.read Secret ⟨.secret, ns, name⟩ = some secret → secret.Foreign t →
        (∃ e, (generate c t).on s = (.error e, s)) ∧
        ((⟨.secret, ns, name⟩ : ObjectKey) ≠ t.variableSecretKey →
          (⟨.secret, ns, name⟩ : ObjectKey) ≠ t.stateSecretKey →
          ((cleanup t c).on s).2.store.get? ⟨.secret, ns, name⟩ =
            s.store.get? ⟨.secret, ns, name⟩) := by
  refine ⟨atomic_generate c t s, fun keyed => ?_, fun ns name secret asked found foreign =>
    ⟨generate_of_foreign asked found foreign, fun values state => ?_⟩⟩
  · rcases read_cases keyed.kinded t with ⟨e, failed, unread⟩ | ⟨outputs, said, texts⟩
    · exact .inl ⟨e, on_generate_unread failed, .inl unread⟩
    · cases asked : c.connectionSecret? with
      | none =>
        refine .inr ⟨outputs, s, ?_, texts, fun _ => rfl, nofun⟩
        unfold generate
        rw [Pass.on_bind, Pass.on_ask, said, asked]
        rfl
      | some place =>
        obtain ⟨ns, name⟩ := place
        have done := on_generate_asked (t := t) (keyed _) asked
        rw [said] at done
        cases owned : s.store.otherOwner? t ns name with
        | some owner =>
          simp only [owned] at done
          exact .inl ⟨_, done, .inr ⟨ns, name, owner, rfl, owned, rfl⟩⟩
        | none =>
          simp only [owned] at done
          refine .inr ⟨outputs, _, done, texts, nofun, fun _ _ same => ?_⟩
          cases same
          exact left_publish s t ns name outputs
  · simp only [on_cleanup]
    exact get?_cleanup_of_foreign asked found foreign values state

end Outputs

namespace Sample

def connectionKey : ObjectKey := ⟨.secret, "prod", "web-conn"⟩

/-- The secret that is asked for has an entry from before. -/
def refreshing (labels : Option (Dict String String)) : Session :=
  applied.write connectionKey
    (.secret (.ofTexts "prod" "web-conn" (.singleton "before" "stale") labels))

/-- It belongs to a configuration of another name. -/
def taken : Session := refreshing (some (.singleton Names.ownedByLabel "db"))

theorem wellKeyed_refreshing (labels : Option (Dict String String)) :
    (refreshing labels).store.WellKeyed := by
  refine Session.wellKeyed_write (Store.wellKeyed_ofList fun e listed => ?_) rfl
  cases List.mem_singleton.mp listed
  decide +kernel

end Sample

/-- The entry from before is gone once the outputs are published, and a secret of somebody else stays
as it is. -/
theorem Outputs.harvest_atomic_refreshing :
    (Sample.refreshing none).store.WellKeyed ∧
    (∃ secret, (Sample.harvestOf Sample.owning (Sample.refreshing none)).2.store.read Secret
      Sample.connectionKey = some secret ∧ secret.texts = ∅) ∧
    ∃ e, Sample.harvestOf Sample.owning Sample.taken = (.error e, Sample.taken) := by
  have asks : Sample.owning.connectionSecret? = some ("prod", "web-conn") := by decide +kernel
  have harvested := eq_ok_of_toOption
    (e := (Sample.harvestOf Sample.owning (Sample.refreshing none)).1) (a := ∅) (by decide +kernel)
  refine ⟨Sample.wellKeyed_refreshing _, ?_, ?_⟩
  · obtain ⟨-, done, -⟩ := Outputs.harvest_atomic (Sample.refreshing none) Sample.owning
      (.of {} Sample.owning)
    rcases done (Sample.wellKeyed_refreshing _) with
      ⟨e, failed, -⟩ | ⟨outputs, s', ran, -, -, left⟩
    · cases (congrArg Prod.fst failed).symm.trans harvested
    · cases (congrArg Prod.fst ran).symm.trans harvested
      obtain ⟨secret, found, texts, -⟩ := (left _ _ asks).published
      exact ⟨secret, (congrArg (fun r => r.2.store.read Secret Sample.connectionKey) ran).trans found,
        texts⟩
  · obtain ⟨-, -, others⟩ := Outputs.harvest_atomic Sample.taken Sample.owning
      (.of {} Sample.owning)
    obtain ⟨secret, found, labelled⟩ : ∃ secret,
        Sample.taken.store.read Secret Sample.connectionKey = some secret ∧
          secret.metadata.labels = some (.singleton Names.ownedByLabel "db") := by
      refine Option.map_eq_some_iff.mp ?_
      decide +kernel
    exact (others _ _ secret asks found
      ⟨_, "db", labelled, by decide, .inl ⟨by decide +kernel, by decide⟩⟩).1

end Provisioner
