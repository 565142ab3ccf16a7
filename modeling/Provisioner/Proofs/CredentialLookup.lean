import Provisioner.Proofs.PassSteps

/-!
Where credentials come from. They are found through two objects only, the provider that a
configuration refers to and the secret that the provider refers to, so they stay what they are while
those two are left alone. The status of the provider decides whether they are granted, not what they
are.
-/

namespace Provisioner

open Reconcile

variable {s s' : Store} {c c' : Configuration} {p p' : Provider} {key : ObjectKey}
  {credentials : Dict String String}

/-- The key of the secret that a provider keeps its credentials in, if it does. -/
def Provider.credentialKey? (p : Provider) : Option ObjectKey :=
  if p.spec.credentials.source = .secret then
    p.spec.credentials.secretRef.map fun r =>
      ⟨.secret, (r.ns <|> p.metadata.ns).getD "default", r.name⟩
  else none

/-- The key of the secret with the credentials for a configuration, if there is one. -/
def Store.credentialKey? (s : Store) (c : Configuration) : Option ObjectKey :=
  (s.read Provider c.providerKey).bind Provider.credentialKey?

/-- The credentials for a configuration, whether or not its provider is ready. -/
def Store.granted (s : Store) (c : Configuration) : Except Error (Dict String String) :=
  match s.read Provider c.providerKey with
  | none => .error (.provider (.notFound c.providerReference.1 c.providerReference.2))
  | some p => Provider.resolve s p (region c p)

theorem Store.find_congr {τ : Type} [Resource τ] (same : s'.get? key = s.get? key) :
    s'.find τ key = s.find τ key := by
  unfold Store.find
  rw [same]

namespace Provider

/-- Credentials depend on no other object than the secret that they are kept in. -/
theorem resolve_congr (same : ∀ key, p.credentialKey? = some key → s'.get? key = s.get? key)
    (region : String) : Provider.resolve s' p region = Provider.resolve s p region := by
  have document : p.document s' = p.document s := by
    unfold Provider.document
    unfold Provider.credentialKey? at same
    dsimp only
    by_cases source : p.spec.credentials.source = .secret
    · rw [if_pos source] at same
      rw [if_neg (not_not_intro source), if_neg (not_not_intro source)]
      cases reference : p.spec.credentials.secretRef with
      | none => rfl
      | some r =>
        rw [reference] at same
        have found : s'.findNamed Secret ((r.ns <|> p.metadata.ns).getD "default") r.name =
            s.findNamed Secret ((r.ns <|> p.metadata.ns).getD "default") r.name :=
          Store.find_congr (same _ rfl)
        simp only [found]
    · rw [if_pos source, if_pos source]
      rfl
  unfold Provider.resolve
  rw [document]

/-- The parts of a provider that its credentials depend on. -/
def Alike (p p' : Provider) : Prop :=
  p'.spec = p.spec ∧ p'.metadata.ns = p.metadata.ns ∧ p'.metadata.anyName = p.metadata.anyName

theorem Alike.credentialKey? (alike : p.Alike p') : p'.credentialKey? = p.credentialKey? := by
  obtain ⟨spec, ns, -⟩ := alike
  unfold Provider.credentialKey?
  rw [spec, ns]

theorem Alike.resolve (alike : p.Alike p') (s : Store) (region : String) :
    Provider.resolve s p' region = Provider.resolve s p region := by
  obtain ⟨spec, ns, name⟩ := alike
  unfold Provider.resolve Provider.document
  rw [spec, ns, name]

end Provider

/-- What a pass resolves stays the same while the provider and the secret do. -/
theorem resolveCredentials_congr (provider : s'.get? c.providerKey = s.get? c.providerKey)
    (secret : ∀ key, s.credentialKey? c = some key → s'.get? key = s.get? key) :
    resolveCredentials Provider.resolve c s' = resolveCredentials Provider.resolve c s := by
  have found : s'.findNamed Provider c.providerReference.1 c.providerReference.2 =
      s.findNamed Provider c.providerReference.1 c.providerReference.2 := Store.find_congr provider
  unfold resolveCredentials
  simp only [found]
  cases search : s.findNamed Provider c.providerReference.1 c.providerReference.2 with
  | error e => rfl
  | ok answered =>
    cases answered with
    | none => rfl
    | some p =>
      have read : s.read Provider c.providerKey = some p := Store.read_of_find search
      have kept : ∀ key, p.credentialKey? = some key → s'.get? key = s.get? key := by
        intro key here
        refine secret key ?_
        unfold Store.credentialKey?
        rw [read]
        exact here
      have same := Provider.resolve_congr kept (region c p)
      simp only [bind, Except.bind]
      rw [same]

/-- Where credentials are resolved they are the ones that are granted. -/
theorem Store.WellKeyed.granted (keyed : s.WellKeyed)
    (resolved : resolveCredentials Provider.resolve c s = .ok credentials) :
    s.granted c = .ok credentials := by
  unfold resolveCredentials at resolved
  simp only [keyed.findNamed, bind, Except.bind] at resolved
  unfold Store.granted
  change (match s.read Provider c.providerKey with
    | none => _
    | some p => _) = _ at resolved
  cases found : s.read Provider c.providerKey with
  | none =>
    rw [found] at resolved
    cases resolved
  | some p =>
    rw [found] at resolved
    simp only at resolved
    split at resolved
    · cases resolved
    · exact resolved

/-- Where a provider resolves credentials the secret that it keeps them in is there. -/
theorem Provider.isSome_of_resolve {region : String}
    (resolved : Provider.resolve s p region = .ok credentials)
    (kept : p.credentialKey? = some key) : (s.get? key).isSome := by
  unfold Provider.credentialKey? at kept
  split at kept
  · rename_i source
    obtain ⟨r, reference, rfl⟩ := Option.map_eq_some_iff.mp kept
    cases absent : s.get? ⟨.secret, (r.ns <|> p.metadata.ns).getD "default", r.name⟩ with
    | some o => rfl
    | none =>
      have missing : s.findNamed Secret ((r.ns <|> p.metadata.ns).getD "default") r.name =
          .ok none := Store.find_of_absent rfl absent
      unfold Provider.resolve Provider.document at resolved
      simp only [source, reference, missing, bind, Except.bind] at resolved
      cases resolved
  · cases kept

theorem Store.WellKeyed.isSome_of_resolved (keyed : s.WellKeyed)
    (resolved : resolveCredentials Provider.resolve c s = .ok credentials)
    (kept : s.credentialKey? c = some key) : (s.get? key).isSome := by
  have granted := keyed.granted resolved
  obtain ⟨p, found, kept⟩ := Option.bind_eq_some_iff.mp kept
  unfold Store.granted at granted
  rw [found] at granted
  exact p.isSome_of_resolve granted kept

/-! ### The secrets of a configuration -/

theorem Provider.kind_of_credentialKey (kept : p.credentialKey? = some key) : key.kind = .secret := by
  unfold Provider.credentialKey? at kept
  split at kept
  · obtain ⟨r, -, rfl⟩ := Option.map_eq_some_iff.mp kept
    rfl
  · cases kept

theorem Store.kind_of_credentialKey (kept : s.credentialKey? c = some key) : key.kind = .secret := by
  obtain ⟨p, -, kept⟩ := Option.bind_eq_some_iff.mp kept
  exact p.kind_of_credentialKey kept

/-- The keys of all secrets that have to do with a configuration: of its outputs, its variables, its
state and its credentials. -/
def Store.secretKeys (s : Store) (t : Target) (c : Configuration) : List ObjectKey :=
  (c.connectionSecret?.map fun asked => ⟨.secret, asked.1, asked.2⟩).toList ++
    [t.variableSecretKey, t.stateSecretKey] ++ (s.credentialKey? c).toList

/-- Those secrets are different ones. -/
structure Store.Separate (s : Store) (t : Target) (c : Configuration) : Prop where
  state : t.stateSecretKey ≠ t.variableSecretKey
  outputs : ∀ key, Target.Publishes c key → key ≠ t.variableSecretKey ∧ key ≠ t.stateSecretKey
  credentials : ∀ key, s.credentialKey? c = some key →
    key ≠ t.variableSecretKey ∧ key ≠ t.stateSecretKey ∧ ¬ Target.Publishes c key

theorem Store.credentialKey?_congr (provider : s'.get? c.providerKey = s.get? c.providerKey) :
    s'.credentialKey? c = s.credentialKey? c := by
  unfold Store.credentialKey?
  rw [read_congr provider]

theorem Store.Separate.congr {t : Target} (separate : s.Separate t c)
    (provider : s'.get? c.providerKey = s.get? c.providerKey) : s'.Separate t c where
  state := separate.state
  outputs := separate.outputs
  credentials key kept :=
    separate.credentials key ((Store.credentialKey?_congr provider).symm.trans kept)

theorem Store.separate_of_nodup {t : Target} (distinct : (s.secretKeys t c).Nodup) :
    s.Separate t c := by
  unfold Store.secretKeys at distinct
  have published : ∀ key, Target.Publishes c key →
      key ∈ (c.connectionSecret?.map fun asked => (⟨.secret, asked.1, asked.2⟩ : ObjectKey)).toList := by
    rintro key ⟨ns, name, asked, rfl⟩
    rw [asked]
    exact List.mem_singleton_self _
  obtain ⟨early, -, later⟩ := List.nodup_append.mp distinct
  obtain ⟨-, generated, apart⟩ := List.nodup_append.mp early
  refine ⟨?_, fun key asked => ?_, fun key kept => ?_⟩
  · intro same
    simp [same] at generated
  · exact ⟨apart key (published key asked) _ (by simp), apart key (published key asked) _ (by simp)⟩
  · have listed : key ∈ (s.credentialKey? c).toList := Option.mem_toList.mpr kept
    refine ⟨fun same => ?_, fun same => ?_, fun asked => ?_⟩
    · exact later _ (List.mem_append_right _ (by simp)) key listed same.symm
    · exact later _ (List.mem_append_right _ (by simp)) key listed same.symm
    · exact later key (List.mem_append_left _ (published key asked)) key listed rfl

end Provisioner
