import Provisioner.Proofs.History

/-!
The destroy gate. Once a pass has seen a configuration active, the configuration stays until a pass
lets it go, and a pass does that only to a configuration that waits to go with no finalizer but that
of this library, when its resources are to be kept, or there are none, or the destroy job of an
earlier pass has succeeded on the very inputs that this pass finds. The invariant is that the
finalizer is in place; every act keeps it except such a pass.
-/

namespace Provisioner

open Reconcile

variable {s : Session} {key : ObjectKey} {request : Request} {settings : Settings}
  {resolve : Resolver} {c : Configuration}

namespace Store

/-- The configuration is there and the finalizer of this library holds it. -/
def HoldsBack (s : Store) (request : Request) : Prop :=
  ∃ c, s.get? (request.key .configuration) = some (.configuration c) ∧ hasOwnFinalizer c = true

/-- The configuration is there and active, so that a pass would apply it. -/
def HasActive (s : Store) (request : Request) : Prop :=
  ∃ c, s.get? (request.key .configuration) = some (.configuration c) ∧
    c.metadata.lifecycle = .active

theorem HoldsBack.congr {s s' : Store} (held : s.HoldsBack request)
    (same : s'.get? (request.key .configuration) = s.get? (request.key .configuration)) :
    s'.HoldsBack request := by
  obtain ⟨c, found, own⟩ := held
  exact ⟨c, same.trans found, own⟩

end Store

/-- A pass at this moment lets the configuration go. -/
def Session.LetsGo (settings : Settings) (resolve : Resolver) (s : Session) (request : Request) :
    Prop :=
  ∃ c, s.store.get? (request.key .configuration) = some (.configuration c) ∧
    c.metadata.lifecycle = .terminating ∧ hasOwnFinalizer c = true ∧ MayGo settings resolve c s

theorem hasFinalizers_of_own (own : hasOwnFinalizer c = true) :
    c.metadata.hasFinalizers = true := by
  unfold Metadata.hasFinalizers
  cases listed : c.metadata.finalizerList with
  | nil => simp [hasOwnFinalizer, listed] at own
  | cons => rfl

namespace Session

/-! ### Deletions -/

/-- A deletion only marks a configuration that is held. -/
theorem holdsBack_delete (held : s.store.get? (request.key .configuration) =
      some (.configuration c)) (own : hasOwnFinalizer c = true) (key : ObjectKey) :
    ∃ c', (s.delete key).2.store.get? (request.key .configuration) = some (.configuration c') ∧
      hasOwnFinalizer c' = true ∧
      (key = request.key .configuration → c'.metadata.lifecycle = .terminating) := by
  by_cases here : request.key .configuration = key
  · subst here
    exact ⟨_, get?_delete_held held (hasFinalizers_of_own own), own,
      fun _ => lifecycle_marked s (.configuration c)⟩
  · exact ⟨c, (get?_delete_of_ne s here).trans held, own, fun there => absurd there.symm here⟩

/-! ### One act -/

/-- Every act keeps a held configuration, except for a pass that lets it go. -/
theorem holdsBack_perform (keyed : s.store.WellKeyed) (held : s.store.HoldsBack request) (a : Act)
    (spared : a.isWrite → (s.perform settings resolve a).store.HoldsBack request) :
    (s.perform settings resolve a).store.HoldsBack request ∨
      a = .pass request ∧ s.LetsGo settings resolve request := by
  obtain ⟨c, found, own⟩ := held
  cases a with
  | write o => exact .inl (spared trivial)
  | edit τ key f keeps => exact .inl (spared trivial)
  | delete key =>
    obtain ⟨c', found', own', -⟩ := holdsBack_delete found own key
    exact .inl ⟨c', found', own'⟩
  | register kind listener => exact .inl ⟨c, found, own⟩
  | clock now => exact .inl ⟨c, found, own⟩
  | providerPass other =>
    exact .inl ⟨c, (get?_providerPass keyed (by nofun)).trans found, own⟩
  | pass other =>
    by_cases here : other = request
    · subst here
      have read : s.store.read Configuration (other.key .configuration) = some c :=
        Store.read_eq_some_iff.mpr found
      rcases configurationPass_cases settings resolve keyed read with
        changes | ⟨lifecycle, own, mayGo, -⟩
      · have target : (Target.of settings c).key = other.key .configuration :=
          Target.key_of (keyed.placed read)
        obtain ⟨c', found', continues⟩ :=
          changes.configuration Target.Touches.apart (target ▸ read)
        rw [target] at found'
        exact .inl ⟨c', Store.read_eq_some_iff.mp found', continues.held own⟩
      · exact .inr ⟨rfl, c, found, lifecycle, own, mayGo⟩
    · have elsewhere : request.key .configuration ≠ other.key .configuration :=
        fun same => here (Request.key_injective same).symm
      exact .inl ⟨c, (get?_configurationPass_of_kind keyed elsewhere (.inl rfl)).trans found, own⟩

/-- A pass over an active configuration leaves it held. -/
theorem holdsBack_pass (keyed : s.store.WellKeyed) (active : s.store.HasActive request) :
    (s.perform settings resolve (.pass request)).store.HoldsBack request := by
  obtain ⟨c, found, lifecycle⟩ := active
  have read : s.store.read Configuration (request.key .configuration) = some c :=
    Store.read_eq_some_iff.mpr found
  have placed := keyed.placed read
  have here : (Target.of settings c).key = request.key .configuration := Target.key_of placed
  obtain ⟨c', found', -, own⟩ := held_apply (t := .of settings c) settings resolve keyed
    (here ▸ placed) (here ▸ read)
  refine ⟨c', ?_, own⟩
  change ((configurationPass settings resolve request).on s).2.store.get? _ = _
  rw [on_activePass keyed read lifecycle]
  exact Store.read_eq_some_iff.mp (here ▸ found')

/-- A held configuration stays held until a pass lets it go. -/
theorem holdsBack_after (keyed : s.store.WellKeyed) (held : s.store.HoldsBack request)
    (acts : List Act)
    (spared : s.Throughout settings resolve (fun s a => a.isWrite → s.store.HoldsBack request →
      (s.perform settings resolve a).store.HoldsBack request) acts) :
    (s.after settings resolve acts).store.HoldsBack request ∨
      ∃ before later, acts = before ++ .pass request :: later ∧
        (s.after settings resolve before).LetsGo settings resolve request := by
  induction acts generalizing s with
  | nil => exact .inl held
  | cons a rest ih =>
    obtain ⟨first, spared⟩ := throughout_cons.mp spared
    rcases holdsBack_perform keyed held a fun write => first write held with still | ⟨rfl, goes⟩
    · rcases ih (wellKeyed_perform keyed a) still spared with held' | ⟨before, later, split, goes⟩
      · exact .inl held'
      · exact .inr ⟨a :: before, later, by rw [split, List.cons_append], goes⟩
    · exact .inr ⟨[], rest, rfl, goes⟩

/-! ### Removal -/

/-- What held of a configuration when a pass that started from `s` removed it and left `s'`, and
what has become of everything that was generated for it. -/
structure Removal (settings : Settings) (resolve : Resolver) (c : Configuration) (s s' : Session) :
    Prop where
  terminating : c.metadata.lifecycle = .terminating
  held : c.metadata.finalizerList ≠ []
  alone : ∀ f ∈ c.metadata.finalizerList, f = Names.finalizer
  reason : MayGo settings resolve c s
  generated : ∀ key ∈ generatedKeys (.of settings c), s'.store.Vacated key
  connection : ∀ ns name, c.connectionSecret? = some (ns, name) →
    s'.store.Vacated ⟨.secret, ns, name⟩ ∨
    ∃ secret, s'.store.get? ⟨.secret, ns, name⟩ = some (.secret secret) ∧
      (Outputs.otherOwner? secret (.of settings c)).isSome

/-- Only a pass over the configuration itself removes it, and only for one of its reasons. -/
theorem removal_of_pass (keyed : s.store.WellKeyed)
    (found : s.store.get? (request.key .configuration) = some (.configuration c)) {a : Act}
    (isPass : a.isPass)
    (gone : (s.perform settings resolve a).store.get? (request.key .configuration) = none) :
    a = .pass request ∧
      Removal settings resolve c s (s.perform settings resolve a) := by
  cases a with
  | write | edit | delete | register | clock => exact isPass.elim
  | providerPass other =>
    have same : (s.perform settings resolve (.providerPass other)).store.get?
        (request.key .configuration) = _ := get?_providerPass keyed (by nofun)
    rw [same, found] at gone
    cases gone
  | pass other =>
    by_cases here : other = request
    · subst here
      refine ⟨rfl, ?_⟩
      have read : s.store.read Configuration (other.key .configuration) = some c :=
        Store.read_eq_some_iff.mpr found
      have target : (Target.of settings c).key = other.key .configuration :=
        Target.key_of (keyed.placed read)
      rcases configurationPass_cases settings resolve keyed read with
        changes | ⟨terminating, own, mayGo, s₁, changes, left⟩ <;>
        obtain ⟨c₁, read₁, continues⟩ := changes.configuration Target.Touches.apart (target ▸ read)
      · rw [target] at read₁
        have stays : ((configurationPass settings resolve other).on s).2.store.get?
            (other.key .configuration) = some (.configuration c₁) := Store.read_eq_some_iff.mp read₁
        exact absurd (stays.symm.trans gone) nofun
      · have finalizers : c₁.metadata.finalizerList = c.metadata.finalizerList := by
          unfold Metadata.finalizerList
          rw [continues.finalizers own]
        have left' : s.perform settings resolve (.pass other) = s₁.letGo (.of settings c) c := left
        rw [left'] at gone ⊢
        rcases letGo_cases (c := c) read₁ with ⟨alone, -⟩ | ⟨-, c₂, found₂, -⟩
        · refine ⟨terminating, fun none => ?_, finalizers ▸ alone, mayGo, fun key generated =>
            vacated_letGo generated, fun ns name asked =>
            connection_letGo (changes.wellKeyed keyed) asked⟩
          simp [hasOwnFinalizer, none] at own
        · rw [target, gone] at found₂
          cases found₂
    · have elsewhere : request.key .configuration ≠ other.key .configuration :=
        fun same => here (Request.key_injective same).symm
      have same : (s.perform settings resolve (.pass other)).store.get?
          (request.key .configuration) = _ := get?_configurationPass_of_kind keyed elsewhere (.inl rfl)
      rw [same, found] at gone
      cases gone

end Session

/-! ### Histories -/

/-- Nobody takes the finalizer of this library off a configuration that a pass has seen active. -/
def Spared (settings : Settings) (resolve : Resolver) (s : Session) (request : Request)
    (acts : List Act) : Prop :=
  ∀ before seen a later, acts = before ++ .pass request :: (seen ++ a :: later) → a.isWrite →
    (s.after settings resolve before).store.HasActive request →
    (s.after settings resolve (before ++ .pass request :: seen)).store.HoldsBack request →
    (s.after settings resolve (before ++ .pass request :: (seen ++ [a]))).store.HoldsBack request

/-- The destroy gate, at every moment of every history that starts from objects under their own keys
and in which the finalizer is spared: a deletion of a configuration that is held only marks it; a
pass that removes a configuration is a pass over it and has a reason to; and from the first pass that
sees it active on, a configuration is held until a pass lets it go. -/
theorem destroy_gate (settings : Settings) (resolve : Resolver) (s : Session) (request : Request)
    (acts : List Act) (keyed : s.store.WellKeyed)
    (spared : Spared settings resolve s request acts) :
    (∀ before a later c, acts = before ++ a :: later →
      (s.after settings resolve before).store.get? (request.key .configuration) =
        some (.configuration c) →
      (∀ key, a = .delete key → hasOwnFinalizer c = true →
        ∃ c', ((s.after settings resolve before).perform settings resolve a).store.get?
            (request.key .configuration) = some (.configuration c') ∧
          hasOwnFinalizer c' = true ∧
          (key = request.key .configuration → c'.metadata.lifecycle = .terminating)) ∧
      (a.isPass →
        ((s.after settings resolve before).perform settings resolve a).store.get?
            (request.key .configuration) = none →
        a = .pass request ∧
          Session.Removal settings resolve c (s.after settings resolve before)
            ((s.after settings resolve before).perform settings resolve a))) ∧
    (∀ before later, acts = before ++ .pass request :: later →
      (s.after settings resolve before).store.HasActive request →
      (s.after settings resolve acts).store.HoldsBack request ∨
        ∃ between rest, later = between ++ .pass request :: rest ∧
          (s.after settings resolve (before ++ .pass request :: between)).LetsGo
            settings resolve request) := by
  refine ⟨fun before a later c _ found => ⟨?_, ?_⟩, fun before later split active => ?_⟩
  · rintro key rfl own
    exact Session.holdsBack_delete found own key
  · exact fun isPass gone => Session.removal_of_pass (Session.wellKeyed_after keyed before) found
      isPass gone
  · have keyed' : (s.after settings resolve before).store.WellKeyed :=
      Session.wellKeyed_after keyed before
    have held : ((s.after settings resolve before).perform settings resolve
        (.pass request)).store.HoldsBack request := Session.holdsBack_pass keyed' active
    have kept : ∀ seen a rest, later = seen ++ a :: rest → a.isWrite → _ → _ :=
      fun seen a rest split' write => spared before seen a rest (by rw [split, split']) write active
    simp only [Session.after_append, Session.after_cons, Session.after_nil] at kept
    rcases Session.holdsBack_after (Session.wellKeyed_perform keyed' _) held later kept with
      still | ⟨between, rest, split', goes⟩
    · rw [split, Session.after_append]
      exact .inl still
    · refine .inr ⟨between, rest, split', ?_⟩
      rw [Session.after_append]
      exact goes

namespace Sample

/-- Somebody asks for something else while the configuration is held, and then deletes it. -/
def revised : List Act :=
  [.edit Configuration (Sample.request.key .configuration)
     (fun c => { c with spec := { c.spec with hcl := some "# other" } }) fun _ => ⟨rfl, rfl⟩,
   .delete (Sample.request.key .configuration)]

/-- The edit leaves the finalizer where it is. -/
theorem spared_revised :
    Spared {} Provider.resolve session Sample.request (.pass Sample.request :: revised) := by
  intro before seen a later split write _ _
  cases before with
  | cons first rest =>
    -- The only pass of the history is its first act.
    have listed : Act.pass Sample.request ∈ revised := by
      rw [(List.cons_eq_cons.mp split).2]
      exact List.mem_append_right _ List.mem_cons_self
    simp [revised] at listed
  | nil =>
    rw [List.nil_append, List.cons_eq_cons, and_iff_right rfl] at split
    match seen with
    | [] =>
      cases split
      obtain ⟨c, read, own⟩ : ∃ c,
          (session.after {} Provider.resolve (.pass Sample.request :: revised.take 1)).store.read
            Configuration (Sample.request.key .configuration) = some c ∧ hasOwnFinalizer c = true := by
        refine Option.map_eq_some_iff.mp ?_
        decide +kernel
      exact ⟨c, Store.read_eq_some_iff.mp read, own⟩
    | [_] =>
      cases split
      exact write.elim
    | _ :: _ :: _ => simp [revised] at split

end Sample

/-- A pass over an active configuration, an edit and a deletion leave the configuration of the small
store held, unless a pass lets it go. -/
theorem destroy_gate_sample :
    Sample.session.store.WellKeyed ∧
    Spared {} Provider.resolve Sample.session Sample.request
      (.pass Sample.request :: Sample.revised) ∧
    Sample.session.store.HasActive Sample.request ∧
    ((Sample.session.after {} Provider.resolve
        (.pass Sample.request :: Sample.revised)).store.HoldsBack Sample.request ∨
      ∃ between rest, Sample.revised = between ++ .pass Sample.request :: rest ∧
        (Sample.session.after {} Provider.resolve (.pass Sample.request :: between)).LetsGo
          {} Provider.resolve Sample.request) := by
  have active : Sample.session.store.HasActive Sample.request :=
    ⟨Sample.configuration, by simp [Sample.session, Session.get?_holding], rfl⟩
  refine ⟨Sample.wellKeyed_session, Sample.spared_revised, active, ?_⟩
  exact (destroy_gate {} Provider.resolve Sample.session Sample.request _
    Sample.wellKeyed_session Sample.spared_revised).2 [] _ rfl active

end Provisioner
