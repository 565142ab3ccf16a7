import Provisioner.Proofs.PassOutcomes

/-!
Histories of a store. Anything may happen to a store in any order: objects are written, edited and
deleted, listeners register, time goes by, and passes run over configurations and providers. What
holds at every moment of every history is proved from what one act preserves.
-/

namespace Provisioner

open Reconcile

/-- What can happen to a session. An edit may not rename the resource that it edits. -/
inductive Act : Type 1
  | write (o : Object)
  | edit (τ : Type) [Resource τ] (key : ObjectKey) (f : τ → τ) (keeps : KeepsKey f)
  | delete (key : ObjectKey)
  | register (kind : Kind) (listener : Nat)
  | clock (now : Timestamp)
  | pass (request : Request)
  | providerPass (request : Request)

namespace Act

/-- Whether the act is a write that somebody else than a pass makes. -/
def isWrite : Act → Prop
  | write _ | edit _ _ _ _ => True
  | _ => False

/-- Whether the act is a pass. -/
def isPass : Act → Prop
  | pass _ | providerPass _ => True
  | _ => False

end Act

variable {s : Session} {key : ObjectKey} {settings : Settings} {resolve : Resolver}

namespace Session

/-- The session after one act. -/
def perform (settings : Settings) (resolve : Resolver) (s : Session) : Act → Session
  | .write o => ((Pass.addObject o).on s).2
  | @Act.edit _ _ key f _ => ((Pass.updateWith key f).on s).2
  | .delete key => ((Pass.delete key).on s).2
  | .register kind listener => { s with store := s.store.register kind listener }
  | .clock now => { s with now := now }
  | .pass request => ((configurationPass settings resolve request).on s).2
  | .providerPass request => ((providerPass resolve request).on s).2

/-- The session after some acts, one after the other. -/
def after (settings : Settings) (resolve : Resolver) (s : Session) (acts : List Act) : Session :=
  acts.foldl (perform settings resolve) s

@[simp] theorem after_nil : s.after settings resolve [] = s := rfl

@[simp] theorem after_cons (a : Act) (rest : List Act) :
    s.after settings resolve (a :: rest) =
      (s.perform settings resolve a).after settings resolve rest := rfl

theorem after_append (first second : List Act) :
    s.after settings resolve (first ++ second) =
      (s.after settings resolve first).after settings resolve second :=
  List.foldl_append

/-- Before each of some acts the session and the act are as they should be. -/
def Throughout (settings : Settings) (resolve : Resolver) (should : Session → Act → Prop)
    (s : Session) (acts : List Act) : Prop :=
  ∀ before a later, acts = before ++ a :: later → should (s.after settings resolve before) a

section

variable {should : Session → Act → Prop} {a : Act} {acts rest : List Act}

theorem throughout_nil : s.Throughout settings resolve should [] := by
  intro before a later split
  simp at split

theorem throughout_cons :
    s.Throughout settings resolve should (a :: rest) ↔
      should s a ∧ (s.perform settings resolve a).Throughout settings resolve should rest := by
  constructor
  · intro all
    refine ⟨all [] a rest rfl, fun before b later split => ?_⟩
    exact all (a :: before) b later (by rw [split, List.cons_append])
  · rintro ⟨first, all⟩ (_ | ⟨a', before⟩) b later split
    · cases split
      exact first
    · cases split
      exact all before b later rfl

theorem throughout_append :
    s.Throughout settings resolve should (acts ++ rest) ↔
      s.Throughout settings resolve should acts ∧
        (s.after settings resolve acts).Throughout settings resolve should rest := by
  induction acts generalizing s with
  | nil => exact ⟨fun all => ⟨throughout_nil, all⟩, And.right⟩
  | cons a acts ih =>
    rw [List.cons_append, throughout_cons, throughout_cons, ih, and_assoc, after_cons]

end

/-- Whether a check succeeds before, between and after some acts. -/
def always (settings : Settings) (resolve : Resolver) (check : Session → Bool) (s : Session) :
    List Act → Bool
  | [] => check s
  | a :: rest => check s && (s.perform settings resolve a).always settings resolve check rest

theorem always_iff {check : Session → Bool} {acts : List Act} :
    s.always settings resolve check acts = true ↔
      ∀ before later, acts = before ++ later → check (s.after settings resolve before) = true := by
  induction acts generalizing s with
  | nil =>
    refine ⟨fun checked before later split => ?_, fun checked => checked [] [] rfl⟩
    obtain ⟨rfl, rfl⟩ := List.nil_eq_append_iff.mp split
    exact checked
  | cons a rest ih =>
    rw [always, Bool.and_eq_true, ih]
    constructor
    · rintro ⟨first, checked⟩ (_ | ⟨a', before⟩) later split
      · exact first
      · cases split
        exact checked before later rfl
    · refine fun checked => ⟨checked [] _ rfl, fun before later split => ?_⟩
      exact checked (a :: before) later (by rw [split, List.cons_append])

/-- A write is made under the key of the object, if it has one. -/
theorem perform_write_cases (o : Object) :
    s.perform settings resolve (.write o) = s ∨
    ∃ key, o.key? = some key ∧ s.perform settings resolve (.write o) = s.write key o :=
  Pass.snd_addObject_cases s o

/-- An edit is made where there is a resource of its type. -/
theorem perform_edit_cases (τ : Type) [Resource τ] (key : ObjectKey) (f : τ → τ)
    (keeps : KeepsKey f) :
    s.perform settings resolve (.edit τ key f keeps) = s ∨
    s.perform settings resolve (.edit τ key f keeps) = s.edit key f :=
  Pass.snd_updateWith_cases s key f

/-! ### Keys -/

theorem wellKeyed_configurationPass (keyed : s.store.WellKeyed) (request : Request) :
    ((configurationPass settings resolve request).on s).2.store.WellKeyed := by
  cases held : s.store.read Configuration (request.key .configuration) with
  | none =>
    rw [on_configurationPass keyed, held]
    exact keyed
  | some c =>
    rcases configurationPass_cases settings resolve keyed held with
      changes | ⟨-, -, -, s₁, changes, gone⟩
    · exact changes.wellKeyed keyed
    · rw [gone]
      exact wellKeyed_letGo (changes.wellKeyed keyed)

theorem wellKeyed_providerPass (keyed : s.store.WellKeyed) (request : Request) :
    ((providerPass resolve request).on s).2.store.WellKeyed := by
  rcases providerPass_cases resolve keyed request with same | ⟨state, message, noted⟩
  · rw [same]
    exact keyed
  · rw [noted]
    exact wellKeyed_edit keyed _ (gentle_withProviderStatus state message).keepsKey

/-- Objects stay under their own keys whatever is done. -/
theorem wellKeyed_perform (keyed : s.store.WellKeyed) (a : Act) :
    (s.perform settings resolve a).store.WellKeyed := by
  cases a with
  | write o =>
    rcases perform_write_cases (s := s) o with same | ⟨key, named, written⟩
    · rw [same]
      exact keyed
    · rw [written]
      exact wellKeyed_write keyed named
  | edit τ key f keeps =>
    rcases perform_edit_cases (s := s) τ key f keeps with same | edited
    · rw [same]
      exact keyed
    · rw [edited]
      exact wellKeyed_edit keyed key keeps
  | delete key => exact wellKeyed_delete keyed key
  | register kind listener => exact keyed
  | clock now => exact keyed
  | pass request => exact wellKeyed_configurationPass keyed request
  | providerPass request => exact wellKeyed_providerPass keyed request

theorem wellKeyed_after (keyed : s.store.WellKeyed) (acts : List Act) :
    (s.after settings resolve acts).store.WellKeyed := by
  induction acts generalizing s with
  | nil => exact keyed
  | cons a rest ih => exact ih (wellKeyed_perform keyed a)

end Session

/-! ### A small store -/

/-- A session whose store holds one object. -/
def Session.holding (key : ObjectKey) (o : Object) : Session where
  store := { items := .singleton key o }
  now := ⟨0, 0⟩

theorem Session.get?_holding (key k : ObjectKey) (o : Object) :
    (holding key o).store.get? k = if k = key then some o else none :=
  Dict.get?_singleton key k o

theorem Session.wellKeyed_holding {key : ObjectKey} {o : Object} (named : o.key? = some key) :
    (holding key o).store.WellKeyed := by
  intro k p held
  rw [get?_holding] at held
  split at held
  · rename_i here
    cases held
    rw [named, here]
  · cases held

/-- A store made of objects that are listed under their own keys. -/
theorem Store.wellKeyed_ofList {l : List (ObjectKey × Object)} {listeners : Dict Kind Nat}
    (named : ∀ e ∈ l, e.2.key? = some e.1) :
    Store.WellKeyed { items := .ofList l, listeners := listeners } := by
  intro key o held
  exact named (key, o) (Dict.mem_of_get?_ofList held)

/-- A request for the configuration of the small store. -/
def Sample.request : Request := ⟨"prod", "web"⟩

/-- An active configuration with a source that declares nothing. -/
def Sample.configuration : Configuration where
  metadata :=
    { name := some "web", ns := some "prod", finalizers := some [Names.finalizer],
      generation := some 1 }
  spec := { hcl := some "# nothing" }

/-- A small store with just that configuration. -/
def Sample.session : Session :=
  .holding (Sample.request.key .configuration) (.configuration Sample.configuration)

/-- The resolver for providers that need no credentials. -/
def Sample.anonymous : Resolver := fun _ _ _ => .ok ∅

theorem Sample.wellKeyed_session : Sample.session.store.WellKeyed :=
  Session.wellKeyed_holding (by decide)

end Provisioner
