import Provisioner.Error

/-!
# The store

Objects under their keys, and who listens to changes of which kind. Reading an object as a resource
of some type wants a key of that type's kind.
-/

namespace Provisioner

structure Store where
  items : Dict ObjectKey Object := ∅
  /-- The number of the listener for each kind that has one. -/
  listeners : Dict Kind Nat := ∅
  deriving Inhabited

namespace Store

def get? (s : Store) (key : ObjectKey) : Option Object := s.items.get? key

def contains (s : Store) (key : ObjectKey) : Bool := s.items.contains key

/-- The store in which `listener` hears of the changes of a kind, and no other listener does. -/
def register (s : Store) (kind : Kind) (listener : Nat) : Store :=
  { s with listeners := s.listeners.insert kind listener }

/-- The object under a key as a resource, if there is one. -/
def find (τ : Type) [Resource τ] (s : Store) (key : ObjectKey) : Except Error (Option τ) :=
  let mismatch := Error.kindMismatch key (Resource.kind τ)
  if key.kind = Resource.kind τ then
    match s.get? key with
    | none => .ok none
    | some o =>
      match Resource.unwrap? o with
      | some r => .ok (some r)
      | none => .error mismatch
  else .error mismatch

/-- The resource of a namespace and name. -/
def findNamed (τ : Type) [Resource τ] (s : Store) (ns name : String) : Except Error (Option τ) :=
  s.find τ ⟨Resource.kind τ, ns, name⟩

/-- All objects, in the order of their keys. -/
def objects (s : Store) : List Object := s.items.values

/-- All resources of a type, in the order of their keys. -/
def resources (τ : Type) [Resource τ] (s : Store) : List τ :=
  (s.objects.filter (·.kind = Resource.kind τ)).filterMap Resource.unwrap?

/-- Every object is stored under its own key. -/
def WellKeyed (s : Store) : Prop := ∀ key o, s.get? key = some o → o.key? = some key

end Store

end Provisioner
