import Provisioner.Store.Basic

/-!
# Writing to the store

A session is a store together with what has been done to it: the notices that were sent and the jobs
that were handed over. A write that would not change the written form of an object does nothing; any
other sends one notice to the listener of the object's kind. The times of creation and deletion
outlast every write, and the generation grows by one when the specification changes.
-/

namespace Provisioner

/-- A message to a listener that the object under a key has changed. -/
structure Notice where
  listener : Nat
  key : ObjectKey
  deriving DecidableEq, Repr

structure Session where
  store : Store
  now : Timestamp
  sent : List Notice := []
  triggered : List ObjectKey := []
  deriving Inhabited

/-- What is done to a session; a failure keeps what was done before it. -/
abbrev Pass := ExceptT Error (StateM Session)

/-- What became of a request to delete. -/
inductive Deletion
  | removed
  | deferred
  | notFound
  deriving DecidableEq, Repr

def Deletion.name : Deletion → String
  | .removed => "Removed"
  | .deferred => "Deferred"
  | .notFound => "NotFound"

namespace Object

/-- The generation after `n`, in 64 bits. -/
def nextGeneration (n : Int) : Int := (n + 1).bmod 0x10000000000000000

/-- The object as it is stored where nothing was stored before. -/
def asNew (now : Timestamp) (o : Object) : Object :=
  o.withMetadata
    { o.metadata with
      generation := some (o.metadata.generation.getD 1)
      creationTimestamp := some (o.metadata.creationTimestamp.getD now) }

/-- The object with what it takes over from the one stored before it. -/
def takingOver (previous o : Object) : Object :=
  o.withMetadata
    { o.metadata with
      generation := some (previous.metadata.generation.getD 1)
      creationTimestamp := o.metadata.creationTimestamp <|> previous.metadata.creationTimestamp
      deletionTimestamp := previous.metadata.deletionTimestamp <|> o.metadata.deletionTimestamp }

/-- The object with the generation after its own. -/
def advanced (o : Object) : Object :=
  o.withMetadata
    { o.metadata with generation := some (nextGeneration (o.metadata.generation.getD 1)) }

/-- What is stored when `o` is written over `previous`; none if that would change nothing. -/
def replacing (previous o : Object) : Option Object :=
  let o := previous.takingOver o
  if o.same previous then none
  else if o.sameSpec previous then some o
  else some o.advanced

end Object

namespace Session

/-- Sends a notice to the listener of a key's kind, if there is one. -/
def notify (s : Session) (key : ObjectKey) : Session :=
  match s.store.listeners.get? key.kind with
  | some listener => { s with sent := s.sent ++ [⟨listener, key⟩] }
  | none => s

def setItems (s : Session) (items : Dict ObjectKey Object) : Session :=
  { s with store := { s.store with items := items } }

/-- Stores an object under a key. -/
def put (s : Session) (key : ObjectKey) (o : Object) : Session :=
  (s.setItems (s.store.items.insert key o)).notify key

/-- Takes the object under a key out of the store. -/
def remove (s : Session) (key : ObjectKey) : Session :=
  (s.setItems (s.store.items.erase key)).notify key

/-- Writes an object under a key, unless that would change nothing. -/
def write (s : Session) (key : ObjectKey) (o : Object) : Session :=
  match s.store.get? key with
  | none => s.put key (o.asNew s.now)
  | some previous =>
    match previous.replacing o with
    | none => s
    | some o => s.put key o

/-- The object marked as waiting to go, since now or since it was first marked. -/
def marked (s : Session) (o : Object) : Object :=
  o.withMetadata
    { o.metadata with deletionTimestamp := o.metadata.deletionTimestamp <|> some s.now }

/-- Removes the object under a key, or marks it while finalizers hold it. -/
def delete (s : Session) (key : ObjectKey) : Deletion × Session :=
  match s.store.get? key with
  | none => (.notFound, s)
  | some o =>
    if o.hasFinalizers then (.deferred, s.put key (s.marked o)) else (.removed, s.remove key)

end Session

namespace Pass

/-- What a question to the store answers. -/
def ask {α : Type} (question : Store → Except Error α) : Pass α := do
  match question (← getThe Session).store with
  | .ok a => return a
  | .error e => throw e

/-- The key of an object, which needs a name. -/
def keyOf (o : Object) : Pass ObjectKey :=
  match o.key? with
  | some key => pure key
  | none => throw (.noName o.kind)

def find (τ : Type) [Resource τ] (key : ObjectKey) : Pass (Option τ) := ask fun s => s.find τ key

def findNamed (τ : Type) [Resource τ] (ns name : String) : Pass (Option τ) :=
  ask fun s => s.findNamed τ ns name

/-- Writes an object under its own key. -/
def addObject (o : Object) : Pass ObjectKey := do
  let key ← keyOf o
  modifyThe Session fun s => s.write key o
  return key

def add {τ : Type} [Resource τ] (r : τ) : Pass ObjectKey := addObject (Resource.wrap r)

def update {τ : Type} [Resource τ] (r : τ) : Pass Unit := do
  let _ ← add r

/-- Writes what `f` makes of the resource under a key; what is then stored, none if there was no
resource. -/
def updateWith {τ : Type} [Resource τ] (key : ObjectKey) (f : τ → τ) : Pass (Option τ) := do
  match ← find τ key with
  | none => return none
  | some r =>
    modifyThe Session fun s => s.write key (Resource.wrap (f r))
    return ((← getThe Session).store.get? key).bind Resource.unwrap?

def delete (key : ObjectKey) : Pass Deletion := modifyGetThe Session fun s => s.delete key

/-- The outcome of a pass whose failure is of no consequence. -/
def attempt {α : Type} (p : Pass α) : Pass Unit :=
  tryCatchThe Error (discard p) fun _ => pure ()

end Pass

end Provisioner
