import Provisioner.Dict
import Provisioner.ObjectKey

/-!
# The work queue

Requests come out of the queue in the order in which they entered it; equal requests are kept apart.
A request that failed enters again after a delay that doubles with every failure in a row, up to a
limit. Whoever asks an empty queue waits: an arrival wakes the one who has waited longest, or is
remembered if nobody waits. One who is woken looks again and may find that the request was taken by
somebody else. Once the queue is shut down nothing enters, and everyone is told so.

Times are in milliseconds.
-/

namespace Provisioner

/-- A request that enters a queue when its time has come. -/
structure Delayed where
  due : Nat
  request : Request
  deriving DecidableEq, Repr

structure WorkQueue where
  /-- The delay after a first failure. -/
  baseDelay : Nat := 5
  /-- The greatest delay. -/
  maxDelay : Nat := 1000000
  items : List Request := []
  delayed : List Delayed := []
  /-- The failures of a request since it was last forgotten. -/
  failures : Dict Request Nat := ∅
  shuttingDown : Bool := false
  /-- Whether a request has entered of which nobody has been told. -/
  unannounced : Bool := false
  /-- The getters that wait, the one who has waited longest first. -/
  waiting : List Nat := []
  /-- The getters that were woken and have not looked again. -/
  woken : List Nat := []
  deriving Inhabited

namespace WorkQueue

/-- The greatest number of failures that is counted. -/
def countLimit : Nat := 0xFFFFFFFF

/-- The delay after a number of earlier failures. -/
def backoff (base max failures : Nat) : Nat :=
  min max (base * if failures < 32 then 1 <<< failures else countLimit)

/-- Tells the getter who has waited longest of an arrival. -/
def announce (q : WorkQueue) : WorkQueue :=
  match q.waiting with
  | [] => { q with unannounced := true }
  | g :: rest => { q with waiting := rest, woken := q.woken ++ [g] }

/-- Takes a request in, unless the queue is shut down. -/
def enter (q : WorkQueue) (r : Request) : WorkQueue :=
  if q.shuttingDown then q else announce { q with items := q.items ++ [r] }

/-- Takes a request in after a delay. -/
def enterAfter (q : WorkQueue) (now delay : Nat) (r : Request) : WorkQueue :=
  if delay = 0 then q.enter r else { q with delayed := q.delayed ++ [⟨now + delay, r⟩] }

def requeues (q : WorkQueue) (r : Request) : Nat := (q.failures.get? r).getD 0

/-- Counts a failure of a request and takes it in after the delay for it. -/
def enterLimited (q : WorkQueue) (now : Nat) (r : Request) : WorkQueue :=
  let n := q.requeues r
  let q := { q with failures := q.failures.insert r (min countLimit (n + 1)) }
  q.enterAfter now (backoff q.baseDelay q.maxDelay n) r

/-- Counts the failures of a request from none again. -/
def forget (q : WorkQueue) (r : Request) : WorkQueue := { q with failures := q.failures.erase r }

/-- Refuses all new requests and wakes everyone. -/
def shutDown (q : WorkQueue) : WorkQueue :=
  { q with shuttingDown := true, waiting := [], woken := q.woken ++ q.waiting }

/-- What a getter finds: it has to wait, or it is given a request, or it is told that there will be
none. -/
inductive Look
  | wait
  | given (r : Option Request)
  deriving DecidableEq, Repr

/-- A getter looks into the queue. -/
def look (q : WorkQueue) (getter : Nat) : Look × WorkQueue :=
  if q.shuttingDown then (.given none, q)
  else
    match q.items with
    | r :: rest => (.given (some r), { q with items := rest })
    | [] => (.wait, { q with unannounced := false, waiting := q.waiting ++ [getter] })

/-- A getter gives up; if it had been woken, the next one is woken in its place. -/
def abandon (q : WorkQueue) (getter : Nat) : WorkQueue :=
  if q.woken.contains getter then
    let q := { q with woken := q.woken.erase getter }
    if q.shuttingDown then q else q.announce
  else { q with waiting := q.waiting.erase getter }

/-- The time when the next delayed request is due. -/
def nextDue? (q : WorkQueue) : Option Nat := (q.delayed.map (·.due)).min?

/-- Takes in the delayed requests whose time has come. -/
def ripen (q : WorkQueue) (now : Nat) : WorkQueue :=
  let due := q.delayed.filter (·.due ≤ now)
  let later := q.delayed.filter fun d => !(d.due ≤ now)
  due.foldl (fun q d => q.enter d.request) { q with delayed := later }

end WorkQueue

end Provisioner
