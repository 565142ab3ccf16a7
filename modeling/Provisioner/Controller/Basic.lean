import Provisioner.Queue.Basic
import Provisioner.Reconcile.Outcome
import Provisioner.Store.Write

/-!
# Controllers

A controller turns notices of changes of one kind into passes over the objects that changed. Notices
come in through an inbox, a listener moves them to the work queue, and one worker takes requests from
the queue and makes a pass for each. What follows a pass depends on its result alone: a failure and a
plain wish to come back are retried with growing delays, a wish to come back after a delay is met
exactly, and anything else ends the series of failures.
-/

namespace Provisioner

/-- How a pass went: how long it took, and its result; none if it crashed. -/
structure Visit where
  takes : Nat := 0
  result : Option (Except Error Outcome)

/-- Makes a pass for a request; it is told how many passes were made before. -/
abbrev Reconciler := Nat → Request → Session → Visit × Session

/-- The reconciler whose every pass is done at once. -/
def Reconciler.ofPass (pass : Request → Pass Outcome) : Reconciler := fun _ r s =>
  let (result, s) := (pass r).run s
  ({ result := some result }, s)

/-- What becomes of a request after a pass for it. -/
inductive FollowUp
  | limited
  | after (delay : Nat)
  | forget
  deriving DecidableEq, Repr

def FollowUp.of : Except Error Outcome → FollowUp
  | .error _ => .limited
  | .ok outcome =>
    match outcome.requeueAfter.filter (· ≠ 0) with
    | some delay => .after delay
    | none => if outcome.requeue then .limited else .forget

/-- The queue after a pass at some time. -/
def WorkQueue.followUp (q : WorkQueue) (now : Nat) (r : Request) : FollowUp → WorkQueue
  | .limited => q.enterLimited now r
  | .after delay => (q.forget r).enterAfter now delay r
  | .forget => q.forget r

/-- A pass that has been made. -/
structure Call where
  request : Request
  time : Nat
  result : Except Error Outcome

/-- What the worker of a controller is at. -/
inductive Worker
  | free
  /-- Working on a pass that ends at a time. -/
  | busy (request : Request) (endsAt : Nat) (result : Option (Except Error Outcome))
  | stopped
  | crashed

structure Controller where
  name : String
  reconciler : Reconciler
  /-- Notices that the listener has not taken yet. -/
  inbox : List ObjectKey := []
  /-- Whether notices can still come. -/
  connected : Bool := true
  listening : Bool := true
  queue : WorkQueue := {}
  worker : Worker := .free
  /-- The passes that were begun. -/
  begun : Nat := 0
  /-- The passes that were made, since they were last asked for. -/
  calls : List Call := []

namespace Controller

/-- The number under which the worker waits at the queue. -/
def workerNumber : Nat := 0

def isStopped (c : Controller) : Bool := c.worker matches .stopped

def isCrashed (c : Controller) : Bool := c.worker matches .crashed

/-- Whether the worker would find the queue changed since it last looked. -/
def mayBegin (c : Controller) : Bool :=
  (c.worker matches .free) && !c.queue.waiting.contains workerNumber

def receive (c : Controller) (key : ObjectKey) : Controller :=
  if c.connected then { c with inbox := c.inbox ++ [key] } else c

/-- The listener takes in what has come, or stops and shuts the queue down. -/
def listen (cancelled : Bool) (c : Controller) : Controller :=
  if !c.listening then c
  else if cancelled then { c with listening := false, queue := c.queue.shutDown }
  else
    let queue := c.inbox.foldl (fun q key => q.enter key.request) c.queue
    if c.connected then { c with inbox := [], queue := queue }
    else { c with inbox := [], listening := false, queue := queue.shutDown }

/-- The pass for a request has ended. -/
def finish (now : Nat) (r : Request) (result : Option (Except Error Outcome)) (c : Controller) :
    Controller :=
  match result with
  | none => { c with worker := .crashed }
  | some result =>
    { c with
      worker := .free
      calls := c.calls ++ [⟨r, now, result⟩]
      queue := c.queue.followUp now r (.of result) }

/-- The worker looks into the queue and begins a pass if it is given a request. A pass that takes no
time has ended as well. -/
def takeUp (now : Nat) (c : Controller) (s : Session) : Controller × Session :=
  let queue := { c.queue with woken := [] }
  match queue.look workerNumber with
  | (.wait, q) => ({ c with queue := q }, s)
  | (.given none, q) => ({ c with queue := q, worker := .stopped }, s)
  | (.given (some r), q) =>
    let (visit, s) := c.reconciler c.begun r s
    let c := { c with queue := q, begun := c.begun + 1 }
    if visit.takes = 0 then (c.finish now r visit.result, s)
    else ({ c with worker := .busy r (now + visit.takes) visit.result }, s)

/-- Ends the pass in progress if its time has come, and takes in requests that are due. -/
def ripen (now : Nat) (c : Controller) : Controller :=
  let c := { c with queue := c.queue.ripen now }
  match c.worker with
  | .busy r endsAt result => if endsAt ≤ now then c.finish now r result else c
  | _ => c

/-- The times at which something will be due. -/
def dueTimes (c : Controller) : List Nat :=
  let pass := match c.worker with
    | .busy _ endsAt _ => [endsAt]
    | _ => []
  pass ++ c.queue.delayed.map (·.due)

end Controller

end Provisioner
