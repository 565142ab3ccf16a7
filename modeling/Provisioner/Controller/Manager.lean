import Provisioner.Controller.Basic

/-!
# The manager

The manager runs controllers on one store until it is cancelled or one of them crashes, in which case
it cancels all others. Each controller finishes the pass it is at. The clock moves only when nobody
has anything left to do.
-/

namespace Provisioner

structure Manager where
  session : Session
  controllers : List Controller := []
  now : Nat := 0
  /-- Whether anybody has had time to run. -/
  started : Bool := false
  cancelled : Bool := false
  /-- The controller whose crash ended the manager. -/
  crashed : Option String := none
  /-- Objects that are added when their time has come. -/
  arrivals : List (Nat × Object) := []

namespace Manager

/-- The manager with one more controller, which from now on hears of changes of its kind; whoever
heard of them before is cut off. -/
def register (m : Manager) (kind : Kind) (c : Controller) : Manager :=
  let number := m.controllers.length
  let cutOff := m.session.store.listeners.get? kind
  { m with
    controllers :=
      m.controllers.mapIdx
        (fun i c => if some i = cutOff then { c with connected := false } else c) ++ [c]
    session := { m.session with store := m.session.store.register kind number } }

/-- Whether all controllers have stopped, or the manager has given up. -/
def isFinished (m : Manager) : Bool :=
  m.crashed.isSome || (m.started && m.controllers.all (·.isStopped))

def cancel (m : Manager) : Manager := { m with cancelled := true }

/-- Brings the notices that were sent to the inboxes. -/
def deliver (m : Manager) : Manager :=
  let receiveAll (i : Nat) (c : Controller) : Controller :=
    (m.session.sent.filter (·.listener = i)).foldl (fun c n => c.receive n.key) c
  { m with
    controllers := m.controllers.mapIdx receiveAll
    session := { m.session with sent := [] } }

/-- Every worker that may begin a pass does. -/
def work (m : Manager) : Manager :=
  let step (done : List Controller × Session) (c : Controller) : List Controller × Session :=
    if c.mayBegin then
      let (c, s) := c.takeUp m.now done.2
      (done.1 ++ [c], s)
    else (done.1 ++ [c], done.2)
  let (controllers, session) := m.controllers.foldl step ([], m.session)
  { m with controllers := controllers, session := session }

/-- Gives up if a controller has crashed. -/
def watch (m : Manager) : Manager :=
  match m.crashed, m.controllers.find? (·.isCrashed) with
  | none, some c => { m with crashed := some c.name, cancelled := true }
  | _, _ => m

/-- Whether somebody has something to do at this time. -/
def isActive (m : Manager) : Bool :=
  !m.session.sent.isEmpty ||
    m.controllers.any fun c =>
      c.mayBegin || (c.listening && (m.cancelled || !c.connected || !c.inbox.isEmpty))

/-- One turn of every listener and every worker. -/
def turn (m : Manager) : Manager :=
  let m := m.deliver
  watch (work { m with controllers := m.controllers.map (Controller.listen m.cancelled) })

/-- Takes turns until nobody has anything to do, or for some number of turns. -/
def settle : Nat → Manager → Manager
  | 0, m => m
  | turns + 1, m => if m.isActive then settle turns m.turn else m

/-- The next time at which something is due. -/
def nextDue? (m : Manager) : Option Nat :=
  (m.controllers.flatMap Controller.dueTimes ++ m.arrivals.map (·.1)).min?

/-- Adds an object, whatever comes of it. -/
def arrive (m : Manager) (o : Object) : Manager :=
  match o.key? with
  | some key => { m with session := m.session.write key o }
  | none => m

/-- Lets a time come: passes end, and delayed requests and objects arrive. -/
def ripen (now : Nat) (m : Manager) : Manager :=
  let m :=
    { m with now := now, controllers := m.controllers.map (Controller.ripen now) }
  let arrivals := m.arrivals.filter (·.1 ≤ now)
  let m := { m with arrivals := m.arrivals.filter fun a => !(a.1 ≤ now) }
  watch (arrivals.foldl (fun m a => m.arrive a.2) m)

/-- Runs until `stop` holds, at most until a deadline. -/
def runUntil (turns : Nat) (stop : Manager → Bool) (deadline : Option Nat) :
    Nat → Manager → Manager
  | 0, m => m
  | rounds + 1, m =>
    let m := settle turns { m with started := true }
    if stop m then m
    else
      let next := m.nextDue?.filter fun due => deadline.all (due ≤ ·)
      match next, deadline with
      | some due, _ => runUntil turns stop deadline rounds (m.ripen (max m.now due))
      | none, some time => { m with now := time }
      | none, none => m

/-- Lets some milliseconds pass; in none at all nobody gets to run. -/
def advance (limit : Nat) (m : Manager) (milliseconds : Nat) : Manager :=
  if milliseconds = 0 then m
  else runUntil limit (fun _ => false) (some (m.now + milliseconds)) limit m

/-- Cancels everything and waits for the manager to finish. -/
def stop (limit : Nat) (m : Manager) : Manager :=
  if m.isFinished then m.cancel else runUntil limit isFinished none limit m.cancel

/-- The calls that were made since they were last asked for, by controller. -/
def takeCalls (m : Manager) : List (String × List Call) × Manager :=
  (m.controllers.map fun c => (c.name, c.calls),
    { m with controllers := m.controllers.map fun c => { c with calls := [] } })

end Manager

end Provisioner
