import Provisioner.Queue.Basic

/-!
# Getters under a clock

A queue with getters that run beside their caller. The clock moves only when everyone waits, and then
to the next time at which something is due; whoever is woken at a time has looked again before the
caller goes on.
-/

namespace Provisioner

structure Schedule where
  now : Nat := 0
  queue : WorkQueue := {}
  /-- What the getters that are done were given. -/
  answers : List (Nat × Option Request) := []
  deriving Inhabited

namespace Schedule

def answer? (s : Schedule) (getter : Nat) : Option (Option Request) :=
  (s.answers.find? (·.1 = getter)).map (·.2)

/-- A getter looks into the queue, and is done if it is given something. -/
def look (s : Schedule) (getter : Nat) : Schedule :=
  match s.queue.look getter with
  | (.wait, q) => { s with queue := q }
  | (.given r, q) => { s with queue := q, answers := s.answers ++ [(getter, r)] }

/-- Everyone who was woken looks again. -/
def settle (s : Schedule) : Schedule :=
  s.queue.woken.foldl look { s with queue := { s.queue with woken := [] } }

/-- Lets time pass until `stop` holds, at most until a deadline; `rounds` bounds how often something
comes due. -/
def runUntil (stop : Schedule → Bool) (deadline : Nat) : Nat → Schedule → Schedule
  | 0, s => s.settle
  | rounds + 1, s =>
    let s := s.settle
    if stop s then s
    else
      match s.queue.nextDue? with
      | some due =>
        if due ≤ deadline then
          let now := max s.now due
          runUntil stop deadline rounds { s with now := now, queue := s.queue.ripen now }
        else { s with now := deadline }
      | none => { s with now := deadline }

/-- Waits for `stop`, at most some milliseconds; no time at all lets nobody else run. -/
def wait (s : Schedule) (stop : Schedule → Bool) (milliseconds : Nat) : Schedule :=
  if milliseconds = 0 then s
  else s.runUntil stop (s.now + milliseconds) (s.queue.delayed.length + 1)

def advance (s : Schedule) (milliseconds : Nat) : Schedule :=
  s.wait (fun _ => false) milliseconds

/-- Starts a getter and lets it look. -/
def spawn (s : Schedule) (getter : Nat) : Schedule :=
  advance { s with queue := { s.queue with woken := s.queue.woken ++ [getter] } } 1

/-- Waits for a getter to be done. -/
def join (s : Schedule) (getter milliseconds : Nat) : Option (Option Request) × Schedule :=
  let isDone (s : Schedule) : Bool := (s.answer? getter).isSome
  let s := if isDone s then s else s.wait isDone milliseconds
  (s.answer? getter, s)

/-- Asks the queue, as a getter whose number nobody else has; gives up after some milliseconds. -/
def get (s : Schedule) (getter milliseconds : Nat) : Option (Option Request) × Schedule :=
  let (answer, s) := join (s.look getter) getter milliseconds
  match answer with
  | some r => (some r, { s with answers := s.answers.filter (·.1 ≠ getter) })
  | none => (none, { s with queue := s.queue.abandon getter })

end Schedule

end Provisioner
