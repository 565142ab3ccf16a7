import Provisioner.Controller.Basic
import Provisioner.Proofs.History
import Provisioner.Proofs.Notices
import Provisioner.Proofs.QueueRuns

/-!
How changes become passes. A store and one controller that listens to it go on in single steps, in
any order: the store is changed by anybody, notices travel to the listener and from there into the
queue, delayed requests come due, and the worker begins and ends passes. No request is lost and none
is made up: what has come in by notices and by the results of passes has been begun or is pending.
Each step is followed once, for the number of requests that are pending for an object; the runs
follow from it by induction.
-/

namespace Provisioner

variable {kind : Kind} {n : Nat} {r r' : Request} {key : ObjectKey}

/-! ### The queue -/

namespace WorkQueue

variable {q q' : WorkQueue}

/-- How many requests for an object are in the queue or will enter it. -/
def pending (q : WorkQueue) (r : Request) : Nat :=
  q.items.count r + (q.delayed.map (·.request)).count r

@[simp] theorem pending_announce (q : WorkQueue) (r : Request) :
    q.announce.pending r = q.pending r := by
  unfold announce
  split <;> rfl

theorem pending_enter (running : q.shuttingDown = false) (r' r : Request) :
    (q.enter r').pending r = q.pending r + if r' = r then 1 else 0 := by
  unfold enter
  rw [running, if_neg Bool.false_ne_true, pending_announce]
  simp only [pending, List.count_append, List.count_singleton, beq_iff_eq]
  omega

/-- A delayed request that comes due stays pending. -/
theorem pending_enter_due (running : q.shuttingDown = false) {before after : List Delayed}
    {d : Delayed} (set : q.delayed = before ++ d :: after) (r : Request) :
    ({ q with delayed := before ++ after }.enter d.request).pending r = q.pending r := by
  refine (pending_enter (q := { q with delayed := before ++ after }) running _ r).trans ?_
  simp only [pending, set, List.map_append, List.map_cons, List.count_append, List.count_cons,
    beq_iff_eq]
  omega

theorem pending_enterAfter (running : q.shuttingDown = false) (now delay : Nat) (r' r : Request) :
    (q.enterAfter now delay r').pending r = q.pending r + if r' = r then 1 else 0 := by
  unfold enterAfter
  split
  · exact pending_enter running r' r
  · simp only [pending, List.map_append, List.map_singleton, List.count_append,
      List.count_singleton, beq_iff_eq]
    omega

@[simp] theorem shuttingDown_followUp (q : WorkQueue) (now : Nat) (r : Request) (next : FollowUp) :
    (q.followUp now r next).shuttingDown = q.shuttingDown := by
  cases next with
  | limited => exact shuttingDown_enterAfter _ _ _ _
  | after delay => exact shuttingDown_enterAfter _ _ _ _
  | forget => rfl

/-- What follows a pass is one more request for its object, unless it is forgotten. -/
theorem pending_followUp (running : q.shuttingDown = false) (now : Nat) (r' r : Request)
    (next : FollowUp) :
    (q.followUp now r' next).pending r =
      q.pending r + if r' = r ∧ next ≠ .forget then 1 else 0 := by
  cases next with
  | limited =>
    simp only [ne_eq, reduceCtorEq, not_false_eq_true, and_true, followUp, enterLimited]
    exact pending_enterAfter
      (q := { q with failures := q.failures.insert r' (min countLimit (q.requeues r' + 1)) })
      running now _ r' r
  | after delay =>
    simp only [ne_eq, reduceCtorEq, not_false_eq_true, and_true]
    exact pending_enterAfter (q := q.forget r') running now delay r' r
  | forget => simp [followUp, forget, pending]

/-- Only the failures of the pass's own object are counted anew: one more, or none. -/
theorem requeues_followUp (q : WorkQueue) (now : Nat) (r' r : Request) (next : FollowUp) :
    (q.followUp now r' next).requeues r =
      if r' = r then if next = .limited then min countLimit (q.requeues r + 1) else 0
      else q.requeues r := by
  by_cases same : r = r'
  · subst same
    cases next <;> simp [followUp, enterLimited, forget, requeues]
  · have other : ¬ r' = r := fun here => same here.symm
    cases next <;> simp [followUp, enterLimited, forget, requeues, same, other]

/-- Whoever is given nothing leaves the requests as they are. -/
theorem pending_look_of_wait {getter : Nat} (empty : q.look getter = (.wait, q')) :
    q'.pending r = q.pending r := by
  rw [(look_wait empty).2]
  rfl

end WorkQueue

/-! ### Steps -/

/-- A store, a controller that listens to it, and the time. -/
structure Dispatch where
  session : Session
  controller : Controller
  now : Nat := 0

/-- What a step is counted as. -/
inductive Mark
  | silent
  /-- What is under a key has changed, or is said to have. -/
  | changed (key : ObjectKey)
  | begun (r : Request)
  | ended (r : Request) (result : Except Error Outcome)
  | cancelled

namespace Dispatch

/-- How many requests for an object are on their way to the worker: as notices that the listener `n`
has not been given or has not taken, in the queue, or delayed. -/
def pending (x : Dispatch) (n : Nat) (r : Request) : Nat :=
  ((x.session.sent.filter (·.listener = n)).map (·.key.request)).count r +
    (x.controller.inbox.map (·.request)).count r + x.controller.queue.pending r

/-- The queue as the worker finds it when it looks again. -/
def lookedAt (x : Dispatch) : WorkQueue := { x.controller.queue with woken := [] }

/-- One step of a store and of the controller that listens to it, under the number `n`, for changes
of a kind. Anybody may change the store at any time, a pass in progress among them. -/
inductive Step (kind : Kind) (n : Nat) : Dispatch → Mark → Dispatch → Prop
  | put {x : Dispatch} (key : ObjectKey) (o : Object) :
    Step kind n x (.changed key) { x with session := x.session.put key o }
  | remove {x : Dispatch} (key : ObjectKey) :
    Step kind n x (.changed key) { x with session := x.session.remove key }
  /-- Somebody else begins to listen to another kind. -/
  | register {x : Dispatch} {k : Kind} {m : Nat} (otherKind : k ≠ kind) (other : m ≠ n) :
    Step kind n x .silent
      { x with session := { x.session with store := x.session.store.register k m } }
  /-- Jobs are handed over and the clock of the store goes on. -/
  | aside {x : Dispatch} {now : Timestamp} {triggered : List ObjectKey} :
    Step kind n x .silent { x with session := { x.session with now, triggered } }
  | tick {x : Dispatch} {now : Nat} (later : x.now ≤ now) : Step kind n x .silent { x with now }
  | deliver {x : Dispatch} {notice : Notice} {rest : List Notice}
    (first : x.session.sent = notice :: rest) :
    Step kind n x .silent
      { x with
        session := { x.session with sent := rest }
        controller :=
          if notice.listener = n then x.controller.receive notice.key else x.controller }
  | hear {x : Dispatch} {key : ObjectKey} {rest : List ObjectKey}
    (listening : x.controller.listening = true) (first : x.controller.inbox = key :: rest) :
    Step kind n x .silent
      { x with
        controller :=
          { x.controller with inbox := rest, queue := x.controller.queue.enter key.request } }
  | fire {x : Dispatch} {before after : List Delayed} {d : Delayed}
    (set : x.controller.queue.delayed = before ++ d :: after) (due : d.due ≤ x.now) :
    Step kind n x .silent
      { x with
        controller :=
          { x.controller with
            queue := { x.controller.queue with delayed := before ++ after }.enter d.request } }
  | begin {x : Dispatch} {q : WorkQueue} {r : Request} (free : x.controller.mayBegin = true)
    (given : x.lookedAt.look Controller.workerNumber = (.given (some r), q)) (endsAt : Nat)
    (result : Except Error Outcome) :
    Step kind n x (.begun r)
      { x with
        controller :=
          { x.controller with
            queue := q, begun := x.controller.begun + 1, worker := .busy r endsAt (some result) } }
  | rest {x : Dispatch} {q : WorkQueue} (free : x.controller.mayBegin = true)
    (empty : x.lookedAt.look Controller.workerNumber = (.wait, q)) :
    Step kind n x .silent { x with controller := { x.controller with queue := q } }
  | stop {x : Dispatch} {q : WorkQueue} (free : x.controller.mayBegin = true)
    (closing : x.lookedAt.look Controller.workerNumber = (.given none, q)) :
    Step kind n x .silent
      { x with controller := { x.controller with queue := q, worker := .stopped } }
  | finish {x : Dispatch} {r : Request} {endsAt : Nat} {result : Except Error Outcome}
    (busy : x.controller.worker = .busy r endsAt (some result)) :
    Step kind n x (.ended r result)
      { x with controller := x.controller.finish x.now r (some result) }
  | cancel {x : Dispatch} :
    Step kind n x .cancelled { x with controller := x.controller.listen true }

/-- A run with what its steps are counted as. -/
inductive Run (kind : Kind) (n : Nat) : Dispatch → List Mark → Dispatch → Prop
  | refl {x : Dispatch} : Run kind n x [] x
  | step {x y z : Dispatch} {log : List Mark} {l : Mark} (before : Run kind n x log y)
    (last : Step kind n y l z) : Run kind n x (log ++ [l]) z

end Dispatch

/-- A notice that is delivered changes at most what waits for the listener. -/
theorem Controller.receive_if (c : Controller) (mine : Prop) [Decidable mine] (key : ObjectKey) :
    ∃ inbox, (if mine then c.receive key else c) = { c with inbox } := by
  split
  · unfold receive
    split
    · exact ⟨_, rfl⟩
    · exact ⟨_, rfl⟩
  · exact ⟨_, rfl⟩

/-! ### Results -/

namespace Dispatch

/-- Whether a pass with this result is retried through the limiter: it has failed, or it asks to
come back and names no positive delay. -/
def rateLimited : Except Error Outcome → Bool
  | .error _ => true
  | .ok outcome => outcome.requeue && !outcome.requeueAfter.any (0 < ·)

/-- Whether a pass with this result is followed by another after a positive delay that it names. -/
def delayed : Except Error Outcome → Bool
  | .error _ => false
  | .ok outcome => outcome.requeueAfter.any (0 < ·)

end Dispatch

namespace FollowUp

open Dispatch

variable (result : Except Error Outcome)

theorem of_eq_limited_iff : of result = .limited ↔ rateLimited result = true := by
  rcases result with e | ⟨requeue, _ | _ | delay⟩
  · simp [of, rateLimited]
  all_goals cases requeue <;> simp [of, rateLimited, Option.filter]

theorem of_ne_forget_iff :
    of result ≠ .forget ↔ rateLimited result = true ∨ delayed result = true := by
  rcases result with e | ⟨requeue, _ | _ | delay⟩
  · simp [of, rateLimited]
  all_goals cases requeue <;> simp [of, rateLimited, delayed, Option.filter]

end FollowUp

/-! ### Counts -/

namespace Mark

open Dispatch (rateLimited delayed)

/-- Whether something under a key has changed, or is said to have. -/
def changes (key : ObjectKey) : Mark → Bool
  | .changed key' => key' = key
  | _ => false

/-- Whether a pass for an object has begun. -/
def begins (r : Request) : Mark → Bool
  | .begun r' => r' = r
  | _ => false

/-- Whether a pass for an object has ended that is to be followed by another. -/
def requeues (r : Request) : Mark → Bool
  | .ended r' result => r' = r && (rateLimited result || delayed result)
  | _ => false

/-- Whether a pass for an object has ended in a retry through the limiter. -/
def limits (r : Request) : Mark → Bool
  | .ended r' result => r' = r && rateLimited result
  | _ => false

/-- Whether a pass has ended the series of failures of an object. -/
def settles (r : Request) : Mark → Bool
  | .ended r' result => r' = r && !rateLimited result
  | _ => false

theorem changes_iff {key : ObjectKey} {l : Mark} : l.changes key ↔ l = .changed key := by
  cases l <;> simp [changes]

theorem begins_iff {l : Mark} : l.begins r ↔ l = .begun r := by
  cases l <;> simp [begins]

end Mark

namespace Dispatch

variable {x y z : Dispatch} {l : Mark} {log : List Mark}

/-- The notices of an object that were sent. -/
def noticed (kind : Kind) (r : Request) (log : List Mark) : Nat :=
  log.countP (·.changes (r.key kind))

/-- The requests that were made by passes that ended. -/
def requeued (r : Request) (log : List Mark) : Nat := log.countP (·.requeues r)

/-- The passes for an object that were begun. -/
def passes (r : Request) (log : List Mark) : Nat := log.countP (·.begins r)

/-- The passes for an object that ended in a retry through the limiter since its last one that did
not. -/
def failures (r : Request) (log : List Mark) : Nat :=
  (log.reverse.takeWhile (!·.settles r)).countP (·.limits r)

theorem noticed_pos_iff : 0 < noticed kind r log ↔ .changed (r.key kind) ∈ log := by
  simp [noticed, List.countP_pos_iff, Mark.changes_iff]

theorem passes_pos_iff : 0 < passes r log ↔ .begun r ∈ log := by
  simp [passes, List.countP_pos_iff, Mark.begins_iff]

/-- The controller is the one that listens to its kind, listens to nothing else, and has not been
cancelled. -/
structure Sound (kind : Kind) (n : Nat) (x : Dispatch) : Prop where
  registered : x.session.store.listeners.get? kind = some n
  alone : ∀ k, x.session.store.listeners.get? k = some n → k = kind
  connected : x.controller.connected = true
  running : x.controller.queue.shuttingDown = false

theorem Step.sound (step : Step kind n x l y) (sound : x.Sound kind n) (before : l ≠ .cancelled) :
    y.Sound kind n := by
  obtain ⟨registered, alone, connected, running⟩ := sound
  cases step with
  | put key o =>
    have same : (x.session.put key o).store.listeners = _ := (Session.Writes.put o).listeners
    exact ⟨same ▸ registered, same ▸ alone, connected, running⟩
  | remove key =>
    have same : (x.session.remove key).store.listeners = _ := Session.Writes.remove.listeners
    exact ⟨same ▸ registered, same ▸ alone, connected, running⟩
  | @register k m otherKind other =>
    refine ⟨?_, fun k' heard => ?_, connected, running⟩
    · change (x.session.store.listeners.insert k m).get? kind = some n
      rw [Dict.get?_insert, if_neg (Ne.symm otherKind), registered]
    · change (x.session.store.listeners.insert k m).get? k' = some n at heard
      rw [Dict.get?_insert] at heard
      split at heard
      · exact absurd (Option.some.inj heard) other
      · exact alone k' heard
  | aside | tick => exact ⟨registered, alone, connected, running⟩
  | @deliver notice rest first =>
    obtain ⟨inbox, same⟩ := x.controller.receive_if (notice.listener = n) notice.key
    rw [same]
    exact ⟨registered, alone, connected, running⟩
  | hear | fire =>
    exact ⟨registered, alone, connected, (WorkQueue.shuttingDown_enter _ _).trans running⟩
  | begin free given =>
    have same := WorkQueue.shuttingDown_look x.lookedAt Controller.workerNumber
    rw [given] at same
    exact ⟨registered, alone, connected, same.trans running⟩
  | rest free empty =>
    have same := WorkQueue.shuttingDown_look x.lookedAt Controller.workerNumber
    rw [empty] at same
    exact ⟨registered, alone, connected, same.trans running⟩
  | stop free closing => exact absurd ((WorkQueue.look_over closing).1.symm.trans running) nofun
  | finish =>
    exact ⟨registered, alone, connected, (WorkQueue.shuttingDown_followUp _ _ _ _).trans running⟩
  | cancel => exact absurd rfl before

/-! ### Balance -/

theorem noticed_single : noticed kind r [l] = if l.changes (r.key kind) then 1 else 0 := by
  simp [noticed, List.countP_singleton]

theorem requeued_single : requeued r [l] = if l.requeues r then 1 else 0 := by
  simp [requeued, List.countP_singleton]

theorem passes_single : passes r [l] = if l.begins r then 1 else 0 := by
  simp [passes, List.countP_singleton]

/-- What is announced of a key is pending for its object, if somebody listens to it here. -/
theorem count_announcement {store : Store} (registered : store.listeners.get? kind = some n)
    (alone : ∀ k, store.listeners.get? k = some n → k = kind) (key : ObjectKey) (r : Request) :
    (((store.announcement key).filter (·.listener = n)).map (·.key.request)).count r =
      if key = r.key kind then 1 else 0 := by
  have here : key = r.key kind ↔ key.kind = kind ∧ key.request = r := by
    cases key
    cases r
    simp [Request.key, ObjectKey.request]
  unfold Store.announcement
  cases heard : store.listeners.get? key.kind with
  | none =>
    have other : key.kind ≠ kind := by
      rintro same
      rw [same, registered] at heard
      cases heard
    simp [here, other]
  | some m =>
    by_cases mine : m = n
    · have same := alone key.kind (mine ▸ heard)
      simp [here, mine, same, List.count_singleton]
    · have other : key.kind ≠ kind := by
        rintro same
        rw [same, registered] at heard
        exact mine (Option.some.inj heard).symm
      simp [here, mine, other]

/-- A change of an object is one notice more that is pending for it, and for no other. -/
theorem balance_changed {s' : Session} (sound : x.Sound kind n)
    (sent : s'.sent = x.session.sent ++ x.session.store.announcement key) (r : Request) :
    x.pending n r + noticed kind r [.changed key] + requeued r [.changed key] =
      passes r [.changed key] + ({ x with session := s' } : Dispatch).pending n r := by
  have announced := count_announcement sound.registered sound.alone key r
  simp only [noticed_single, requeued_single, passes_single, Mark.changes, Mark.requeues,
    Mark.begins, pending, sent, List.filter_append, List.map_append, List.count_append, announced,
    decide_eq_true_eq, if_false, Bool.false_eq_true]
  omega

/-- A silent step moves requests at most. -/
theorem balance_silent (same : y.pending n r = x.pending n r) :
    x.pending n r + noticed kind r [.silent] + requeued r [.silent] =
      passes r [.silent] + y.pending n r := by
  simp [noticed_single, requeued_single, passes_single, Mark.changes, Mark.requeues, Mark.begins,
    same]

/-- Whatever the step, the requests that come in are the passes that begin and those that are
pending more than before. -/
theorem Step.balance (step : Step kind n x l y) (sound : x.Sound kind n) (before : l ≠ .cancelled)
    (r : Request) :
    x.pending n r + noticed kind r [l] + requeued r [l] = passes r [l] + y.pending n r := by
  have running := sound.running
  cases step with
  | put key o =>
    have sent : (x.session.put key o).sent = _ := Session.sent_notify _ key
    exact balance_changed sound sent r
  | remove key =>
    have sent : (x.session.remove key).sent = _ := Session.sent_notify _ key
    exact balance_changed sound sent r
  | register | aside | tick => exact balance_silent rfl
  | @deliver notice rest first =>
    refine balance_silent ?_
    unfold pending
    rw [first]
    by_cases mine : notice.listener = n
    · simp [mine, Controller.receive, sound.connected, List.count_cons, List.count_append]
      omega
    · simp [mine]
  | @hear key rest listening first =>
    refine balance_silent ?_
    simp only [pending, first, WorkQueue.pending_enter running, List.map_cons, List.count_cons,
      beq_iff_eq]
    omega
  | @fire before after d set due =>
    exact balance_silent (congrArg (_ + ·) (WorkQueue.pending_enter_due running set r))
  | @begin q r' free given endsAt result =>
    obtain ⟨-, first, left⟩ := WorkQueue.look_given given
    have first : x.controller.queue.items = r' :: q.items := first
    have delayed : q.delayed = x.controller.queue.delayed := by rw [left]; rfl
    simp only [noticed_single, requeued_single, passes_single, Mark.changes, Mark.requeues,
      Mark.begins, pending, WorkQueue.pending, first, delayed, List.count_cons, beq_iff_eq,
      decide_eq_true_eq, if_false, Bool.false_eq_true]
    omega
  | @rest q free empty =>
    refine balance_silent ?_
    have same : q.pending r = x.controller.queue.pending r :=
      WorkQueue.pending_look_of_wait (q := x.lookedAt) empty
    simp only [pending, same]
  | stop free closing => exact absurd ((WorkQueue.look_over closing).1.symm.trans running) nofun
  | @finish r' endsAt result busy =>
    simp only [noticed_single, requeued_single, passes_single, Mark.changes, Mark.requeues,
      Mark.begins, pending, Controller.finish, WorkQueue.pending_followUp running,
      FollowUp.of_ne_forget_iff, if_false, Bool.false_eq_true, Bool.and_eq_true, Bool.or_eq_true,
      decide_eq_true_eq]
    omega
  | cancel => exact absurd rfl before

/-! ### Failures -/

theorem failures_append_single (r : Request) (log : List Mark) (l : Mark) :
    failures r (log ++ [l]) =
      if l.settles r then 0 else failures r log + if l.limits r then 1 else 0 := by
  unfold failures
  rw [countP_back_append_single]
  cases l.settles r <;> rfl

/-- The queue counts the failures of an object by how the passes for it end, and by nothing else. -/
theorem Step.requeues (step : Step kind n x l y) (r : Request) :
    y.controller.queue.requeues r =
      if l.settles r then 0
      else if l.limits r then
        min WorkQueue.countLimit (x.controller.queue.requeues r + 1)
      else x.controller.queue.requeues r := by
  cases step with
  | put | remove | register | aside | tick => rfl
  | @deliver notice rest first =>
    obtain ⟨inbox, same⟩ := x.controller.receive_if (notice.listener = n) notice.key
    rw [same]
    rfl
  | hear | fire => simp [WorkQueue.requeues, Mark.settles, Mark.limits]
  | @begin q r' free given =>
    have same := WorkQueue.failures_look x.lookedAt Controller.workerNumber
    rw [given] at same
    simp [WorkQueue.requeues, Mark.settles, Mark.limits,
      show q.failures = x.controller.queue.failures from same]
  | @rest q free empty =>
    have same := WorkQueue.failures_look x.lookedAt Controller.workerNumber
    rw [empty] at same
    simp [WorkQueue.requeues, Mark.settles, Mark.limits,
      show q.failures = x.controller.queue.failures from same]
  | stop free closing =>
    rw [(WorkQueue.look_over closing).2]
    rfl
  | @finish r' endsAt result busy =>
    refine (WorkQueue.requeues_followUp _ _ r' r _).trans ?_
    by_cases same : r' = r
    · cases limited : rateLimited result <;>
        simp [Mark.settles, Mark.limits, same, FollowUp.of_eq_limited_iff, limited]
    · simp [Mark.settles, Mark.limits, same]
  | cancel =>
    unfold Controller.listen
    split <;> rfl

/-! ### Shutting down -/

/-- Once the queue is shut down it stays so, and no pass begins. -/
theorem Step.closed (step : Step kind n x l y) (closed : x.controller.queue.shuttingDown = true) :
    y.controller.queue.shuttingDown = true ∧ ∀ r, l ≠ .begun r := by
  cases step with
  | put | remove | register | aside | tick => exact ⟨closed, nofun⟩
  | @deliver notice rest first =>
    obtain ⟨inbox, same⟩ := x.controller.receive_if (notice.listener = n) notice.key
    rw [same]
    exact ⟨closed, nofun⟩
  | hear | fire => exact ⟨(WorkQueue.shuttingDown_enter _ _).trans closed, nofun⟩
  | begin free given => exact absurd ((WorkQueue.look_given given).1.symm.trans closed) nofun
  | rest free empty =>
    have same := WorkQueue.shuttingDown_look x.lookedAt Controller.workerNumber
    rw [empty] at same
    exact ⟨same.trans closed, nofun⟩
  | stop free closing =>
    rw [(WorkQueue.look_over closing).2]
    exact ⟨closed, nofun⟩
  | finish => exact ⟨(WorkQueue.shuttingDown_followUp _ _ _ _).trans closed, nofun⟩
  | cancel =>
    refine ⟨?_, nofun⟩
    unfold Controller.listen
    split
    · exact closed
    · rfl

/-! ### Runs -/

theorem noticed_append (r : Request) (first second : List Mark) :
    noticed kind r (first ++ second) = noticed kind r first + noticed kind r second :=
  List.countP_append

theorem requeued_append (r : Request) (first second : List Mark) :
    requeued r (first ++ second) = requeued r first + requeued r second := List.countP_append

theorem passes_append (r : Request) (first second : List Mark) :
    passes r (first ++ second) = passes r first + passes r second := List.countP_append

namespace Run

theorem sound (run : Run kind n x log y) (sound : x.Sound kind n) (before : .cancelled ∉ log) :
    y.Sound kind n := by
  induction run with
  | refl => exact sound
  | step first last ih =>
    rw [List.mem_append, List.mem_singleton, not_or] at before
    exact last.sound (ih before.1) (Ne.symm before.2)

/-- Before it is cancelled, whatever comes in during a run is begun or pending at the end. -/
theorem balance (run : Run kind n x log y) (sound : x.Sound kind n) (before : .cancelled ∉ log)
    (r : Request) :
    x.pending n r + noticed kind r log + requeued r log = passes r log + y.pending n r := by
  induction run with
  | refl => simp [noticed, requeued, passes]
  | step first last ih =>
    rw [List.mem_append, List.mem_singleton, not_or] at before
    have one := last.balance (first.sound sound before.1) (Ne.symm before.2) r
    have rest := ih before.1
    rw [noticed_append, requeued_append, passes_append]
    omega

theorem requeues (run : Run kind n x log y) (r : Request)
    (none : x.controller.queue.requeues r = 0) :
    y.controller.queue.requeues r = min WorkQueue.countLimit (failures r log) := by
  induction run with
  | refl => simp [failures, none]
  | step first last ih =>
    rw [last.requeues, failures_append_single, ih]
    split
    · rfl
    · split <;> omega

theorem closed (run : Run kind n x log y) (closed : x.controller.queue.shuttingDown = true) :
    y.controller.queue.shuttingDown = true ∧ ∀ r, .begun r ∉ log := by
  induction run with
  | refl => exact ⟨closed, fun _ => List.not_mem_nil⟩
  | step first last ih =>
    obtain ⟨closed, never⟩ := ih
    obtain ⟨closed, next⟩ := last.closed closed
    refine ⟨closed, fun r listed => ?_⟩
    rcases List.mem_append.mp listed with earlier | now
    · exact never r earlier
    · exact next r (List.mem_singleton.mp now).symm

end Run

/-- Nothing is under a key afterwards but what was there before, unless the step is counted as a
change of it. -/
theorem Step.changed (step : Step kind n x l y)
    (differs : y.session.store.get? key ≠ x.session.store.get? key) : l = .changed key := by
  cases step with
  | put k o =>
    by_cases same : key = k
    · rw [same]
    · exact absurd ((Session.Writes.put o).get?_of_ne same) differs
  | remove k =>
    by_cases same : key = k
    · rw [same]
    · exact absurd (Session.Writes.remove.get?_of_ne same) differs
  | _ => exact absurd rfl differs

/-- A controller that was just made listens to a kind, alone and to nothing else, and has heard of
nothing yet. -/
structure Fresh (kind : Kind) (n : Nat) (x : Dispatch) : Prop where
  registered : x.session.store.listeners.get? kind = some n
  alone : ∀ k, x.session.store.listeners.get? k = some n → k = kind
  unsent : ∀ notice ∈ x.session.sent, notice.listener ≠ n
  made : x.controller =
    { name := x.controller.name, reconciler := x.controller.reconciler }

namespace Fresh

theorem sound (fresh : Fresh kind n x) : x.Sound kind n where
  registered := fresh.registered
  alone := fresh.alone
  connected := by rw [fresh.made]
  running := by rw [fresh.made]

theorem pending (fresh : Fresh kind n x) (r : Request) : x.pending n r = 0 := by
  have none : x.session.sent.filter (·.listener = n) = [] :=
    List.filter_eq_nil_iff.mpr fun notice listed => by simpa using fresh.unsent notice listed
  unfold Dispatch.pending WorkQueue.pending
  rw [none, fresh.made]
  rfl

theorem requeues (fresh : Fresh kind n x) (r : Request) :
    x.controller.queue.requeues r = 0 := by
  rw [fresh.made]
  rfl

end Fresh

/-- No request is lost and none is made up. In every run of a new controller before it is cancelled,
the notices sent of an object and the requests made by passes that ended are as many as the passes
begun and the requests pending; so a pass has begun since the last change of an object for which
nothing is pending. The failures of an object are counted by the results of the passes for it alone,
as far as a word of 32 bits goes. And once the queue is shut down no pass begins. -/
theorem requests_conserved (kind : Kind) (n : Nat) (x y : Dispatch) (log : List Mark) (r : Request)
    (fresh : Fresh kind n x) (run : Run kind n x log y) :
    (.cancelled ∉ log →
      noticed kind r log + requeued r log = passes r log + y.pending n r ∧
      ∀ u v before l after, log = before ++ l :: after → Run kind n x before u →
        Step kind n u l v → Run kind n v after y →
        v.session.store.get? (r.key kind) ≠ u.session.store.get? (r.key kind) →
        y.pending n r = 0 → .begun r ∈ after) ∧
    y.controller.queue.requeues r = min 4294967295 (failures r log) ∧
    (y.controller.queue.shuttingDown = true →
      ∀ later z, Run kind n y later z → .begun r ∉ later) := by
  refine ⟨fun before => ⟨?_, fun u v earlier l later split first change second differs none => ?_⟩,
    run.requeues r (fresh.requeues r), fun closed later z second => (second.closed closed).2 r⟩
  · have balance := run.balance fresh.sound before r
    rw [fresh.pending r, Nat.zero_add] at balance
    exact balance
  · subst split
    simp only [List.mem_append, List.mem_cons, not_or] at before
    have sound := first.sound fresh.sound before.1
    have one := change.balance sound (Ne.symm before.2.1) r
    have rest := second.balance (change.sound sound (Ne.symm before.2.1)) before.2.2 r
    rw [change.changed differs, noticed_single, if_pos (Mark.changes_iff.mpr rfl)] at one
    have begun : passes r [.changed (r.key kind)] = 0 := rfl
    exact passes_pos_iff.mp (by omega)

/-! ### Waking -/

/-- Only the worker waits at the queue, and only while there is nothing to take. -/
def Attentive (q : WorkQueue) : Prop :=
  q.waiting = [] ∨ q.waiting = [Controller.workerNumber] ∧ q.items = []

theorem attentive_enter {q : WorkQueue} (attentive : Attentive q) (r : Request) :
    Attentive (q.enter r) := by
  unfold WorkQueue.enter WorkQueue.announce
  rcases attentive with none | ⟨one, empty⟩
  · split
    · exact .inl none
    · simp only [none]
      exact .inl rfl
  · split
    · exact .inr ⟨one, empty⟩
    · simp only [one]
      exact .inl rfl

theorem attentive_enterAfter {q : WorkQueue} (attentive : Attentive q) (now delay : Nat)
    (r : Request) : Attentive (q.enterAfter now delay r) := by
  unfold WorkQueue.enterAfter
  split
  · exact attentive_enter attentive r
  · exact attentive

theorem attentive_followUp {q : WorkQueue} (attentive : Attentive q) (now : Nat) (r : Request)
    (next : FollowUp) : Attentive (q.followUp now r next) := by
  cases next with
  | limited => exact attentive_enterAfter (by exact attentive) _ _ _
  | after delay => exact attentive_enterAfter (by exact attentive) _ _ _
  | forget => exact attentive

/-- A worker that may begin does not wait. -/
theorem not_waiting_of_mayBegin {c : Controller} (attentive : Attentive c.queue)
    (free : c.mayBegin = true) : c.queue.waiting = [] := by
  rcases attentive with none | ⟨one, -⟩
  · exact none
  · unfold Controller.mayBegin at free
    rw [one] at free
    simp at free

theorem Step.attentive (step : Step kind n x l y) (attentive : Attentive x.controller.queue) :
    Attentive y.controller.queue := by
  cases step with
  | put | remove | register | aside | tick => exact attentive
  | @deliver notice rest first =>
    obtain ⟨inbox, same⟩ := x.controller.receive_if (notice.listener = n) notice.key
    rw [same]
    exact attentive
  | hear => exact attentive_enter attentive _
  | fire => exact attentive_enter (by exact attentive) _
  | begin free given =>
    have none := not_waiting_of_mayBegin attentive free
    obtain ⟨-, -, left⟩ := WorkQueue.look_given given
    rw [left]
    exact .inl none
  | rest free empty =>
    have none := not_waiting_of_mayBegin attentive free
    obtain ⟨listed, left⟩ := WorkQueue.look_wait empty
    rw [left]
    refine .inr ⟨?_, listed⟩
    change x.controller.queue.waiting ++ _ = _
    rw [none]
    rfl
  | stop free closing =>
    rw [(WorkQueue.look_over closing).2]
    exact attentive
  | finish => exact attentive_followUp attentive _ _ _
  | cancel =>
    unfold Controller.listen
    split
    · exact attentive
    · exact .inl rfl

theorem Run.attentive (run : Run kind n x log y) (attentive : Attentive x.controller.queue) :
    Attentive y.controller.queue := by
  induction run with
  | refl => exact attentive
  | step _ last ih => exact last.attentive ih

/-- No wake-up is lost: before the queue is shut down, a free worker may begin a pass for whatever
is first in the queue. -/
theorem Run.begins_next {rest : List Request} (run : Run kind n x log y) (fresh : Fresh kind n x)
    (running : y.controller.queue.shuttingDown = false) (free : y.controller.worker = .free)
    (first : y.controller.queue.items = r :: rest) : ∃ z, Step kind n y (.begun r) z := by
  have attentive : Attentive y.controller.queue :=
    run.attentive (by rw [fresh.made]; exact .inl rfl)
  have awake : y.controller.mayBegin = true := by
    rcases attentive with none | ⟨-, empty⟩
    · simp [Controller.mayBegin, free, none]
    · rw [first] at empty
      cases empty
  refine ⟨_, .begin awake (q := { y.lookedAt with items := rest }) ?_ 0 (.ok .done)⟩
  simp [WorkQueue.look, lookedAt, running, first]

/-! ### Service -/

/-- A pass that is counted was begun by the controller. -/
theorem Step.begun (step : Step kind n x l y) (r : Request) :
    x.controller.begun + passes r [l] ≤ y.controller.begun := by
  rw [passes_single]
  cases step with
  | put | remove | register | aside | tick | hear | fire | rest | stop | finish =>
    exact Nat.le_refl _
  | @deliver notice rest first =>
    obtain ⟨inbox, same⟩ := x.controller.receive_if (notice.listener = n) notice.key
    rw [same]
    exact Nat.le_refl _
  | begin free given =>
    dsimp only
    split <;> omega
  | cancel =>
    have none : Mark.begins r .cancelled = false := rfl
    rw [none, if_neg Bool.false_ne_true]
    unfold Controller.listen
    split <;> exact Nat.le_refl _

/-- As long as the queue is not shut down, a listener that listened goes on listening, and was not
cancelled. -/
theorem Step.uncancelled (step : Step kind n x l y) (listening : x.controller.listening = true)
    (running : y.controller.queue.shuttingDown = false) :
    l ≠ .cancelled ∧ y.controller.listening = true := by
  cases step with
  | put | remove | register | aside | tick | hear | fire | begin | rest | stop | finish =>
    exact ⟨nofun, listening⟩
  | @deliver notice rest first =>
    obtain ⟨inbox, same⟩ := x.controller.receive_if (notice.listener = n) notice.key
    rw [same]
    exact ⟨nofun, listening⟩
  | cancel =>
    unfold Controller.listen at running
    simp [listening, WorkQueue.shutDown] at running

namespace Run

theorem begun (run : Run kind n x log y) (r : Request) :
    x.controller.begun + passes r log ≤ y.controller.begun := by
  induction run with
  | refl => exact Nat.le_refl _
  | step _ last ih =>
    have one := last.begun r
    rw [passes_append]
    omega

theorem uncancelled (run : Run kind n x log y) (listening : x.controller.listening = true)
    (running : y.controller.queue.shuttingDown = false) :
    .cancelled ∉ log ∧ y.controller.listening = true := by
  induction run with
  | refl => exact ⟨List.not_mem_nil, listening⟩
  | step first last ih =>
    obtain ⟨before, listening⟩ := ih <| Bool.eq_false_iff.mpr fun closed =>
      nomatch (last.closed closed).1.symm.trans running
    obtain ⟨now, listening⟩ := last.uncancelled listening running
    refine ⟨fun listed => ?_, listening⟩
    rcases List.mem_append.mp listed with earlier | here
    · exact before earlier
    · exact now (List.mem_singleton.mp here).symm

theorem changed (run : Run kind n x log y)
    (differs : y.session.store.get? key ≠ x.session.store.get? key) : .changed key ∈ log := by
  induction run with
  | refl => exact absurd rfl differs
  | @step y z log l first last ih =>
    by_cases same : z.session.store.get? key = y.session.store.get? key
    · exact List.mem_append_left _ (ih (same ▸ differs))
    · exact List.mem_append_right _ (List.mem_singleton.mpr (last.changed same).symm)

/-- Where nothing is pending for an object that has changed, a pass has begun in the meantime. -/
theorem serves (run : Run kind n x log y) (sound : x.Sound kind n)
    (listening : x.controller.listening = true)
    (running : y.controller.queue.shuttingDown = false)
    (differs : y.session.store.get? (r.key kind) ≠ x.session.store.get? (r.key kind))
    (settled : y.pending n r = 0) : x.controller.begun < y.controller.begun := by
  have balance := run.balance sound (run.uncancelled listening running).1 r
  have noticed : 0 < noticed kind r log := noticed_pos_iff.mpr (run.changed differs)
  have begun := run.begun r
  omega

end Run

end Dispatch

namespace Sample

/-- A store without objects, and a new controller that listens to its configurations. -/
def listening : Dispatch where
  session := { store := { items := ∅, listeners := .singleton .configuration 0 }, now := ⟨0, 0⟩ }
  controller := { name := "configurations", reconciler := .ofPass fun _ => pure .done }

/-- The marks of a run in which the configuration is stored, the listener hears of it, and a pass
for it begins and fails. -/
def failedOnce : List Mark :=
  [.changed (Sample.request.key .configuration), .silent, .silent, .begun Sample.request,
    .ended Sample.request (.error (.noName .job))]

theorem fails_once : ∃ y, Dispatch.Run .configuration 0 listening failedOnce y ∧
    y.pending 0 Sample.request = 1 ∧ y.controller.queue.requeues Sample.request = 1 := by
  refine ⟨_, ((((Dispatch.Run.refl.step
    (.put (Sample.request.key .configuration) (.configuration configuration))).step
    (.deliver rfl)).step (.hear rfl rfl)).step (.begin (r := Sample.request) rfl rfl 0
      (.error (.noName .job)))).step (.finish rfl), ?_⟩
  decide +kernel

theorem fresh_listening : listening.Fresh .configuration 0 where
  registered := rfl
  alone k heard := by cases k <;> first | rfl | exact absurd heard nofun
  unsent := nofun
  made := rfl

end Sample

/-- After a failure its retry is pending: the notice and the requeue are one pass more than was
begun. -/
theorem requests_conserved_sample :
    Sample.listening.Fresh .configuration 0 ∧
    ∃ y, Dispatch.Run .configuration 0 Sample.listening Sample.failedOnce y ∧
      Dispatch.noticed .configuration Sample.request Sample.failedOnce +
          Dispatch.requeued Sample.request Sample.failedOnce =
        Dispatch.passes Sample.request Sample.failedOnce + 1 ∧
      y.pending 0 Sample.request = 1 ∧ y.controller.queue.requeues Sample.request = 1 := by
  obtain ⟨y, run, pending, requeues⟩ := Sample.fails_once
  have conserved := Dispatch.requests_conserved .configuration 0 Sample.listening y
    Sample.failedOnce Sample.request Sample.fresh_listening run
  have balance := (conserved.1 (by simp [Sample.failedOnce])).1
  exact ⟨Sample.fresh_listening, y, run, pending ▸ balance, pending, requeues⟩

end Provisioner
