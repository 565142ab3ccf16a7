import Provisioner.Queue.Schedule

/-!
A queue under everybody who uses it, in any order: requests are handed in at once, after a delay or
after the delay for their failures; delayed requests come due; getters ask, wait, are woken, look
again and give up; and in the end the queue is shut down. What the getters were given, followed by
what is still in the queue, is what has entered, in the order in which it entered. An arrival wakes
one getter, who may find that the request was taken by somebody else; so what has to be shown is
that whenever somebody waits, as many were woken as there are requests. It holds for any number of
getters, in particular for those that give up after they were woken.
-/

namespace Provisioner

/-- How often something of a kind was done since a run of the log last stopped going on. -/
theorem countP_back_append_single {α : Type} (goesOn p : α → Bool) (last : α) (log : List α) :
    ((log ++ [last]).reverse.takeWhile goesOn).countP p =
      if goesOn last then (log.reverse.takeWhile goesOn).countP p + if p last then 1 else 0
      else 0 := by
  rw [List.reverse_append, List.reverse_singleton, List.singleton_append, List.takeWhile_cons]
  cases goesOn last with
  | true => simp [List.countP_cons]
  | false => rfl

theorem count_back_append_single {α : Type} [DecidableEq α] (goesOn : α → Bool) (a last : α)
    (log : List α) :
    ((log ++ [last]).reverse.takeWhile goesOn).count a =
      if goesOn last then (log.reverse.takeWhile goesOn).count a + if last = a then 1 else 0
      else 0 := by
  simpa [List.count] using countP_back_append_single goesOn (· == a) last log

namespace WorkQueue

variable {q q' : WorkQueue} {r : Request} {g : Nat}

/-! ### Operations -/

@[simp] theorem shuttingDown_announce (q : WorkQueue) :
    q.announce.shuttingDown = q.shuttingDown := by
  unfold announce
  split <;> rfl

@[simp] theorem failures_announce (q : WorkQueue) : q.announce.failures = q.failures := by
  unfold announce
  split <;> rfl

@[simp] theorem items_announce (q : WorkQueue) : q.announce.items = q.items := by
  unfold announce
  split <;> rfl

@[simp] theorem delayed_announce (q : WorkQueue) : q.announce.delayed = q.delayed := by
  unfold announce
  split <;> rfl

@[simp] theorem shuttingDown_enter (q : WorkQueue) (r : Request) :
    (q.enter r).shuttingDown = q.shuttingDown := by
  unfold enter
  split
  · rfl
  · rw [shuttingDown_announce]

@[simp] theorem failures_enter (q : WorkQueue) (r : Request) :
    (q.enter r).failures = q.failures := by
  unfold enter
  split
  · rfl
  · rw [failures_announce]

/-- A request that enters is the last, and nothing enters a queue that is shut down. -/
theorem items_enter (q : WorkQueue) (r : Request) :
    (q.enter r).items = q.items ++ if q.shuttingDown then [] else [r] := by
  unfold enter
  split
  · rw [List.append_nil]
  · rw [items_announce]

theorem enter_of_closed (closed : q.shuttingDown = true) (r : Request) : q.enter r = q :=
  if_pos closed

/-- A request that enters does so whatever is delayed. -/
theorem enter_withDelayed (q : WorkQueue) (delayed : List Delayed) (r : Request) :
    enter { q with delayed } r = { q.enter r with delayed } := by
  unfold enter announce
  split
  · rfl
  · dsimp only
    split <;> rfl

@[simp] theorem delayed_enter (q : WorkQueue) (r : Request) : (q.enter r).delayed = q.delayed := by
  unfold enter
  split
  · rfl
  · rw [delayed_announce]

@[simp] theorem shuttingDown_enterAfter (q : WorkQueue) (now delay : Nat) (r : Request) :
    (q.enterAfter now delay r).shuttingDown = q.shuttingDown := by
  unfold enterAfter
  split
  · exact shuttingDown_enter q r
  · rfl

@[simp] theorem failures_enterAfter (q : WorkQueue) (now delay : Nat) (r : Request) :
    (q.enterAfter now delay r).failures = q.failures := by
  unfold enterAfter
  split
  · exact failures_enter q r
  · rfl

theorem woken_enterAfter (closed : q.shuttingDown = true) (now delay : Nat) (r : Request) :
    (q.enterAfter now delay r).woken = q.woken := by
  unfold enterAfter
  split
  · rw [enter_of_closed closed]
  · rfl

@[simp] theorem shuttingDown_look (q : WorkQueue) (getter : Nat) :
    (q.look getter).2.shuttingDown = q.shuttingDown := by
  unfold look
  split
  · rfl
  · split <;> rfl

@[simp] theorem failures_look (q : WorkQueue) (getter : Nat) :
    (q.look getter).2.failures = q.failures := by
  unfold look
  split
  · rfl
  · split <;> rfl

@[simp] theorem delayed_look (q : WorkQueue) (g : Nat) : (q.look g).2.delayed = q.delayed := by
  unfold look
  split
  · rfl
  · split <;> rfl

@[simp] theorem woken_look (q : WorkQueue) (g : Nat) : (q.look g).2.woken = q.woken := by
  unfold look
  split
  · rfl
  · split <;> rfl

/-- A look makes nobody else wait. -/
theorem mem_waiting_look {h : Nat} (waits : h ∈ (q.look g).2.waiting) : h ∈ q.waiting ∨ h = g := by
  unfold look at waits
  split at waits
  · exact .inl waits
  · split at waits
    · exact .inl waits
    · simpa using waits

theorem look_of_closed (closed : q.shuttingDown = true) (g : Nat) :
    q.look g = (.given none, q) := if_pos closed

theorem look_over {getter : Nat} (closing : q.look getter = (.given none, q')) :
    q.shuttingDown = true ∧ q' = q := by
  unfold look at closing
  split at closing
  · rename_i closed
    cases closing
    exact ⟨closed, rfl⟩
  · split at closing <;> cases closing

/-- Whoever is given a request takes the first one out. -/
theorem look_given {getter : Nat} (given : q.look getter = (.given (some r), q')) :
    q.shuttingDown = false ∧ q.items = r :: q'.items ∧ q' = { q with items := q'.items } := by
  unfold look at given
  split at given
  · cases given
  · rename_i running
    split at given
    · rename_i first rest listed
      cases given
      exact ⟨by simpa using running, listed, rfl⟩
    · cases given

/-- Whoever has to wait has found nothing, and is the last in line. -/
theorem look_wait (empty : q.look g = (.wait, q')) :
    q.items = [] ∧ q' = { q with unannounced := false, waiting := q.waiting ++ [g] } := by
  unfold look at empty
  split at empty
  · cases empty
  · split at empty <;> cases empty
    exact ⟨by assumption, rfl⟩

/-- A look leaves alone who else was woken. -/
theorem look_withWoken (q : WorkQueue) (woken : List Nat) (g : Nat) :
    look { q with woken } g = ((q.look g).1, { (q.look g).2 with woken }) := by
  unfold look
  split
  · rfl
  · dsimp only
    split <;> rfl

/-- The request that was found. -/
def Look.gives : Look → List Request
  | .given (some r) => [r]
  | _ => []

/-- What is given is what was first. -/
theorem items_look (q : WorkQueue) (g : Nat) :
    (q.look g).1.gives ++ (q.look g).2.items = q.items := by
  unfold look
  split
  · rfl
  · split <;> simp [Look.gives, *]

@[simp] theorem shuttingDown_abandon (q : WorkQueue) (g : Nat) :
    (q.abandon g).shuttingDown = q.shuttingDown := by
  unfold abandon
  split
  · dsimp only
    split
    · rfl
    · rw [shuttingDown_announce]
  · rfl

@[simp] theorem items_abandon (q : WorkQueue) (g : Nat) : (q.abandon g).items = q.items := by
  unfold abandon
  split
  · dsimp only
    split
    · rfl
    · rw [items_announce]
  · rfl

@[simp] theorem delayed_abandon (q : WorkQueue) (g : Nat) :
    (q.abandon g).delayed = q.delayed := by
  unfold abandon
  split
  · dsimp only
    split
    · rfl
    · rw [delayed_announce]
  · rfl

/-- Whatever is kept when one delayed request after the other comes due is kept when all do that
are. -/
theorem ripen_induction {P : WorkQueue → Prop} {now : Nat}
    (fire : ∀ (q : WorkQueue) before (d : Delayed) after, q.delayed = before ++ d :: after →
      d.due ≤ now → P q → P (enter { q with delayed := before ++ after } d.request))
    (start : P q) : P (q.ripen now) := by
  have all (rest kept : List Delayed) (q : WorkQueue) (set : q.delayed = kept ++ rest)
      (holds : P q) : P ((rest.filter (·.due ≤ now)).foldl (fun q d => q.enter d.request)
        { q with delayed := kept ++ rest.filter fun d => !(d.due ≤ now) }) := by
    induction rest generalizing q kept with
    | nil =>
      have same : { q with delayed := kept ++ [] } = q := by rw [← set]
      simpa only [List.filter_nil, List.foldl_nil, same] using holds
    | cons d rest ih =>
      by_cases due : d.due ≤ now
      · have fired := ih kept (enter { q with delayed := kept ++ rest } d.request)
          (delayed_enter _ _) (fire q kept d rest set due holds)
        simpa [due, enter_withDelayed] using fired
      · simpa [due] using ih (kept ++ [d]) q (by rw [set, List.append_assoc]; rfl) holds
  exact all q.delayed [] q rfl start

/-! ### Events and steps -/

/-- What happens at a queue. -/
inductive Event
  /-- A request is handed in, to enter after a delay. -/
  | handed (now delay : Nat) (r : Request)
  | forgotten (r : Request)
  /-- The time of a delayed request has come. -/
  | ripe (now : Nat) (d : Delayed)
  | passed
  /-- A getter looks for the first time. -/
  | asked (getter : Nat) (found : Look)
  /-- A getter that was woken looks again. -/
  | resumed (getter : Nat) (found : Look)
  | gaveUp (getter : Nat)
  | closed
  deriving DecidableEq

namespace Event

/-- The request that enters with an event. -/
def enters : Event → List Request
  | .handed _ delay r => if delay = 0 then [r] else []
  | .ripe _ d => [d.request]
  | _ => []

/-- The request that a getter is given. -/
def gives : Event → List Request
  | .asked _ found | .resumed _ found => found.gives
  | _ => []

/-- The request that is put off. -/
def delays : Event → List Delayed
  | .handed now delay r => if delay = 0 then [] else [⟨now + delay, r⟩]
  | _ => []

/-- The request whose delay is over. -/
def ripens : Event → List Delayed
  | .ripe _ d => [d]
  | _ => []

/-- What a getter found, if one looked. -/
def found? : Event → Option Look
  | .asked _ found | .resumed _ found => some found
  | _ => none

end Event

/-- The requests that entered before the queue was shut down. -/
def entered (log : List Event) : List Request := (log.takeWhile (· ≠ .closed)).flatMap Event.enters

/-- The requests that getters were given. -/
def given (log : List Event) : List Request := log.flatMap Event.gives

/-- The requests that were put off. -/
def putOff (log : List Event) : List Delayed := log.flatMap Event.delays

/-- The requests whose delays were over. -/
def ripened (log : List Event) : List Delayed := log.flatMap Event.ripens

/-- A queue at a time. -/
structure Moment where
  now : Nat
  queue : WorkQueue

/-- One step of a queue and of all who use it. Who is woken looks again at any later time, and a
delayed request enters at any time after it has come due. -/
inductive Step : Moment → Event → Moment → Prop
  | add {x : Moment} (r : Request) :
    Step x (.handed x.now 0 r) { x with queue := x.queue.enter r }
  | addAfter {x : Moment} (delay : Nat) (r : Request) :
    Step x (.handed x.now delay r) { x with queue := x.queue.enterAfter x.now delay r }
  | addLimited {x : Moment} (r : Request) :
    Step x
      (.handed x.now (backoff x.queue.baseDelay x.queue.maxDelay (x.queue.requeues r)) r)
      { x with queue := x.queue.enterLimited x.now r }
  | forget {x : Moment} (r : Request) :
    Step x (.forgotten r) { x with queue := x.queue.forget r }
  | fire {x : Moment} {before after : List Delayed} {d : Delayed}
    (set : x.queue.delayed = before ++ d :: after) (due : d.due ≤ x.now) :
    Step x (.ripe x.now d)
      { x with queue := { x.queue with delayed := before ++ after }.enter d.request }
  | pass {x : Moment} {now : Nat} (later : x.now ≤ now) : Step x .passed { x with now }
  | ask {x : Moment} {g : Nat} (idle : g ∉ x.queue.waiting) (unwoken : g ∉ x.queue.woken) :
    Step x (.asked g (x.queue.look g).1) { x with queue := (x.queue.look g).2 }
  | resume {x : Moment} {g : Nat} (woken : g ∈ x.queue.woken) :
    Step x (.resumed g (look { x.queue with woken := x.queue.woken.erase g } g).1)
      { x with queue := (look { x.queue with woken := x.queue.woken.erase g } g).2 }
  | giveUp {x : Moment} {g : Nat} (blocked : g ∈ x.queue.waiting ∨ g ∈ x.queue.woken) :
    Step x (.gaveUp g) { x with queue := x.queue.abandon g }
  | close {x : Moment} : Step x .closed { x with queue := x.queue.shutDown }

/-- A run with what happened in it. -/
inductive Run : Moment → List Event → Moment → Prop
  | refl {x : Moment} : Run x [] x
  | step {x y z : Moment} {log : List Event} {e : Event} (before : Run x log y)
    (last : Step y e z) : Run x (log ++ [e]) z

variable {x y z : Moment} {e : Event} {log : List Event}

/-! ### Order -/

theorem Step.shuttingDown (step : Step x e y) :
    y.queue.shuttingDown = (x.queue.shuttingDown || e = .closed) := by
  cases step with
  | close => simp [shutDown]
  | _ => simp [enterLimited, WorkQueue.forget]

/-- What is given was the first in the queue, and what enters is the last; nothing enters once the
queue is shut down. -/
theorem Step.items (step : Step x e y) :
    e.gives ++ y.queue.items = x.queue.items ++ if x.queue.shuttingDown then [] else e.enters := by
  cases step with
  | add r => exact items_enter _ r
  | addAfter delay r =>
    simp only [Event.gives, Event.enters, enterAfter, List.nil_append]
    split
    · exact items_enter _ r
    · simp
  | addLimited r =>
    simp only [Event.gives, Event.enters, enterLimited, enterAfter, List.nil_append]
    split
    · exact items_enter _ r
    · simp
  | @fire before after d set due => exact items_enter _ d.request
  | @ask g idle unwoken =>
    simpa [Event.gives, Event.enters] using items_look x.queue g
  | @resume g woken =>
    simpa [Event.gives, Event.enters] using
      items_look { x.queue with woken := x.queue.woken.erase g } g
  | _ => simp [Event.gives, Event.enters, WorkQueue.forget, shutDown]

theorem Run.shuttingDown (run : Run x log y) (running : x.queue.shuttingDown = false) :
    y.queue.shuttingDown = decide (.closed ∈ log) := by
  induction run with
  | refl => simpa using running
  | step _ last ih => simp [last.shuttingDown, ih, eq_comm]

theorem entered_append_single (log : List Event) (e : Event) :
    entered (log ++ [e]) = entered log ++ if .closed ∈ log then [] else e.enters := by
  induction log with
  | nil =>
    by_cases closing : e = .closed
    · subst closing
      rfl
    · simp [entered, closing]
  | cons first rest ih =>
    by_cases closing : first = .closed
    · simp [entered, closing]
    · have open' : Event.closed ≠ first := Ne.symm closing
      simp only [entered, List.cons_append, List.takeWhile_cons_of_pos, closing, ne_eq,
        not_false_eq_true, decide_true, List.flatMap_cons, List.append_assoc, List.mem_cons, open',
        false_or] at ih ⊢
      rw [ih]

/-- Everything that has entered was given to somebody or is still in the queue, in its order. -/
theorem Run.given_append_items (run : Run x log y) (running : x.queue.shuttingDown = false)
    (empty : x.queue.items = []) : given log ++ y.queue.items = entered log := by
  induction run with
  | refl => simp [given, entered, empty]
  | @step y z log e first last ih =>
    calc given (log ++ [e]) ++ z.queue.items
        = given log ++ (e.gives ++ z.queue.items) := by simp [given]
      _ = entered log ++ if .closed ∈ log then [] else e.enters := by
        rw [last.items, ← List.append_assoc, ih, first.shuttingDown running]
        simp only [decide_eq_true_eq]
      _ = entered (log ++ [e]) := (entered_append_single log e).symm

/-! ### Delays -/

theorem delayed_enterAfter (q : WorkQueue) (now delay : Nat) (r : Request) :
    (q.enterAfter now delay r).delayed = q.delayed ++ (Event.handed now delay r).delays := by
  dsimp only [enterAfter, Event.delays]
  split
  · rw [delayed_enter, List.append_nil]
  · rfl

/-- A request is put off, or one whose delay is over is put off no longer. -/
theorem Step.delayed (step : Step x e y) :
    (x.queue.delayed ++ e.delays).Perm (e.ripens ++ y.queue.delayed) := by
  cases step with
  | add r => simp [Event.delays, Event.ripens, delayed_enter]
  | addAfter delay r => exact .of_eq (delayed_enterAfter x.queue x.now delay r).symm
  | addLimited r => exact .of_eq (delayed_enterAfter
      { x.queue with failures := x.queue.failures.insert r _ } x.now _ r).symm
  | @fire before after d set due =>
    simp only [Event.delays, Event.ripens, delayed_enter, set, List.append_nil]
    exact List.perm_middle
  | _ => simp [Event.delays, Event.ripens, WorkQueue.forget, shutDown]

/-- Whatever was put off has come due or is still put off. -/
theorem Run.delayed (run : Run x log y) (none : x.queue.delayed = []) :
    (putOff log).Perm (ripened log ++ y.queue.delayed) := by
  induction run with
  | refl => simp [putOff, ripened, none]
  | @step y z log e first last ih =>
    simp only [putOff, ripened, List.flatMap_append, List.flatMap_singleton] at ih ⊢
    refine (ih.append_right _).trans ?_
    rw [List.append_assoc, List.append_assoc]
    exact last.delayed.append_left _

/-! ### Waking -/

/-- While somebody waits, as many were woken as there are requests; and nobody waits at a queue that
is shut down. -/
structure Alert (q : WorkQueue) : Prop where
  woken : q.waiting ≠ [] → q.items.length ≤ q.woken.length
  dismissed : q.shuttingDown = true → q.waiting = []

namespace Alert

/-- Whoever is woken makes up for one request more. -/
theorem announce (dismissed : q.shuttingDown = true → q.waiting = [])
    (short : q.waiting ≠ [] → q.items.length ≤ q.woken.length + 1) : q.announce.Alert := by
  unfold WorkQueue.announce
  split
  · rename_i none
    exact ⟨fun some => absurd none some, fun _ => none⟩
  · rename_i g rest waits
    refine ⟨fun _ => ?_, fun closed => ?_⟩
    · simpa using short (by simp [waits])
    · exact absurd (dismissed closed) (by simp [waits])

variable (alert : q.Alert)
include alert

theorem enter (r : Request) : (q.enter r).Alert := by
  unfold WorkQueue.enter
  split
  · exact alert
  · refine announce alert.dismissed fun waits => ?_
    have enough := alert.woken waits
    simp only [List.length_append, List.length_singleton]
    omega

theorem enterAfter (now delay : Nat) (r : Request) : (q.enterAfter now delay r).Alert := by
  unfold WorkQueue.enterAfter
  split
  · exact alert.enter r
  · exact ⟨alert.woken, alert.dismissed⟩

omit alert in
/-- Whoever looks takes a request, or waits at an empty queue; so it may have been one of those that
were woken. -/
theorem look (dismissed : q.shuttingDown = true → q.waiting = [])
    (short : q.waiting ≠ [] → q.items.length ≤ q.woken.length + 1) (g : Nat) :
    (q.look g).2.Alert := by
  unfold WorkQueue.look
  split
  · rename_i closed
    exact ⟨fun waits => absurd (dismissed closed) waits, dismissed⟩
  · rename_i running
    split
    · rename_i r rest listed
      refine ⟨fun waits => ?_, dismissed⟩
      have enough := short waits
      rw [listed, List.length_cons] at enough
      exact Nat.le_of_succ_le_succ enough
    · rename_i listed
      exact ⟨fun _ => by simp [listed], fun closed => absurd closed running⟩

theorem abandon (g : Nat) : (q.abandon g).Alert := by
  have fewer : q.woken.length ≤ (q.woken.erase g).length + 1 := by
    rw [List.length_erase]
    split <;> omega
  unfold WorkQueue.abandon
  split
  · dsimp only
    split
    · rename_i closed
      exact ⟨fun waits => absurd (alert.dismissed closed) waits, alert.dismissed⟩
    · exact announce alert.dismissed fun waits => Nat.le_trans (alert.woken waits) fewer
  · refine ⟨fun waits => alert.woken fun none => waits ?_, fun closed => ?_⟩
    · simp [none]
    · simp [alert.dismissed closed]

end Alert

theorem Step.alert (step : Step x e y) (alert : x.queue.Alert) : y.queue.Alert := by
  cases step with
  | add r => exact alert.enter r
  | addAfter delay r => exact alert.enterAfter _ _ r
  | addLimited r =>
    have counted (failures : Dict Request Nat) : Alert { x.queue with failures } :=
      ⟨alert.woken, alert.dismissed⟩
    exact (counted _).enterAfter _ _ r
  | fire =>
    have shorter (delayed : List Delayed) : Alert { x.queue with delayed } :=
      ⟨alert.woken, alert.dismissed⟩
    exact (shorter _).enter _
  | ask => exact .look alert.dismissed (fun waits => Nat.le_succ_of_le (alert.woken waits)) _
  | @resume g woken =>
    refine .look (q := { x.queue with woken := x.queue.woken.erase g }) alert.dismissed
      (fun waits => Nat.le_trans (alert.woken waits) ?_) g
    simp only [List.length_erase_of_mem woken]
    omega
  | giveUp => exact alert.abandon _
  | close => exact ⟨fun waits => absurd rfl waits, fun _ => rfl⟩
  | forget | pass => exact ⟨alert.woken, alert.dismissed⟩

theorem Run.alert (run : Run x log y) (alert : x.queue.Alert) : y.queue.Alert := by
  induction run with
  | refl => exact alert
  | step _ last ih => exact last.alert ih

/-- When all who were woken have looked again, nobody waits while there is a request. -/
theorem Alert.waiting_eq_nil (alert : q.Alert) (settled : q.woken = []) (some : q.items ≠ []) :
    q.waiting = [] := by
  refine Decidable.of_not_not fun waits => ?_
  have enough := alert.woken waits
  rw [settled] at enough
  exact some (List.eq_nil_of_length_eq_zero (Nat.le_zero.mp enough))

/-! ### After the end -/

/-- Once the queue is shut down, whoever looks is told so. -/
theorem Step.told (step : Step x e y) (closed : x.queue.shuttingDown = true) {found : Look}
    (looked : e.found? = some found) : found = .given none := by
  cases step with
  | ask =>
    rw [look_of_closed closed] at looked
    exact (Option.some.inj looked).symm
  | @resume g woken =>
    rw [look_of_closed (q := { x.queue with woken := x.queue.woken.erase g }) closed] at looked
    exact (Option.some.inj looked).symm
  | _ => cases looked

/-- Whoever is told that there will be nothing is given nothing. -/
theorem Event.gives_of_told (told : ∀ found, e.found? = some found → found = .given none) :
    e.gives = [] := by
  cases e with
  | asked g found | resumed g found =>
    rw [told found rfl]
    rfl
  | _ => rfl

/-- Once the queue is shut down, whoever was woken gives up or is told so. -/
theorem Step.woken (step : Step x e y) (closed : x.queue.shuttingDown = true)
    (woken : g ∈ x.queue.woken) :
    g ∈ y.queue.woken ∨ e = .gaveUp g ∨ e = .resumed g (.given none) := by
  cases step with
  | add r =>
    rw [enter_of_closed closed]
    exact .inl woken
  | addAfter delay r =>
    dsimp only
    rw [woken_enterAfter closed]
    exact .inl woken
  | addLimited r =>
    left
    dsimp only [enterLimited]
    rw [woken_enterAfter (by exact closed)]
    exact woken
  | fire =>
    rw [enter_of_closed (by exact closed)]
    exact .inl woken
  | ask =>
    rw [look_of_closed closed]
    exact .inl woken
  | @resume h member =>
    rw [look_of_closed (q := { x.queue with woken := x.queue.woken.erase h }) closed]
    by_cases same : g = h
    · exact .inr (.inr (by rw [same]))
    · exact .inl ((List.mem_erase_of_ne same).mpr woken)
  | @giveUp h =>
    by_cases same : g = h
    · exact .inr (.inl (by rw [same]))
    · left
      unfold abandon
      split
      · dsimp only
        rw [if_pos closed]
        exact (List.mem_erase_of_ne same).mpr woken
      · exact woken
  | close => exact .inl (List.mem_append_left _ woken)
  | forget | pass => exact .inl woken

namespace Run

theorem closed (run : Run x log y) (closed : x.queue.shuttingDown = true) :
    y.queue.shuttingDown = true := by
  induction run with
  | refl => exact closed
  | step _ last ih => rw [last.shuttingDown, ih, Bool.true_or]

/-- Nothing enters a queue that is shut down and nothing leaves it, and whoever looks is told so. -/
theorem ended (run : Run x log y) (closed : x.queue.shuttingDown = true) :
    y.queue.items = x.queue.items ∧
      ∀ e ∈ log, ∀ found, e.found? = some found → found = .given none := by
  induction run with
  | refl => exact ⟨rfl, nofun⟩
  | @step y z log e first last ih =>
    obtain ⟨items, told⟩ := ih
    have gone := first.closed closed
    refine ⟨?_, fun e' listed found looked => ?_⟩
    · have kept := last.items
      rwa [Event.gives_of_told fun _ => last.told gone, if_pos gone, List.append_nil, items] at kept
    · rcases List.mem_append.mp listed with earlier | now
      · exact told e' earlier found looked
      · rw [List.mem_singleton.mp now] at looked
        exact last.told gone looked

theorem woken (run : Run x log y) (closed : x.queue.shuttingDown = true)
    (woken : g ∈ x.queue.woken) :
    g ∈ y.queue.woken ∨ .gaveUp g ∈ log ∨ .resumed g (.given none) ∈ log := by
  induction run with
  | refl => exact .inl woken
  | @step y z log e first last ih =>
    rcases ih with still | earlier | earlier
    · rcases last.woken (first.closed closed) still with still | rfl | rfl
      · exact .inl still
      · exact .inr (.inl (List.mem_append_right _ (List.mem_singleton_self _)))
      · exact .inr (.inr (List.mem_append_right _ (List.mem_singleton_self _)))
    · exact .inr (.inl (List.mem_append_left _ earlier))
    · exact .inr (.inr (List.mem_append_left _ earlier))

end Run

/-- A delayed request does not enter before its time. -/
theorem Run.punctual (run : Run x log y) {now : Nat} {d : Delayed} (ripe : .ripe now d ∈ log) :
    d.due ≤ now := by
  induction run with
  | refl => cases ripe
  | step _ last ih =>
    rcases List.mem_append.mp ripe with earlier | here
    · exact ih earlier
    · cases List.mem_singleton.mp here
      cases last with
      | fire _ due => exact due

/-- Nothing in a queue is lost, made up, merged or moved. In every run of a new queue, what getters
were given, followed by what is in the queue, is what has entered, in order. What was put off enters
once, not before its time; and when all who were woken have looked again, nobody waits while there
is a request. Once the queue is shut down it stays as it is: whoever looks is told so, and all who
waited or were woken are, unless they give up. -/
theorem requests_in_order (baseDelay maxDelay start : Nat) (log : List Event) (y : Moment)
    (run : Run ⟨start, { baseDelay, maxDelay }⟩ log y) :
    given log ++ y.queue.items = entered log ∧
    (putOff log).Perm (ripened log ++ y.queue.delayed) ∧
    (∀ now d, .ripe now d ∈ log → d.due ≤ now) ∧
    (y.queue.woken = [] → y.queue.items ≠ [] → y.queue.waiting = []) ∧
    ∀ after z, Run ⟨y.now, y.queue.shutDown⟩ after z →
      z.queue.items = y.queue.items ∧ z.queue.waiting = [] ∧
      (∀ e ∈ after, ∀ found, e.found? = some found → found = .given none) ∧
      ∀ g, g ∈ y.queue.waiting ∨ g ∈ y.queue.woken →
        .gaveUp g ∈ after ∨ .resumed g (.given none) ∈ after ∨
        ∃ w, Step z (.resumed g (.given none)) w := by
  have alert : y.queue.Alert := run.alert ⟨fun waits => absurd rfl waits, fun _ => rfl⟩
  refine ⟨run.given_append_items rfl rfl, run.delayed rfl, fun _ _ => run.punctual,
    alert.waiting_eq_nil, fun after z rest => ?_⟩
  have closed := rest.closed rfl
  obtain ⟨items, told⟩ := rest.ended rfl
  have dismissed : Alert y.queue.shutDown := ⟨fun waits => absurd rfl waits, fun _ => rfl⟩
  refine ⟨items, (rest.alert dismissed).dismissed closed, told, fun g blocked => ?_⟩
  have woken : g ∈ y.queue.shutDown.woken := List.mem_append.mpr blocked.symm
  rcases rest.woken rfl woken with still | gaveUp | resumed
  · have last := Step.resume still
    rw [look_of_closed (by exact closed)] at last
    exact .inr (.inr ⟨_, last⟩)
  · exact .inl gaveUp
  · exact .inr (.inl resumed)

end WorkQueue

namespace Sample

open WorkQueue

/-- Three getters wait. The first is woken by an arrival and gives up; a delayed request comes due;
the third getter and one that was not there before are quicker than the second. -/
def overtaken : List Event :=
  [.asked 1 .wait, .asked 2 .wait, .asked 3 .wait, .handed 0 0 ⟨"demo", "a"⟩, .gaveUp 1,
    .handed 0 10 ⟨"demo", "b"⟩, .passed, .ripe 10 ⟨10, ⟨"demo", "b"⟩⟩,
    .resumed 3 (.given (some ⟨"demo", "a"⟩)), .asked 4 (.given (some ⟨"demo", "b"⟩)),
    .resumed 2 .wait]

theorem overtakes : ∃ y, Run ⟨0, {}⟩ overtaken y ∧ y.queue.waiting = [2] ∧
    ∃ z, Run ⟨y.now, y.queue.shutDown⟩ [.resumed 2 (.given none)] z := by
  refine ⟨_, ((((((((((Run.refl.step (.ask (by decide) (by decide))).step
    (.ask (by decide) (by decide))).step (.ask (by decide) (by decide))).step (.add _)).step
    (.giveUp (by decide))).step (.addAfter 10 _)).step (.pass (Nat.zero_le 10))).step
    (@Step.fire _ [] [] _ rfl (by decide))).step (.resume (by decide))).step
    (.ask (by decide) (by decide))).step (.resume (by decide)), ?_, ?_⟩
  · decide
  · exact ⟨_, Run.refl.step (.resume (by decide))⟩

end Sample

/-- What a getter is woken for is taken by others, and the getter, which comes too late, waits until
it is told that there will be nothing. -/
theorem WorkQueue.requests_in_order_overtaken :
    ∃ y, WorkQueue.Run ⟨0, {}⟩ Sample.overtaken y ∧ y.queue.waiting = [2] ∧
      WorkQueue.given Sample.overtaken ++ y.queue.items = [⟨"demo", "a"⟩, ⟨"demo", "b"⟩] ∧
      ∃ z, WorkQueue.Run ⟨y.now, y.queue.shutDown⟩ [.resumed 2 (.given none)] z ∧
        z.queue.items = y.queue.items ∧ z.queue.waiting = [] := by
  obtain ⟨y, run, waiting, z, rest⟩ := Sample.overtakes
  obtain ⟨order, -, -, -, ended⟩ :=
    WorkQueue.requests_in_order 5 1000000 0 Sample.overtaken y run
  obtain ⟨items, dismissed, -⟩ := ended _ z rest
  exact ⟨y, run, waiting, order.trans (by decide), z, rest, items, dismissed⟩

/-! ### Schedules -/

namespace WorkQueue

variable {x y z : Moment}

/-- Some run leads from one state to another. -/
def Moment.Leads (x y : Moment) : Prop := ∃ log, Run x log y

namespace Moment.Leads

theorem refl : x.Leads x := ⟨[], .refl⟩

theorem step {e : Event} (before : x.Leads y) (last : Step y e z) : x.Leads z := by
  obtain ⟨log, run⟩ := before
  exact ⟨_, run.step last⟩

theorem trans (first : x.Leads y) (second : y.Leads z) : x.Leads z := by
  obtain ⟨log, run⟩ := second
  induction run with
  | refl => exact first
  | step _ last ih => exact ih.step last

/-- Taking in all that is due is letting one delay after the other run out. -/
theorem ripen (now : Nat) (q : WorkQueue) : Leads ⟨now, q⟩ ⟨now, q.ripen now⟩ :=
  ripen_induction (P := fun q' => Leads ⟨now, q⟩ ⟨now, q'⟩)
    (fun _ _ _ _ set due before => before.step (.fire set due)) refl

/-- Whoever gives up waits no longer, or has done so before. -/
theorem abandon (now : Nat) (q : WorkQueue) (g : Nat) : Leads ⟨now, q⟩ ⟨now, q.abandon g⟩ := by
  by_cases blocked : g ∈ q.waiting ∨ g ∈ q.woken
  · exact refl.step (.giveUp blocked)
  · obtain ⟨idle, unwoken⟩ := not_or.mp blocked
    have same : q.abandon g = q := by
      unfold WorkQueue.abandon
      rw [if_neg (by simpa using unwoken), List.erase_of_not_mem idle]
    rw [same]
    exact refl

/-- The first who was woken looks again. -/
theorem resume (now : Nat) (q : WorkQueue) (g : Nat) (rest : List Nat) :
    Leads ⟨now, { q with woken := g :: rest }⟩ ⟨now, { (q.look g).2 with woken := rest }⟩ := by
  have first : Step ⟨now, { q with woken := g :: rest }⟩ _ _ := .resume (g := g) List.mem_cons_self
  rw [List.erase_cons_head] at first
  dsimp only at first
  rw [look_withWoken q rest g] at first
  exact refl.step first

end Moment.Leads

end WorkQueue

namespace Schedule

variable {s t : Schedule} {g : Nat}

/-- The queue of a schedule and its time. -/
def moment (s : Schedule) : WorkQueue.Moment := ⟨s.now, s.queue⟩

@[simp] theorem queue_look (s : Schedule) (g : Nat) : (s.look g).queue = (s.queue.look g).2 := by
  unfold look
  split <;> simp_all

@[simp] theorem now_look (s : Schedule) (g : Nat) : (s.look g).now = s.now := by
  unfold look
  split <;> rfl

/-- What getters do that look one after the other. -/
theorem looks_cases (gs : List Nat) (s : Schedule) :
    (gs.foldl look s).now = s.now ∧ (gs.foldl look s).queue.woken = s.queue.woken ∧
      (∀ g ∈ (gs.foldl look s).queue.waiting, g ∈ s.queue.waiting ∨ g ∈ gs) ∧
      (s.queue.woken = [] →
        WorkQueue.Moment.Leads ⟨s.now, { s.queue with woken := gs }⟩ (gs.foldl look s).moment) := by
  induction gs generalizing s with
  | nil =>
    refine ⟨rfl, rfl, fun g => .inl, fun unwoken => ?_⟩
    have same : { s.queue with woken := [] } = s.queue := by rw [← unwoken]
    rw [same]
    exact .refl
  | cons g rest ih =>
    obtain ⟨now, woken, waiting, leads⟩ := ih (s.look g)
    rw [now_look] at now leads
    rw [queue_look] at woken waiting leads
    refine ⟨now, woken.trans (WorkQueue.woken_look _ _), fun h waits => ?_, fun unwoken => ?_⟩
    · rcases waiting h waits with before | later
      · rcases WorkQueue.mem_waiting_look before with before | rfl
        · exact .inl before
        · exact .inr List.mem_cons_self
      · exact .inr (List.mem_cons_of_mem _ later)
    · exact (WorkQueue.Moment.Leads.resume s.now s.queue g rest).trans
        (leads ((WorkQueue.woken_look _ _).trans unwoken))

theorem now_settle (s : Schedule) : s.settle.now = s.now := (looks_cases _ _).1

theorem woken_settle (s : Schedule) : s.settle.queue.woken = [] := (looks_cases _ _).2.1

theorem leads_settle (s : Schedule) : s.moment.Leads s.settle.moment :=
  (looks_cases s.queue.woken { s with queue := { s.queue with woken := [] } }).2.2.2 rfl

/-- From where everyone was woken has looked again, time passes and delayed requests come due. -/
theorem leads_runUntil (stop : Schedule → Bool) (deadline rounds : Nat) (s : Schedule)
    (early : s.now ≤ deadline) : s.settle.moment.Leads (s.runUntil stop deadline rounds).moment := by
  induction rounds generalizing s with
  | zero => exact .refl
  | succ rounds ih =>
    have settled : s.settle.now ≤ deadline := s.now_settle ▸ early
    have on : s.settle.moment.Leads ⟨deadline, s.settle.queue⟩ :=
      WorkQueue.Moment.Leads.refl.step (.pass settled)
    dsimp only [runUntil]
    split
    · exact .refl
    · split
      · rename_i due next
        split
        · rename_i soon
          have passed := WorkQueue.Moment.Leads.refl.step
            (.pass (x := s.settle.moment) (Nat.le_max_left s.settle.now due))
          have ripened := passed.trans (.ripen _ s.settle.queue)
          have onwards : (max s.settle.now due) ≤ deadline :=
            Nat.max_le.mpr ⟨settled, soon⟩
          exact (ripened.trans (leads_settle { s.settle with
            now := max s.settle.now due
            queue := s.settle.queue.ripen (max s.settle.now due) })).trans (ih _ onwards)
        · exact on
      · exact on

theorem leads_wait (s : Schedule) (stop : Schedule → Bool) (milliseconds : Nat) :
    s.moment.Leads (s.wait stop milliseconds).moment := by
  unfold wait
  split
  · exact .refl
  · exact s.leads_settle.trans (leads_runUntil stop _ _ s (Nat.le_add_right _ _))

/-- A getter that is started looks after all that were woken before. -/
theorem leads_spawn (s : Schedule) (idle : g ∉ s.queue.waiting) (unwoken : g ∉ s.queue.woken) :
    s.moment.Leads (s.spawn g).moment := by
  let started : Schedule := { s with queue := { s.queue with woken := s.queue.woken ++ [g] } }
  have last : started.settle = s.settle.look g := List.foldl_append
  have waiting : g ∉ s.settle.queue.waiting := fun waits =>
    ((looks_cases _ _).2.2.1 g waits).elim idle unwoken
  have asks : WorkQueue.Step s.settle.moment _ _ := .ask waiting (by
    rw [moment, woken_settle]
    exact List.not_mem_nil)
  refine (s.leads_settle.step asks).trans ?_
  have looked : WorkQueue.Moment.mk s.settle.now (s.settle.queue.look g).2 =
      started.settle.moment := by
    rw [last, moment, now_look, queue_look]
  exact looked ▸ leads_runUntil _ (s.now + 1) _ started (Nat.le_succ _)

theorem leads_join (s : Schedule) (g milliseconds : Nat) :
    s.moment.Leads (s.join g milliseconds).2.moment := by
  unfold join
  dsimp only
  split
  · exact .refl
  · exact s.leads_wait _ _

theorem leads_get (s : Schedule) (milliseconds : Nat) (idle : g ∉ s.queue.waiting)
    (unwoken : g ∉ s.queue.woken) : s.moment.Leads (s.get g milliseconds).2.moment := by
  have asks : s.moment.Leads (s.look g).moment := by
    rw [moment, moment, now_look, queue_look]
    exact WorkQueue.Moment.Leads.refl.step (.ask idle unwoken)
  have joined := asks.trans ((s.look g).leads_join g milliseconds)
  unfold get
  dsimp only
  split
  · exact joined
  · exact joined.trans (.abandon _ _ g)

/-- What the caller of a schedule does. A getter that is started or asks is one that does not wait
already. -/
inductive Turn : Schedule → Schedule → Prop
  | add {s : Schedule} (r : Request) : Turn s { s with queue := s.queue.enter r }
  | addAfter {s : Schedule} (delay : Nat) (r : Request) :
    Turn s { s with queue := s.queue.enterAfter s.now delay r }
  | addLimited {s : Schedule} (r : Request) :
    Turn s { s with queue := s.queue.enterLimited s.now r }
  | forget {s : Schedule} (r : Request) : Turn s { s with queue := s.queue.forget r }
  | shutDown {s : Schedule} : Turn s { s with queue := s.queue.shutDown }
  | advance {s : Schedule} (milliseconds : Nat) : Turn s (s.advance milliseconds)
  | spawn {s : Schedule} {g : Nat} (idle : g ∉ s.queue.waiting) (unwoken : g ∉ s.queue.woken) :
    Turn s (s.spawn g)
  | join {s : Schedule} (g milliseconds : Nat) : Turn s (s.join g milliseconds).2
  | get {s : Schedule} {g : Nat} (milliseconds : Nat) (idle : g ∉ s.queue.waiting)
    (unwoken : g ∉ s.queue.woken) : Turn s (s.get g milliseconds).2

/-- Whatever the caller of a schedule does is a run of single steps of the queue, so what holds of
all runs holds of every schedule. -/
theorem Turn.leads (turn : Turn s t) : s.moment.Leads t.moment := by
  cases turn with
  | add r => exact .step .refl (.add r)
  | addAfter delay r => exact .step .refl (.addAfter delay r)
  | addLimited r => exact .step .refl (.addLimited r)
  | forget r => exact .step .refl (.forget r)
  | shutDown => exact .step .refl .close
  | advance => exact s.leads_wait _ _
  | spawn idle unwoken => exact s.leads_spawn idle unwoken
  | join => exact s.leads_join _ _
  | get milliseconds idle unwoken => exact s.leads_get milliseconds idle unwoken

end Schedule

end Provisioner
