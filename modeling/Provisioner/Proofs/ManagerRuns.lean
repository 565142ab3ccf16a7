import Provisioner.Controller.Manager
import Provisioner.Proofs.Dispatch
import Provisioner.Proofs.Endurance

/-!
The manager runs its controllers by the steps of `Dispatch`. Whatever it does at once, from taking
in all that has come to a whole pass, is for each controller a run of single steps, in which the
passes of the others are changes of the store by somebody else. So whatever holds of all runs holds
of the controllers that the manager runs, as long as no pass crashes and nobody else begins to
listen to their kinds. In particular no change is forgotten: once nothing is pending for an object
that has changed, its controller has begun a pass.
-/

namespace Provisioner

variable {kind : Kind} {n : Nat} {s s' s'' : Session} {c : Controller} {now : Nat}

/-! ### The store -/

/-- A session goes on by operations of the store and by what no listener hears of. -/
inductive Session.Evolves : Session → Session → Prop
  | refl {s : Session} : Evolves s s
  | put {s s' : Session} (before : Evolves s s') (key : ObjectKey) (o : Object) :
    Evolves s (s'.put key o)
  | remove {s s' : Session} (before : Evolves s s') (key : ObjectKey) : Evolves s (s'.remove key)
  | aside {s s' : Session} (before : Evolves s s') (now : Timestamp) (triggered : List ObjectKey) :
    Evolves s { s' with now, triggered }

namespace Session

theorem Evolves.trans (first : s.Evolves s') (second : s'.Evolves s'') : s.Evolves s'' := by
  induction second with
  | refl => exact first
  | put _ key o ih => exact ih.put key o
  | remove _ key ih => exact ih.remove key
  | aside _ now triggered ih => exact ih.aside now triggered

theorem Writes.evolves {key : ObjectKey} (writes : s.Writes key s') : s.Evolves s' := by
  cases writes with
  | nothing => exact .refl
  | put o => exact .put .refl key o
  | remove => exact .remove .refl key

/-- To have evolved from a session is kept by every operation of the store. -/
theorem enduring_evolves (s : Session) : Enduring s.Evolves where
  write _ _ _ evolved := evolved.trans (writes_write _ _ _).evolves
  delete _ _ evolved := evolved.trans (writes_delete _ _).evolves
  handOver _ _ evolved := evolved.aside _ _

end Session

/-! ### Passes -/

/-- The pass changes the store by operations of the store alone, whatever becomes of it. -/
def Pass.Evolves {α : Type} (p : Pass α) : Prop := ∀ s : Session, s.Evolves (p.on s).2

namespace Reconcile

theorem evolves_configurationPass (settings : Settings) (resolve : Resolver) (request : Request) :
    Pass.Evolves (configurationPass settings resolve request) :=
  fun s => s.enduring_evolves.abiding.configurationPass settings resolve request s .refl

theorem evolves_providerPass (resolve : Resolver) (request : Request) :
    Pass.Evolves (providerPass resolve request) :=
  fun s => s.enduring_evolves.abiding.providerPass resolve request s .refl

end Reconcile

/-- A reconciler whose passes do not crash, and change the store by operations of the store
alone. -/
def Reconciler.Orderly (f : Reconciler) : Prop :=
  ∀ k r s, (f k r s).1.result ≠ none ∧ s.Evolves (f k r s).2

namespace Reconciler

theorem orderly_ofPass {pass : Request → Pass Outcome} (evolves : ∀ r, Pass.Evolves (pass r)) :
    (ofPass pass).Orderly := fun _ r s => ⟨nofun, evolves r s⟩

theorem orderly_configurations (settings : Settings) (resolve : Resolver) :
    (ofPass (Reconcile.configurationPass settings resolve)).Orderly :=
  orderly_ofPass (Reconcile.evolves_configurationPass settings resolve)

theorem orderly_providers (resolve : Resolver) :
    (ofPass (Reconcile.providerPass resolve)).Orderly :=
  orderly_ofPass (Reconcile.evolves_providerPass resolve)

end Reconciler

/-! ### Controllers -/

/-- A controller that is not cut off and whose passes do not crash. -/
structure Controller.Orderly (c : Controller) : Prop where
  reconciler : c.reconciler.Orderly
  connected : c.connected = true
  worker : ∀ r endsAt, c.worker ≠ .busy r endsAt none

namespace Controller.Orderly

variable (orderly : c.Orderly)
include orderly

theorem receive (key : ObjectKey) : (c.receive key).Orderly := by
  unfold Controller.receive
  rw [if_pos orderly.connected]
  exact ⟨orderly.reconciler, orderly.connected, orderly.worker⟩

theorem listen (cancelled : Bool) : (c.listen cancelled).Orderly := by
  unfold Controller.listen
  rw [if_pos orderly.connected]
  split
  · exact orderly
  · split <;> exact ⟨orderly.reconciler, orderly.connected, orderly.worker⟩

theorem finish (now : Nat) (r : Request) (result : Except Error Outcome) :
    (c.finish now r (some result)).Orderly :=
  ⟨orderly.reconciler, orderly.connected, nofun⟩

/-- All that a visit of the worker to the queue can come to: it waits, or stops, or is given a
request and begins a pass, which may have ended as well. -/
theorem takeUp_cases (now : Nat) (s : Session) :
    (∃ q, WorkQueue.look { c.queue with woken := [] } Controller.workerNumber = (.wait, q) ∧
      c.takeUp now s = ({ c with queue := q }, s)) ∨
    (∃ q, WorkQueue.look { c.queue with woken := [] } Controller.workerNumber = (.given none, q) ∧
      c.takeUp now s = ({ c with queue := q, worker := .stopped }, s)) ∨
    ∃ r q endsAt result s',
      WorkQueue.look { c.queue with woken := [] } Controller.workerNumber = (.given (some r), q) ∧
      s.Evolves s' ∧
      ∃ c', c' = { c with
          queue := q, begun := c.begun + 1, worker := .busy r endsAt (some result) } ∧
        (c.takeUp now s = (c', s') ∨ c.takeUp now s = (c'.finish now r (some result), s')) := by
  have passes := orderly.reconciler
  clear orderly
  obtain ⟨name, f, inbox, connected, listening, queue, worker, count, calls⟩ := c
  rcases looked : WorkQueue.look { queue with woken := [] } Controller.workerNumber with
    ⟨_ | _ | r, q⟩ <;>
    simp only [Controller.takeUp, looked]
  · exact .inl ⟨q, rfl, rfl⟩
  · exact .inr (.inl ⟨q, rfl, rfl⟩)
  · obtain ⟨ended, evolves⟩ := passes count r s
    dsimp only at ended evolves
    generalize f count r s = visited at ended evolves
    obtain ⟨⟨takes, _ | result⟩, s'⟩ := visited
    · exact absurd rfl ended
    refine .inr (.inr ⟨r, q, now + takes, result, s', rfl, evolves, _, rfl, ?_⟩)
    dsimp only
    split
    · exact .inr rfl
    · exact .inl rfl

/-- A visit of the worker to the queue keeps the controller orderly, and changes the store only by
operations of the store. -/
theorem takeUp (now : Nat) (s : Session) :
    (c.takeUp now s).1.Orderly ∧ s.Evolves (c.takeUp now s).2 := by
  have ⟨reconciler, connected, worker⟩ := orderly
  rcases orderly.takeUp_cases now s with
    ⟨q, -, taken⟩ | ⟨q, -, taken⟩ |
      ⟨r, q, endsAt, result, s', -, evolves, c', rfl, taken | taken⟩ <;> rw [taken]
  · exact ⟨⟨reconciler, connected, worker⟩, .refl⟩
  · exact ⟨⟨reconciler, connected, nofun⟩, .refl⟩
  · exact ⟨⟨reconciler, connected, nofun⟩, evolves⟩
  · exact ⟨⟨reconciler, connected, nofun⟩, evolves⟩

theorem ripen (now : Nat) : (c.ripen now).Orderly := by
  have due : Controller.Orderly { c with queue := c.queue.ripen now } :=
    ⟨orderly.reconciler, orderly.connected, orderly.worker⟩
  unfold Controller.ripen
  dsimp only
  split
  · rename_i r endsAt result busy
    split
    · cases result with
      | none => exact absurd busy (orderly.worker r endsAt)
      | some result => exact due.finish now r result
    · exact due
  · exact due

end Controller.Orderly

namespace Dispatch

variable {x y z : Dispatch} {log : List Mark}

/-- Some run leads from one state to another. -/
def Leads (kind : Kind) (n : Nat) (x y : Dispatch) : Prop := ∃ log, Run kind n x log y

namespace Leads

theorem refl : Leads kind n x x := ⟨[], .refl⟩

theorem step {l : Mark} (before : Leads kind n x y) (last : Step kind n y l z) :
    Leads kind n x z := by
  obtain ⟨log, run⟩ := before
  exact ⟨_, run.step last⟩

theorem trans (first : Leads kind n x y) (second : Leads kind n y z) : Leads kind n x z := by
  obtain ⟨log, run⟩ := second
  induction run with
  | refl => exact first
  | step _ last ih => exact ih.step last

/-- Whatever is done to the store, the controller is left alone. -/
theorem evolves (evolves : s.Evolves s') : Leads kind n ⟨s, c, now⟩ ⟨s', c, now⟩ := by
  induction evolves with
  | refl => exact .refl
  | put _ key o ih => exact ih.step (.put key o)
  | remove _ key ih => exact ih.step (.remove key)
  | aside _ _ _ ih => exact ih.step .aside

/-- Delivering all notices at once is delivering one after the other. -/
theorem deliver (s : Session) (c : Controller) :
    Leads kind n ⟨s, c, now⟩
      ⟨{ s with sent := [] },
        (s.sent.filter (·.listener = n)).foldl (fun c notice => c.receive notice.key) c, now⟩ := by
  obtain ⟨store, time, sent, triggered⟩ := s
  induction sent generalizing c with
  | nil => exact .refl
  | cons notice rest ih =>
    refine (refl.step (.deliver rfl)).trans ?_
    by_cases mine : notice.listener = n
    · simpa [mine] using ih (c.receive notice.key)
    · simpa [mine] using ih c

/-- Taking in all that has come is taking in one notice after the other. -/
theorem hear (listening : c.listening = true) :
    Leads kind n ⟨s, c, now⟩
      ⟨s, { c with
            inbox := []
            queue := c.inbox.foldl (fun q key => q.enter key.request) c.queue }, now⟩ := by
  obtain ⟨name, reconciler, inbox, connected, listening', queue, worker, begun, calls⟩ := c
  induction inbox generalizing queue with
  | nil => exact .refl
  | cons key rest ih => exact (refl.step (.hear listening rfl)).trans (ih _ listening)

theorem listen (cancelled : Bool) (orderly : c.Orderly) :
    Leads kind n ⟨s, c, now⟩ ⟨s, c.listen cancelled, now⟩ := by
  cases cancelled with
  | true => exact refl.step .cancel
  | false =>
    cases listening : c.listening with
    | false =>
      have same : c.listen false = c := by simp [Controller.listen, listening]
      rw [same]
      exact .refl
    | true =>
      have all : c.listen false = { c with
          inbox := []
          queue := c.inbox.foldl (fun q key => q.enter key.request) c.queue } := by
        simp [Controller.listen, listening, orderly.connected]
      rw [all]
      exact hear listening

/-- A visit of the worker to the queue is a pass that begins, with all that it does to the store, or
a worker that waits or stops. -/
theorem takeUp (orderly : c.Orderly) (free : c.mayBegin = true) :
    Leads kind n ⟨s, c, now⟩ ⟨(c.takeUp now s).2, (c.takeUp now s).1, now⟩ := by
  rcases orderly.takeUp_cases now s with
    ⟨q, looked, taken⟩ | ⟨q, looked, taken⟩ |
      ⟨r, q, endsAt, result, s', looked, evolves, c', rfl, taken⟩
  · rw [taken]
    exact refl.step (.rest free looked)
  · rw [taken]
    exact refl.step (.stop free looked)
  · have begun : Step kind n ⟨s, c, now⟩ (.begun r) _ :=
      .begin (x := ⟨s, c, now⟩) free looked endsAt result
    have made := (refl.step begun).trans (.evolves evolves)
    rcases taken with taken | taken <;> rw [taken]
    · exact made
    · exact made.step (.finish rfl)

/-- Taking in all that is due is letting one timer after the other run out. -/
theorem ripen {later : Nat} (orderly : c.Orderly) (forward : now ≤ later) :
    Leads kind n ⟨s, c, now⟩ ⟨s, c.ripen later, later⟩ := by
  have fired : Leads kind n ⟨s, c, now⟩ ⟨s, { c with queue := c.queue.ripen later }, later⟩ :=
    WorkQueue.ripen_induction
      (P := fun q => Leads kind n ⟨s, c, now⟩ ⟨s, { c with queue := q }, later⟩)
      (fun _ _ _ _ set due before => before.step (.fire set due)) (refl.step (.tick forward))
  unfold Controller.ripen
  dsimp only
  split
  · rename_i r endsAt result busy
    split
    · cases result with
      | none => exact absurd busy (orderly.worker r endsAt)
      | some result => exact fired.step (.finish busy)
    · exact fired
  · exact fired

end Leads

end Dispatch

/-! ### The manager -/

namespace Manager

variable {m m' m'' : Manager}

/-- No controller is cut off and none of their passes crash. -/
def Orderly (m : Manager) : Prop :=
  ∀ (i : Nat) (c : Controller), m.controllers[i]? = some c → c.Orderly

/-- Each controller is at its place, and was led there by a run of steps; the manager is as orderly
as before. -/
def Leads (m m' : Manager) : Prop :=
  m'.controllers.length = m.controllers.length ∧
    ∀ (i : Nat) (c : Controller), m.controllers[i]? = some c →
      ∃ c' : Controller, m'.controllers[i]? = some c' ∧ c'.Orderly ∧ ∀ kind,
        Dispatch.Leads kind i ⟨m.session, c, m.now⟩ ⟨m'.session, c', m'.now⟩

namespace Leads

theorem refl (orderly : m.Orderly) : m.Leads m :=
  ⟨rfl, fun i c here => ⟨c, here, orderly i c here, fun _ => .refl⟩⟩

theorem orderly (leads : m.Leads m') : m'.Orderly := by
  intro i c' here
  obtain ⟨size, leads⟩ := leads
  have bound : i < m.controllers.length := size ▸ (List.getElem?_eq_some_iff.mp here).1
  obtain ⟨c'', there, orderly, -⟩ := leads i _ (List.getElem?_eq_getElem bound)
  cases here.symm.trans there
  exact orderly

theorem trans (first : m.Leads m') (second : m'.Leads m'') : m.Leads m'' := by
  refine ⟨second.1.trans first.1, fun i c here => ?_⟩
  obtain ⟨c', there, -, leads⟩ := first.2 i c here
  obtain ⟨c'', after, orderly, further⟩ := second.2 i c' there
  exact ⟨c'', after, orderly, fun kind => (leads kind).trans (further kind)⟩

/-- Only the store goes on. -/
theorem evolves (orderly : m.Orderly) (controllers : m'.controllers = m.controllers)
    (now : m'.now = m.now) (evolves : m.session.Evolves m'.session) : m.Leads m' := by
  refine ⟨by rw [controllers], fun i c here => ⟨c, controllers ▸ here, orderly i c here, ?_⟩⟩
  rw [now]
  exact fun _ => .evolves evolves

end Leads

/-- A controller that is registered starts as a fresh one, if all who listened and all who were sent
a notice before are controllers of the manager. -/
theorem fresh_register (m : Manager) (kind : Kind) (name : String) (reconciler : Reconciler)
    (listeners : ∀ k i, m.session.store.listeners.get? k = some i → i < m.controllers.length)
    (sent : ∀ notice ∈ m.session.sent, notice.listener < m.controllers.length) :
    (m.register kind { name, reconciler }).controllers[m.controllers.length]? =
        some { name, reconciler } ∧
      Dispatch.Fresh kind m.controllers.length
        ⟨(m.register kind { name, reconciler }).session, { name, reconciler },
          (m.register kind { name, reconciler }).now⟩ := by
  have heard : ∀ k, (m.session.store.register kind m.controllers.length).listeners.get? k =
      if k = kind then some m.controllers.length else m.session.store.listeners.get? k :=
    fun k => Dict.get?_insert _ _ _ _
  refine ⟨?_, ?_, fun k found => ?_, fun notice listed => Nat.ne_of_lt (sent notice listed), rfl⟩
  · simp [register]
  · exact (heard kind).trans (if_pos rfl)
  · have found := (heard k).symm.trans found
    split at found
    · assumption
    · exact absurd (listeners k _ found) (Nat.lt_irrefl _)

/-- Where nobody listened to a kind, nobody is cut off by a controller that begins to. -/
theorem orderly_register (orderly : m.Orderly) {f : Reconciler} (own : f.Orderly) (kind : Kind)
    (name : String) (unheard : m.session.store.listeners.get? kind = none) :
    (m.register kind { name, reconciler := f }).Orderly := by
  have kept : (m.register kind { name, reconciler := f }).controllers =
      m.controllers ++ [{ name, reconciler := f }] := by
    simp [register, unheard, List.mapIdx_eq_iff]
  intro i c here
  rw [kept] at here
  rcases List.mem_append.mp (List.mem_of_getElem? here) with listed | new
  · obtain ⟨j, there⟩ := List.getElem?_of_mem listed
    exact orderly j c there
  · cases List.mem_singleton.mp new
    exact ⟨own, rfl, nofun⟩

theorem leads_deliver (orderly : m.Orderly) : m.Leads m.deliver := by
  have receiveAll (c : Controller) (orderly : c.Orderly) (notices : List Notice) :
      (notices.foldl (fun c notice => c.receive notice.key) c).Orderly := by
    induction notices generalizing c with
    | nil => exact orderly
    | cons notice rest ih => exact ih _ (orderly.receive notice.key)
  refine ⟨List.length_mapIdx, fun i c here => ⟨_, ?_, receiveAll c (orderly i c here) _, fun _ =>
    .deliver m.session c⟩⟩
  unfold deliver
  simp [List.getElem?_mapIdx, here]

theorem leads_listen (orderly : m.Orderly) (cancelled : Bool) :
    m.Leads { m with controllers := m.controllers.map (Controller.listen cancelled) } :=
  ⟨List.length_map _, fun i c here => ⟨_, by simp [here], (orderly i c here).listen cancelled,
    fun _ => .listen cancelled (orderly i c here)⟩⟩

/-- What one controller does when all workers are looked after. -/
def workStep (now : Nat) (done : List Controller × Session) (c : Controller) :
    List Controller × Session :=
  if c.mayBegin then (done.1 ++ [(c.takeUp now done.2).1], (c.takeUp now done.2).2)
  else (done.1 ++ [c], done.2)

/-- While the workers are looked after one by one, each may begin a pass, and to all others that is
a change of the store. -/
theorem foldl_workStep (now : Nat) (cs done : List Controller) (s : Session)
    (orderly : ∀ (i : Nat) (c : Controller), cs[i]? = some c → c.Orderly) :
    ∃ cs' s', cs.foldl (workStep now) (done, s) = (done ++ cs', s') ∧ cs'.length = cs.length ∧
      s.Evolves s' ∧
      ∀ (n i : Nat) (c : Controller), cs[i]? = some c → ∃ c' : Controller,
        cs'[i]? = some c' ∧ c'.Orderly ∧
          ∀ kind, Dispatch.Leads kind n ⟨s, c, now⟩ ⟨s', c', now⟩ := by
  induction cs generalizing done s with
  | nil => exact ⟨[], s, by simp, rfl, .refl, fun _ _ _ here => by simp at here⟩
  | cons first rest ih =>
    have own := orderly 0 first rfl
    obtain ⟨c₁, s₁, stepped, orderly₁, evolves₁, leads₁⟩ : ∃ c₁ s₁,
        workStep now (done, s) first = (done ++ [c₁], s₁) ∧ c₁.Orderly ∧ s.Evolves s₁ ∧
        ∀ kind n, Dispatch.Leads kind n ⟨s, first, now⟩ ⟨s₁, c₁, now⟩ := by
      unfold workStep
      split
      · rename_i free
        obtain ⟨orderly₁, evolves₁⟩ := own.takeUp now s
        exact ⟨_, _, rfl, orderly₁, evolves₁, fun _ _ => .takeUp own free⟩
      · exact ⟨_, _, rfl, own, .refl, fun _ _ => .refl⟩
    obtain ⟨cs', s', folded, size, evolves, leads⟩ :=
      ih (done ++ [c₁]) s₁ fun i c here => orderly (i + 1) c here
    refine ⟨c₁ :: cs', s', ?_, congrArg (· + 1) size, evolves₁.trans evolves, fun n i c here => ?_⟩
    · rw [List.foldl_cons, stepped, folded, List.append_assoc]
      rfl
    · cases i with
      | zero =>
        cases here
        exact ⟨c₁, rfl, orderly₁, fun kind => (leads₁ kind n).trans (.evolves evolves)⟩
      | succ i =>
        obtain ⟨c', there, orderly', after⟩ := leads n i c here
        exact ⟨c', there, orderly', fun kind =>
          (Dispatch.Leads.evolves evolves₁).trans (after kind)⟩

theorem leads_work (orderly : m.Orderly) : m.Leads m.work := by
  obtain ⟨cs', s', folded, size, -, leads⟩ :=
    foldl_workStep m.now m.controllers [] m.session orderly
  have worked : m.work = { m with controllers := cs', session := s' } := by
    change ({ m with
      controllers := (m.controllers.foldl (workStep m.now) ([], m.session)).1
      session := (m.controllers.foldl (workStep m.now) ([], m.session)).2 } : Manager) = _
    rw [folded]
    rfl
  rw [worked]
  exact ⟨size, fun i c here => leads i i c here⟩

theorem leads_watch (orderly : m.Orderly) : m.Leads m.watch := by
  unfold watch
  split
  · exact .evolves orderly rfl rfl .refl
  · exact .refl orderly

theorem leads_turn (orderly : m.Orderly) : m.Leads m.turn := by
  have delivered := leads_deliver orderly
  have heard := delivered.trans (leads_listen delivered.orderly m.cancelled)
  have worked := heard.trans (leads_work heard.orderly)
  exact worked.trans (leads_watch worked.orderly)

theorem leads_settle (turns : Nat) (orderly : m.Orderly) : m.Leads (settle turns m) := by
  induction turns generalizing m with
  | zero => exact .refl orderly
  | succ turns ih =>
    unfold settle
    split
    · exact (leads_turn orderly).trans (ih (leads_turn orderly).orderly)
    · exact .refl orderly

theorem leads_arrive (orderly : m.Orderly) (o : Object) : m.Leads (m.arrive o) := by
  unfold arrive
  split
  · exact .evolves orderly rfl rfl (Session.writes_write _ _ _).evolves
  · exact .refl orderly

theorem leads_ripen {later : Nat} (orderly : m.Orderly) (forward : m.now ≤ later) :
    m.Leads (m.ripen later) := by
  have arriving (m : Manager) (orderly : m.Orderly) (arrivals : List (Nat × Object)) :
      m.Leads (arrivals.foldl (fun m a => m.arrive a.2) m) := by
    induction arrivals generalizing m with
    | nil => exact .refl orderly
    | cons a rest ih =>
      have arrived := leads_arrive orderly a.2
      exact arrived.trans (ih _ arrived.orderly)
  have due : m.Leads { m with
      now := later
      controllers := m.controllers.map (Controller.ripen later)
      arrivals := m.arrivals.filter fun a => !(a.1 ≤ later) } :=
    ⟨List.length_map _, fun i c here => ⟨_, by simp [here], (orderly i c here).ripen later,
      fun _ => .ripen (orderly i c here) forward⟩⟩
  have arrived := due.trans (arriving _ due.orderly (m.arrivals.filter (·.1 ≤ later)))
  exact arrived.trans (leads_watch arrived.orderly)

theorem leads_wait {later : Nat} (orderly : m.Orderly) (forward : m.now ≤ later) :
    m.Leads { m with now := later } :=
  ⟨rfl, fun i c here => ⟨c, here, orderly i c here, fun _ => .step .refl (.tick forward)⟩⟩

@[simp] theorem now_watch (m : Manager) : m.watch.now = m.now := by
  unfold watch
  split <;> rfl

@[simp] theorem now_turn (m : Manager) : m.turn.now = m.now := by
  unfold turn
  exact now_watch _

@[simp] theorem now_settle (turns : Nat) (m : Manager) : (settle turns m).now = m.now := by
  induction turns generalizing m with
  | zero => rfl
  | succ turns ih =>
    unfold settle
    split
    · rw [ih, now_turn]
    · rfl

@[simp] theorem now_arrive (m : Manager) (o : Object) : (m.arrive o).now = m.now := by
  unfold arrive
  split <;> rfl

@[simp] theorem now_ripen (later : Nat) (m : Manager) : (m.ripen later).now = later := by
  have arriving (m : Manager) (arrivals : List (Nat × Object)) :
      (arrivals.foldl (fun m a => m.arrive a.2) m).now = m.now := by
    induction arrivals generalizing m with
    | nil => rfl
    | cons a rest ih => exact (ih _).trans (now_arrive m a.2)
  unfold ripen
  exact (now_watch _).trans (arriving _ _)

/-- However long the manager runs, each of its controllers is led on by single steps. -/
theorem leads_runUntil (turns : Nat) (stop : Manager → Bool) (deadline : Option Nat) (rounds : Nat)
    (orderly : m.Orderly) (timely : ∀ time, deadline = some time → m.now ≤ time) :
    m.Leads (runUntil turns stop deadline rounds m) := by
  induction rounds generalizing m with
  | zero => exact .refl orderly
  | succ rounds ih =>
    have started : m.Leads { m with started := true } := .evolves orderly rfl rfl .refl
    have settled := started.trans (leads_settle turns started.orderly)
    have now : (settle turns { m with started := true }).now = m.now := now_settle _ _
    unfold runUntil
    dsimp only
    generalize settle turns { m with started := true } = m' at settled now
    split
    · exact settled
    split
    · rename_i due next
      have ripened := leads_ripen settled.orderly (Nat.le_max_left m'.now due)
      refine settled.trans (ripened.trans (ih ripened.orderly fun time given => ?_))
      obtain ⟨-, inTime⟩ := Option.filter_eq_some_iff.mp next
      rw [given] at inTime
      rw [now_ripen, now]
      exact Nat.max_le.mpr ⟨timely time given, by simpa using inTime⟩
    · rename_i time _
      exact settled.trans (leads_wait settled.orderly (now ▸ timely time rfl))
    · exact settled

theorem leads_advance (limit milliseconds : Nat) (orderly : m.Orderly) :
    m.Leads (m.advance limit milliseconds) := by
  unfold advance
  split
  · exact .refl orderly
  · refine leads_runUntil _ _ _ _ orderly fun time given => ?_
    cases given
    exact Nat.le_add_right _ _

theorem leads_stop (limit : Nat) (orderly : m.Orderly) : m.Leads (m.stop limit) := by
  have cancelled : m.Leads m.cancel := .evolves orderly rfl rfl .refl
  unfold stop
  split
  · exact cancelled
  · exact cancelled.trans (leads_runUntil _ _ _ _ cancelled.orderly nofun)

/-- A controller that is registered for a kind serves it. Whatever anybody does to the store then,
and however long the manager runs: unless its queue is shut down, it has begun a pass once nothing
is pending for an object of the kind that has changed. -/
theorem serves_registered {f : Reconciler} (orderly : m.Orderly) (own : f.Orderly) (kind : Kind)
    (name : String) (unheard : m.session.store.listeners.get? kind = none)
    (listeners : ∀ k i, m.session.store.listeners.get? k = some i → i < m.controllers.length)
    (sent : ∀ notice ∈ m.session.sent, notice.listener < m.controllers.length)
    (changed : (m.register kind { name, reconciler := f }).session.Evolves s)
    (limit milliseconds : Nat) :
    let started : Manager := { m.register kind { name, reconciler := f } with session := s }
    let m' := started.advance limit milliseconds
    ∃ c : Controller, m'.controllers[m.controllers.length]? = some c ∧
      ∀ r : Request, c.queue.shuttingDown = false →
        m'.session.store.get? (r.key kind) ≠ m.session.store.get? (r.key kind) →
        Dispatch.pending ⟨m'.session, c, m'.now⟩ m.controllers.length r = 0 → 0 < c.begun := by
  intro started m'
  obtain ⟨here, fresh⟩ := fresh_register m kind name f listeners sent
  have registered : (m.register kind { name, reconciler := f }).Orderly :=
    orderly_register orderly own kind name unheard
  have start : (m.register kind { name, reconciler := f }).Leads started :=
    .evolves registered rfl rfl changed
  have leads := start.trans (leads_advance limit milliseconds start.orderly)
  obtain ⟨c, there, -, led⟩ := leads.2 _ _ here
  obtain ⟨log, run⟩ := led kind
  exact ⟨c, there, fun r running differs settled =>
    run.serves fresh.sound rfl running differs settled⟩

end Manager

end Provisioner
