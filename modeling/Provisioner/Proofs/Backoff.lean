import Mathlib.Algebra.Group.Nat.Defs
import Mathlib.Data.List.Induction
import Provisioner.Proofs.QueueRuns

/-!
How long a request is put off that failed. The factor by which the first delay grows is a power of
two as long as that fits a word of 32 bits, and the greatest such word from then on; so the delay
doubles until it reaches the limit, if the limit is not out of reach of the greatest factor. The
delay is computed in machine words: what is shown of numbers is shown of the words too, and nothing
overflows. How often a request has failed depends on what was done with that request alone; this is
shown for one step of the queue and for a run by induction.
-/

namespace Provisioner

namespace WorkQueue

variable {base max n m : Nat} {r : Request}

/-! ### The delay -/

/-- The factor is a power of two, but never more than the greatest number that is counted. -/
theorem shift_eq (n : Nat) :
    (if n < 32 then 1 <<< n else countLimit) = min (2 ^ n) countLimit := by
  split
  · rename_i small
    have fits : 2 ^ n ≤ 2 ^ 31 := Nat.pow_le_pow_right (by decide) (Nat.le_of_lt_succ small)
    rw [Nat.one_shiftLeft, Nat.min_eq_left (Nat.le_trans fits (by decide))]
  · rename_i large
    have exceeds : 2 ^ 32 ≤ 2 ^ n := Nat.pow_le_pow_right (by decide) (Nat.le_of_not_lt large)
    rw [Nat.min_eq_right (Nat.le_trans (by decide) exceeds)]

theorem backoff_eq (base max n : Nat) :
    backoff base max n = min max (base * min (2 ^ n) countLimit) := by
  rw [backoff, shift_eq]

theorem backoff_le (base max n : Nat) : backoff base max n ≤ max := Nat.min_le_left _ _

theorem backoff_mono (base max : Nat) (later : n ≤ m) :
    backoff base max n ≤ backoff base max m := by
  have doubled : 2 ^ n ≤ 2 ^ m := Nat.pow_le_pow_right (by decide) later
  have factor : min (2 ^ n) countLimit ≤ min (2 ^ m) countLimit :=
    Nat.le_min.mpr ⟨Nat.le_trans (Nat.min_le_left _ _) doubled, Nat.min_le_right _ _⟩
  have product := Nat.mul_le_mul_left base factor
  rw [backoff_eq, backoff_eq]
  omega

/-- A limit in reach of the greatest factor is reached by doubling. -/
theorem backoff_doubles (reach : max ≤ base * countLimit) (n : Nat) :
    backoff base max n = min max (base * 2 ^ n) := by
  rw [backoff_eq]
  rcases Nat.le_total (2 ^ n) countLimit with fits | exceeds
  · rw [Nat.min_eq_left fits]
  · have product := Nat.mul_le_mul_left base exceeds
    rw [Nat.min_eq_right exceeds, Nat.min_eq_left reach,
      Nat.min_eq_left (Nat.le_trans reach product)]

/-- Failures that are not counted any more would make no difference. -/
theorem backoff_counted (base max n : Nat) :
    backoff base max (min countLimit n) = backoff base max n := by
  by_cases small : n < 32
  · rw [Nat.min_eq_right (Nat.le_trans (Nat.le_of_lt small) (by decide))]
  · have large : ¬ min countLimit n < 32 := by
      rw [countLimit]
      omega
    simp only [backoff, if_neg small, if_neg large]

/-! ### Machine words -/

/-- A product that fits a word. -/
def product? (a b : UInt64) : Option UInt64 :=
  if a.toNat * b.toNat < 2 ^ 64 then some (a * b) else none

/-- A sum that fits a word. -/
def sum? (a b : UInt64) : Option UInt64 :=
  if a.toNat + b.toNat < 2 ^ 64 then some (a + b) else none

theorem product?_cases (a b : UInt64) :
    (product? a b = none ∧ 2 ^ 64 ≤ a.toNat * b.toNat) ∨
      ∃ c, product? a b = some c ∧ c.toNat = a.toNat * b.toNat := by
  unfold product?
  split
  · rename_i fits
    exact .inr ⟨_, rfl, by rw [UInt64.toNat_mul, Nat.mod_eq_of_lt fits]⟩
  · rename_i exceeds
    exact .inl ⟨rfl, Nat.le_of_not_lt exceeds⟩

theorem sum?_cases (a b : UInt64) :
    (sum? a b = none ∧ 2 ^ 64 ≤ a.toNat + b.toNat) ∨
      ∃ c, sum? a b = some c ∧ c.toNat = a.toNat + b.toNat := by
  unfold sum?
  split
  · rename_i fits
    exact .inr ⟨_, rfl, by rw [UInt64.toNat_add, Nat.mod_eq_of_lt fits]⟩
  · rename_i exceeds
    exact .inl ⟨rfl, Nat.le_of_not_lt exceeds⟩

/-- A stretch of time in machine words. -/
structure Span where
  seconds : UInt64
  /-- The nanoseconds beside the whole seconds. -/
  nanos : UInt32
  nanos_lt : nanos.toNat < 1000000000

namespace Span

/-- The length in nanoseconds. -/
def value (s : Span) : Nat := s.seconds.toNat * 1000000000 + s.nanos.toNat

/-- The longest stretch of time. -/
def longest : Span := ⟨0xFFFFFFFFFFFFFFFF, 999999999, by decide⟩

theorem value_longest : longest.value + 1 = 2 ^ 64 * 1000000000 := by decide

theorem value_le_longest (s : Span) : s.value ≤ longest.value := by
  have seconds := s.seconds.toNat_lt
  have nanos := s.nanos_lt
  have greatest := value_longest
  rw [value]
  omega

/-- The shorter one, by the seconds first. -/
def shorter (s t : Span) : Span :=
  if t.seconds < s.seconds ∨ t.seconds = s.seconds ∧ t.nanos < s.nanos then t else s

theorem value_shorter (s t : Span) : (s.shorter t).value = min s.value t.value := by
  have sBound := s.nanos_lt
  have tBound := t.nanos_lt
  unfold shorter value
  split
  all_goals
    rename_i less
    rw [UInt64.lt_iff_toNat_lt, UInt32.lt_iff_toNat_lt, ← UInt64.toNat_inj] at less
    omega

/-- The nanoseconds of a multiple, whole seconds among them. -/
def nanosTimes (s : Span) (factor : UInt32) : UInt64 := s.nanos.toUInt64 * factor.toUInt64

/-- They always fit a word. -/
theorem toNat_nanosTimes (s : Span) (factor : UInt32) :
    (s.nanosTimes factor).toNat = s.nanos.toNat * factor.toNat := by
  have fits : s.nanos.toNat * factor.toNat < 2 ^ 64 :=
    Nat.lt_of_le_of_lt (Nat.mul_le_mul (Nat.le_of_lt s.nanos_lt) (Nat.le_of_lt factor.toNat_lt))
      (by decide)
  rw [nanosTimes, UInt64.toNat_mul, UInt32.toNat_toUInt64, UInt32.toNat_toUInt64,
    Nat.mod_eq_of_lt fits]

/-- The nanoseconds of a multiple beside the whole seconds. -/
theorem toNat_nanosTimes_mod (s : Span) (factor : UInt32) :
    (s.nanosTimes factor % 1000000000).toUInt32.toNat =
      s.nanos.toNat * factor.toNat % 1000000000 := by
  have small : s.nanos.toNat * factor.toNat % 1000000000 < 1000000000 :=
    Nat.mod_lt _ (by decide)
  rw [UInt64.toNat_toUInt32, UInt64.toNat_mod, toNat_nanosTimes]
  exact Nat.mod_eq_of_lt (Nat.lt_trans small (by decide))

/-- A multiple, if it is a stretch of time. -/
def times? (s : Span) (factor : UInt32) : Option Span := do
  let whole ← product? s.seconds factor.toUInt64
  let seconds ← sum? whole (s.nanosTimes factor / 1000000000)
  return ⟨seconds, (s.nanosTimes factor % 1000000000).toUInt32, by
    rw [toNat_nanosTimes_mod]
    exact Nat.mod_lt _ (by decide)⟩

/-- Whole units are carried from the smaller part of a multiple to the greater one. -/
theorem times_carry (great small factor unit : Nat) :
    (great * unit + small) * factor =
      (great * factor + small * factor / unit) * unit + small * factor % unit := by
  rw [Nat.add_mul, Nat.add_mul, Nat.mul_right_comm great factor unit, Nat.add_assoc,
    Nat.div_add_mod']

/-- A multiple is exact, or it would be longer than any stretch of time. -/
theorem times?_cases (s : Span) (factor : UInt32) :
    (s.times? factor = none ∧ longest.value < s.value * factor.toNat) ∨
      ∃ t, s.times? factor = some t ∧ t.value = s.value * factor.toNat := by
  have greatest := value_longest
  have carried := times_carry s.seconds.toNat s.nanos.toNat factor.toNat 1000000000
  rw [← value] at carried
  rcases product?_cases s.seconds factor.toUInt64 with ⟨product, exceeds⟩ | ⟨whole, product, exact⟩
  · rw [UInt32.toNat_toUInt64] at exceeds
    refine .inl ⟨by rw [times?, product]; rfl, ?_⟩
    omega
  · rw [UInt32.toNat_toUInt64] at exact
    rcases sum?_cases whole (s.nanosTimes factor / 1000000000) with
      ⟨sum, exceeds⟩ | ⟨all, sum, total⟩
    · rw [exact, UInt64.toNat_div, toNat_nanosTimes] at exceeds
      refine .inl ⟨by rw [times?, product, Option.bind_eq_bind, Option.bind_some, sum]; rfl, ?_⟩
      rw [carried]
      exact Nat.lt_of_succ_le (by
        rw [Nat.succ_eq_add_one, greatest]
        exact Nat.le_trans (Nat.mul_le_mul_right _ exceeds) (Nat.le_add_right _ _))
    · rw [exact, UInt64.toNat_div, toNat_nanosTimes] at total
      refine .inr ⟨_, by rw [times?, product, Option.bind_eq_bind, Option.bind_some, sum]; rfl, ?_⟩
      rw [value, toNat_nanosTimes_mod, total, carried]
      rfl

/-- A multiple, or the longest stretch of time. -/
def times (s : Span) (factor : UInt32) : Span := (s.times? factor).getD longest

theorem value_times (s : Span) (factor : UInt32) :
    (s.times factor).value = min longest.value (s.value * factor.toNat) := by
  rcases s.times?_cases factor with ⟨none, exceeds⟩ | ⟨t, some, exact⟩
  · rw [times, none, Option.getD_none, Nat.min_eq_left (Nat.le_of_lt exceeds)]
  · rw [times, some, Option.getD_some, ← exact, Nat.min_eq_right t.value_le_longest]

end Span

/-- The factor after a number of failures, which is shifted no further than its word is wide. -/
def factor (failures : UInt32) : UInt32 := if failures < 32 then 1 <<< failures else 0xFFFFFFFF

theorem toNat_factor (failures : UInt32) :
    (factor failures).toNat = min (2 ^ failures.toNat) countLimit := by
  have compared : failures < 32 ↔ failures.toNat < 32 := UInt32.lt_iff_toNat_lt
  rw [← shift_eq]
  unfold factor
  by_cases small : failures.toNat < 32
  · have fits : 2 ^ failures.toNat < 2 ^ 32 := Nat.pow_lt_pow_right (by decide) small
    rw [if_pos (compared.mpr small), if_pos small, UInt32.toNat_shiftLeft, UInt32.toNat_one,
      Nat.mod_eq_of_lt small, Nat.one_shiftLeft, Nat.mod_eq_of_lt fits]
  · rw [if_neg fun less => small (compared.mp less), if_neg small]
    rfl

/-- One failure more, as long as a word counts it. -/
def counted (failures : UInt32) : UInt32 :=
  if failures = 0xFFFFFFFF then failures else failures + 1

theorem toNat_counted (failures : UInt32) :
    (counted failures).toNat = min countLimit (failures.toNat + 1) := by
  have bound := failures.toNat_lt
  have compared : failures = 0xFFFFFFFF ↔ failures.toNat = 4294967295 := UInt32.toNat_inj.symm
  unfold counted countLimit
  split
  · rename_i full
    have value := compared.mp full
    omega
  · rename_i free
    have value := mt compared.mpr free
    rw [UInt32.toNat_add, UInt32.toNat_one]
    omega

/-- The delay in machine words. -/
def spanAfter (base max : Span) (failures : UInt32) : Span :=
  (base.times (factor failures)).shorter max

/-- Words compute the delay as numbers do. -/
theorem value_spanAfter (base max : Span) (failures : UInt32) :
    (spanAfter base max failures).value = backoff base.value max.value failures.toNat := by
  have bound := max.value_le_longest
  rw [spanAfter, Span.value_shorter, Span.value_times, toNat_factor, backoff_eq]
  omega

/-! ### Acts -/

/-- What is done at a queue. -/
inductive Act
  | add (r : Request)
  | addAfter (delay : Nat) (r : Request)
  | addLimited (r : Request)
  | forget (r : Request)
  /-- The delayed request at a place enters, if its time has come. -/
  | fire (place : Nat)
  | pass (milliseconds : Nat)
  | ask (getter : Nat)
  | resume (getter : Nat)
  | giveUp (getter : Nat)
  | close
  deriving DecidableEq

/-- The delayed request at a place enters. -/
def fire (q : WorkQueue) (now place : Nat) : WorkQueue :=
  match q.delayed[place]? with
  | some d =>
    if d.due ≤ now then { q with delayed := q.delayed.eraseIdx place }.enter d.request else q
  | none => q

namespace Moment

def after (x : Moment) : Act → Moment
  | .add r => { x with queue := x.queue.enter r }
  | .addAfter delay r => { x with queue := x.queue.enterAfter x.now delay r }
  | .addLimited r => { x with queue := x.queue.enterLimited x.now r }
  | .forget r => { x with queue := x.queue.forget r }
  | .fire place => { x with queue := x.queue.fire x.now place }
  | .pass milliseconds => { x with now := x.now + milliseconds }
  | .ask g => { x with queue := (x.queue.look g).2 }
  | .resume g => { x with queue := (look { x.queue with woken := x.queue.woken.erase g } g).2 }
  | .giveUp g => { x with queue := x.queue.abandon g }
  | .close => { x with queue := x.queue.shutDown }

def through (x : Moment) (acts : List Act) : Moment := acts.foldl after x

@[simp] theorem through_append (x : Moment) (acts more : List Act) :
    x.through (acts ++ more) = (x.through acts).through more := List.foldl_append

/-- A request is put off by a delay, and enters at once if there is none. -/
structure PutsOff (x : Moment) (r : Request) (delay : Nat) (y : Moment) : Prop where
  delayed : y.queue.delayed = x.queue.delayed ++ if delay = 0 then [] else [⟨x.now + delay, r⟩]
  items : y.queue.items =
    x.queue.items ++ if delay = 0 ∧ x.queue.shuttingDown = false then [r] else []

end Moment

variable {x y : Moment}

/-- Every step of a queue is one of the acts. -/
theorem Step.act {e : Event} (step : Step x e y) : ∃ a, y = x.after a := by
  cases step with
  | add r => exact ⟨.add r, rfl⟩
  | addAfter delay r => exact ⟨.addAfter delay r, rfl⟩
  | addLimited r => exact ⟨.addLimited r, rfl⟩
  | forget r => exact ⟨.forget r, rfl⟩
  | @fire before after d set due =>
    have found : x.queue.delayed[before.length]? = some d := by simp [set]
    have rest : x.queue.delayed.eraseIdx before.length = before ++ after := by
      simp [set, List.eraseIdx_append_of_length_le]
    refine ⟨.fire before.length, ?_⟩
    simp only [Moment.after, WorkQueue.fire, found, rest, if_pos due]
  | @pass now later =>
    refine ⟨.pass (now - x.now), ?_⟩
    simp only [Moment.after, Nat.add_sub_cancel' later]
  | ask => exact ⟨.ask _, rfl⟩
  | resume => exact ⟨.resume _, rfl⟩
  | giveUp => exact ⟨.giveUp _, rfl⟩
  | close => exact ⟨.close, rfl⟩

/-! ### Failures -/

@[simp] theorem failures_abandon (q : WorkQueue) (g : Nat) :
    (q.abandon g).failures = q.failures := by
  unfold abandon
  split
  · dsimp only
    split
    · rfl
    · rw [failures_announce]
  · rfl

@[simp] theorem failures_fire (q : WorkQueue) (now place : Nat) :
    (q.fire now place).failures = q.failures := by
  unfold fire
  split
  · split
    · rw [failures_enter]
    · rfl
  · rfl

/-- How often a request was handed in for a failure since it was last forgotten. -/
def limited (r : Request) (acts : List Act) : Nat :=
  (acts.reverse.takeWhile (· ≠ .forget r)).count (.addLimited r)

theorem limited_append_single (r : Request) (acts : List Act) (a : Act) :
    limited r (acts ++ [a]) =
      if a = .forget r then 0 else limited r acts + if a = .addLimited r then 1 else 0 := by
  unfold limited
  rw [count_back_append_single]
  simp only [decide_eq_true_eq, ite_not]

/-- What was done with other requests does not count. -/
theorem limited_filter (r : Request) (acts : List Act) :
    limited r (acts.filter fun a => a = .addLimited r ∨ a = .forget r) = limited r acts := by
  induction acts using List.reverseRecOn with
  | nil => rfl
  | append_singleton acts a ih =>
    rw [List.filter_append, limited_append_single]
    by_cases own : a = .addLimited r ∨ a = .forget r
    · rw [List.filter_cons_of_pos (by simpa using own), List.filter_nil, limited_append_single,
        ih]
    · obtain ⟨other, kept⟩ := not_or.mp own
      rw [List.filter_cons_of_neg (by simpa using own), List.filter_nil, List.append_nil,
        if_neg kept, if_neg other, ih, Nat.add_zero]

/-- The failures of a request are changed only by what is done with that request. -/
theorem requeues_after (x : Moment) (a : Act) (r : Request) :
    (x.after a).queue.requeues r =
      if a = .forget r then 0
      else if a = .addLimited r then min countLimit (x.queue.requeues r + 1)
      else x.queue.requeues r := by
  cases a with
  | addLimited r' =>
    by_cases same : r = r'
    · simp [Moment.after, requeues, enterLimited, same]
    · simp [Moment.after, requeues, enterLimited, same, Ne.symm same]
  | forget r' =>
    by_cases same : r = r'
    · simp [Moment.after, requeues, WorkQueue.forget, same]
    · simp [Moment.after, requeues, WorkQueue.forget, same, Ne.symm same]
  | _ => simp [Moment.after, requeues, shutDown]

theorem requeues_through (x : Moment) (acts : List Act) (r : Request)
    (fresh : x.queue.requeues r = 0) :
    (x.through acts).queue.requeues r = min countLimit (limited r acts) := by
  induction acts using List.reverseRecOn with
  | nil => simp [Moment.through, limited, fresh]
  | append_singleton acts a ih =>
    rw [Moment.through_append, limited_append_single]
    change ((x.through acts).after a).queue.requeues r = _
    rw [requeues_after, ih]
    split
    · rfl
    · split <;> omega

/-! ### Limits -/

/-- The first delay and the greatest one, which are set when a queue is made. -/
def bounds (q : WorkQueue) : Nat × Nat := (q.baseDelay, q.maxDelay)

@[simp] theorem bounds_announce (q : WorkQueue) : q.announce.bounds = q.bounds := by
  unfold announce
  split <;> rfl

@[simp] theorem bounds_enter (q : WorkQueue) (r : Request) : (q.enter r).bounds = q.bounds := by
  unfold enter
  split
  · rfl
  · exact bounds_announce _

@[simp] theorem bounds_enterAfter (q : WorkQueue) (now delay : Nat) (r : Request) :
    (q.enterAfter now delay r).bounds = q.bounds := by
  unfold enterAfter
  split
  · exact bounds_enter q r
  · rfl

@[simp] theorem bounds_look (q : WorkQueue) (g : Nat) : (q.look g).2.bounds = q.bounds := by
  unfold look
  split
  · rfl
  · split <;> rfl

theorem bounds_after (x : Moment) (a : Act) : (x.after a).queue.bounds = x.queue.bounds := by
  cases a with
  | add r => exact bounds_enter _ r
  | addAfter delay r => exact bounds_enterAfter _ _ delay r
  | addLimited r => exact bounds_enterAfter _ _ _ r
  | fire place =>
    dsimp only [Moment.after, WorkQueue.fire]
    split
    · split
      · exact bounds_enter _ _
      · rfl
    · rfl
  | ask g => exact bounds_look _ g
  | resume g => exact bounds_look _ g
  | giveUp g =>
    dsimp only [Moment.after, abandon]
    split
    · split
      · rfl
      · exact bounds_announce _
    · rfl
  | forget | pass | close => rfl

theorem bounds_through (x : Moment) (acts : List Act) :
    (x.through acts).queue.bounds = x.queue.bounds := by
  induction acts generalizing x with
  | nil => rfl
  | cons a rest ih => exact (ih (x.after a)).trans (bounds_after x a)

/-! ### Delays of a run -/

theorem putsOff_addLimited (x : Moment) (r : Request) :
    x.PutsOff r (backoff x.queue.baseDelay x.queue.maxDelay (x.queue.requeues r))
      (x.after (.addLimited r)) := by
  let q : WorkQueue := { x.queue with
    failures := x.queue.failures.insert r (min countLimit (x.queue.requeues r + 1)) }
  refine ⟨delayed_enterAfter q x.now _ r, ?_⟩
  dsimp only [Moment.after, enterLimited, enterAfter]
  split
  · rename_i none
    rw [items_enter]
    cases x.queue.shuttingDown <;> simp [none]
  · rename_i some
    simp [some]

/-- A request that failed is put off by the delay for as many failures as it had before since it was
last forgotten, whatever was done with other requests. -/
theorem putsOff_through (base max start : Nat) (acts : List Act) (r : Request) :
    let x := Moment.through ⟨start, { baseDelay := base, maxDelay := max }⟩ acts
    x.PutsOff r (backoff base max (limited r acts)) (x.after (.addLimited r)) := by
  intro x
  have bounds : x.queue.bounds = (base, max) := bounds_through _ acts
  have failures : x.queue.requeues r = min countLimit (limited r acts) :=
    requeues_through _ acts r rfl
  have off := putsOff_addLimited x r
  rwa [failures, backoff_counted, (Prod.mk.inj bounds).1, (Prod.mk.inj bounds).2] at off

/-- The delay of a request that failed doubles up to the limit. It is the one for as many failures
as the request had since it was last forgotten, by what was done with that request alone; with a
limit in reach, the `n`-th failure puts it off by the base times a power of two, or by the limit.
Whatever base and limit there are, the delay is at most the limit and grows with the failures, their
number is counted within its word, and in machine words all of this comes out as it does in
numbers. -/
theorem delay_of_failures (base max : Nat) :
    (∀ start acts r,
      let x := Moment.through ⟨start, { baseDelay := base, maxDelay := max }⟩ acts
      let n := limited r (acts ++ [.addLimited r])
      1 ≤ n ∧ x.PutsOff r (backoff base max (n - 1)) (x.after (.addLimited r)) ∧
        (max ≤ base * countLimit →
          x.PutsOff r (min max (base * 2 ^ (n - 1))) (x.after (.addLimited r))) ∧
        limited r (acts.filter fun a => a = .addLimited r ∨ a = .forget r) = n - 1 ∧
        x.queue.requeues r = min countLimit (n - 1)) ∧
    (∀ n, backoff base max n ≤ max) ∧
    (∀ n m, n ≤ m → backoff base max n ≤ backoff base max m) ∧
    ∀ (first limit : Span) (n : UInt32),
      (factor n).toNat = min (2 ^ n.toNat) countLimit ∧
      (first.times (factor n)).value =
        min Span.longest.value (first.value * (factor n).toNat) ∧
      (spanAfter first limit n).value = backoff first.value limit.value n.toNat ∧
      (counted n).toNat = min countLimit (n.toNat + 1) := by
  refine ⟨fun start acts r => ?_, backoff_le base max, fun _ _ => backoff_mono base max,
    fun first limit n => ⟨toNat_factor n, first.value_times _, value_spanAfter first limit n,
      toNat_counted n⟩⟩
  have one : limited r (acts ++ [.addLimited r]) = limited r acts + 1 := by
    simp [limited_append_single]
  have off := putsOff_through base max start acts r
  dsimp only
  rw [one, Nat.add_sub_cancel]
  exact ⟨Nat.le_add_left 1 _, off, fun reach => backoff_doubles reach (limited r acts) ▸ off,
    limited_filter r acts, requeues_through _ acts r rfl⟩

end WorkQueue

namespace Sample

open WorkQueue

/-- One request fails twice, is forgotten and fails three times more; another one fails between. -/
def failing : List Act :=
  [.addLimited ⟨"demo", "a"⟩, .addLimited ⟨"demo", "a"⟩, .addLimited ⟨"demo", "b"⟩,
    .forget ⟨"demo", "a"⟩, .addLimited ⟨"demo", "a"⟩, .pass 20, .fire 0,
    .addLimited ⟨"demo", "a"⟩, .forget ⟨"demo", "b"⟩, .addLimited ⟨"demo", "a"⟩]

end Sample

/-- The fourth failure since the request was forgotten puts it off by forty milliseconds, and the
twentieth would by the limit. -/
theorem WorkQueue.delay_of_failures_sample :
    let x := Moment.through ⟨0, { baseDelay := 5, maxDelay := 1000000 }⟩ Sample.failing
    x.PutsOff ⟨"demo", "a"⟩ 40 (x.after (.addLimited ⟨"demo", "a"⟩)) ∧
      (x.after (.addLimited ⟨"demo", "a"⟩)).queue.delayed.getLast? = some ⟨60, ⟨"demo", "a"⟩⟩ ∧
      backoff 5 1000000 3 ≤ backoff 5 1000000 19 := by
  obtain ⟨placed, -, grows, -⟩ := WorkQueue.delay_of_failures 5 1000000
  obtain ⟨-, -, doubled, -⟩ := placed 0 Sample.failing ⟨"demo", "a"⟩
  exact ⟨doubled (by decide), by decide, grows 3 19 (by decide)⟩

end Provisioner
