import Provisioner.Proofs.Operations

/-!
The life of an entry of a store, from when its key is first written until it is removed. Whatever
generation and times the writers tell, the generation of the entry counts the changes of its
specification, the time at which it was asked to be deleted stays once it is told, and only a
deletion that finds no finalizers takes the entry out. All of this is read off what one occurrence
can make of an entry.
-/

namespace Provisioner

variable {s : Session} {key : ObjectKey} {o p w : Object} {g : Int} {now d : Timestamp}

/-- The kinds of object whose specification the generation is about. -/
def Kind.IsSpecified (kind : Kind) : Prop :=
  kind = .configuration ∨ kind = .provider ∨ kind = .job

/-- What every entry under a key is: an object of the key's kind that tells a generation. -/
structure Object.Settled (key : ObjectKey) (o : Object) : Prop where
  kind : o.kind = key.kind
  told : o.metadata.generation.isSome

/-! ### What a write keeps -/

namespace Object

def leastGeneration : Int := -0x8000000000000000

/-- The last generation of 64 bits. -/
def lastGeneration : Int := 0x7fffffffffffffff

/-- Up to the last generation the next one is one more. -/
theorem nextGeneration_of_lt {n : Int} (lower : leastGeneration ≤ n) (upper : n < lastGeneration) :
    nextGeneration n = n + 1 := by
  unfold leastGeneration at lower
  unfold lastGeneration at upper
  unfold nextGeneration
  rw [Int.bmod_def]
  omega

theorem sameSpec_takingOver (p o q : Object) : (p.takingOver o).sameSpec q = o.sameSpec q := by
  unfold sameSpec takingOver
  rw [specJson?_withMetadata]

/-- A write with the same specification keeps the generation. -/
theorem generation_of_sameSpec (told : p.metadata.generation = some g)
    (same : w.sameSpec p = true) : (w.stored now (some p)).metadata.generation = some g := by
  simp only [stored, replacing, sameSpec_takingOver, same, if_true]
  split
  · exact told
  · simp [takingOver, told]

/-- A write with another specification is never passed over and moves the generation on. -/
theorem generation_of_respecified (told : p.metadata.generation = some g)
    (differs : w.sameSpec p = false) :
    (w.stored now (some p)).metadata.generation = some (nextGeneration g) := by
  have unlike : ¬ (p.takingOver w).same p = true := fun alike => by
    have spec := sameSpec_of_same alike
    rw [sameSpec_takingOver, differs] at spec
    cases spec
  simp only [stored, replacing, sameSpec_takingOver, differs, unlike, Bool.false_eq_true, if_false,
    Option.getD_some]
  simp [advanced, takingOver, told]

/-- A write keeps the time at which the deletion was asked for. -/
theorem deletion_stored (asked : p.metadata.deletionTimestamp = some d) :
    (w.stored now (some p)).metadata.deletionTimestamp = some d := by
  rcases stored_cases now w (some p) with ⟨q, here, stays, -⟩ | ⟨_, _, replaced⟩
  · cases here
    rw [stays, asked]
  · rw [replaced, metadata_timed]
    simp [asked]

theorem isSpecified_of_specJson? {v : Json} (specified : p.specJson? = some v) :
    p.kind.IsSpecified := by
  cases p with
  | configuration => exact .inl rfl
  | provider => exact .inr (.inl rfl)
  | job => exact .inr (.inr rfl)
  | _ => cases specified

/-- Objects of the other kinds have no specification that could change. -/
theorem isSpecified_of_respecified (kind : w.kind = p.kind) (differs : w.sameSpec p = false) :
    p.kind.IsSpecified := by
  unfold sameSpec at differs
  split at differs
  · rename_i specified
    exact isSpecified_of_specJson? specified
  · cases differs
  · rename_i unalike
    cases own : p.specJson? with
    | some v => exact isSpecified_of_specJson? own
    | none =>
      cases others : w.specJson? with
      | some v => exact kind ▸ isSpecified_of_specJson? others
      | none => exact absurd own (unalike others)

end Object

/-! ### What can happen to an entry -/

/-- What can happen to a store: an operation is asked for, somebody listens, time goes by. -/
inductive Occurrence : Type 1
  | operation (a : Operation)
  | register (kind : Kind) (listener : Nat)
  | clock (now : Timestamp)

/-- What is meant by an occurrence. -/
def Occurrence.intent (s : Store) : Occurrence → Intent
  | .operation a => a.intent s
  | _ => .nothing

namespace Intent

/-- The key that is meant. -/
def key? : Intent → Option ObjectKey
  | .nothing => none
  | .write key _ => some key
  | .delete key => some key

/-- Whether the entry under a key is written over with another specification. -/
def respecifies (key : ObjectKey) (entry : Option Object) : Intent → Bool
  | .write k w => k = key && entry.any fun p => !w.sameSpec p
  | _ => false

theorem respecifies_of_elsewhere {i : Intent} (elsewhere : i.key? ≠ some key)
    (entry : Option Object) : i.respecifies key entry = false := by
  cases i with
  | nothing => rfl
  | delete => rfl
  | write k w =>
    have other : k ≠ key := fun here => elsewhere (congrArg some here)
    simp [respecifies, other]

theorem respecifies_iff {i : Intent} :
    i.respecifies key (some p) = true ↔ ∃ w, i = .write key w ∧ w.sameSpec p = false := by
  cases i with
  | nothing => simp [respecifies]
  | delete => simp [respecifies]
  | write k w =>
    simp only [respecifies, Option.any_some, Bool.and_eq_true, decide_eq_true_eq, Bool.not_eq_true']
    constructor
    · rintro ⟨rfl, differs⟩
      exact ⟨w, rfl, differs⟩
    · rintro ⟨_, same, differs⟩
      cases same
      exact ⟨rfl, differs⟩

end Intent

namespace Session

def meet (s : Session) : Occurrence → Session
  | .operation a => a.leaves s
  | .register kind listener => { s with store := s.store.register kind listener }
  | .clock now => { s with now := now }

def through (s : Session) (l : List Occurrence) : Session := l.foldl meet s

/-- How often the entry under a key is written over with another specification. -/
def respecifications (key : ObjectKey) : Session → List Occurrence → Nat
  | _, [] => 0
  | s, e :: rest =>
    ((e.intent s.store).respecifies key (s.store.get? key)).toNat +
      respecifications key (s.meet e) rest

theorem through_append (l l' : List Occurrence) :
    s.through (l ++ l') = (s.through l).through l' := List.foldl_append

/-- What can be under a key after something was meant to be done, by what was there before. -/
inductive Turn (s : Session) (key : ObjectKey) : Option Object → Intent → Option Object → Prop
  | untouched {previous : Option Object} {i : Intent} (elsewhere : i.key? ≠ some key) :
      Turn s key previous i previous
  | written {previous : Option Object} {w : Object} (kind : w.kind = key.kind) :
      Turn s key previous (.write key w) (some (w.stored s.now previous))
  | missing : Turn s key none (.delete key) none
  | deferred {p : Object} (held : p.hasFinalizers = true) :
      Turn s key (some p) (.delete key) (some (s.marked p))
  | removed {p : Object} (free : p.hasFinalizers = false) :
      Turn s key (some p) (.delete key) none

theorem turn_delete (s : Session) (key : ObjectKey) :
    s.Turn key (s.store.get? key) (.delete key) ((s.delete key).2.store.get? key) := by
  cases held : s.store.get? key with
  | none =>
    have stays : (s.delete key).2 = s := by simp [delete, held]
    rw [stays, held]
    exact .missing
  | some p =>
    cases finalizers : p.hasFinalizers with
    | true =>
      rw [get?_delete_held held finalizers]
      exact .deferred finalizers
    | false =>
      rw [get?_delete_free held finalizers]
      exact .removed finalizers

theorem turn_meet (s : Session) (key : ObjectKey) (e : Occurrence) :
    s.Turn key (s.store.get? key) (e.intent s.store) ((s.meet e).store.get? key) := by
  cases e with
  | register kind listener => exact .untouched nofun
  | clock now => exact .untouched nofun
  | operation a =>
    simp only [meet, Occurrence.intent, a.leaves_eq]
    cases means : a.intent s.store with
    | nothing => exact .untouched nofun
    | write k w =>
      by_cases here : k = key
      · subst here
        simp only [carryOut, get?_write_self]
        exact .written (Operation.kind_of_intent means)
      · simp only [carryOut, get?_write_of_ne s w (Ne.symm here)]
        exact .untouched fun same => here (Option.some.inj same)
    | delete k =>
      by_cases here : k = key
      · subst here
        exact s.turn_delete k
      · simp only [carryOut, get?_delete_of_ne s (Ne.symm here)]
        exact .untouched fun same => here (Option.some.inj same)

namespace Turn

variable {previous next : Option Object} {i : Intent}

/-- Where nothing was stored of another kind or without a generation, nothing is. -/
theorem settled (turn : s.Turn key previous i next)
    (before : ∀ p, previous = some p → p.Settled key) : ∀ o, next = some o → o.Settled key := by
  intro o here
  cases turn with
  | untouched => exact before o here
  | written kind =>
    cases here
    exact ⟨(Object.kind_stored _ _ _).trans kind, Object.generation_stored _ _ _⟩
  | missing => cases here
  | @deferred p _ =>
    cases here
    have settled := before p rfl
    exact ⟨(Object.kind_withMetadata _ _).trans settled.kind, by simpa [marked] using settled.told⟩
  | removed => cases here

theorem generation (turn : s.Turn key (some p) i (some o))
    (told : p.metadata.generation = some g) :
    o.metadata.generation =
      some (if i.respecifies key (some p) then Object.nextGeneration g else g) := by
  cases turn with
  | untouched elsewhere =>
    rw [Intent.respecifies_of_elsewhere elsewhere]
    exact told
  | @written _ w kind =>
    cases same : w.sameSpec p with
    | true => simp [Intent.respecifies, same, Object.generation_of_sameSpec told same]
    | false => simp [Intent.respecifies, same, Object.generation_of_respecified told same]
  | deferred => simp [Intent.respecifies, marked, told]

theorem deletion (turn : s.Turn key (some p) i (some o))
    (asked : p.metadata.deletionTimestamp = some d) : o.metadata.deletionTimestamp = some d := by
  cases turn with
  | untouched => exact asked
  | written => exact Object.deletion_stored asked
  | deferred => simp [marked, asked]

theorem write (turn : s.Turn key previous (.write key w) next) :
    w.kind = key.kind ∧ next = some (w.stored s.now previous) := by
  cases turn with
  | untouched elsewhere => exact absurd rfl elsewhere
  | written kind => exact ⟨kind, rfl⟩

theorem mark (turn : s.Turn key (some p) (.delete key) next) (held : p.hasFinalizers = true) :
    next = some (s.marked p) := by
  cases turn with
  | untouched elsewhere => exact absurd rfl elsewhere
  | deferred => rfl
  | removed free => exact absurd (held.symm.trans free) nofun

theorem gone (turn : s.Turn key (some p) i none) : i = .delete key ∧ p.hasFinalizers = false := by
  cases turn with
  | removed free => exact ⟨rfl, free⟩

end Turn

/-! ### Runs -/

theorem settled_through (absent : s.store.get? key = none) (l : List Occurrence) :
    ∀ o, (s.through l).store.get? key = some o → o.Settled key := by
  suffices kept : ∀ s : Session, (∀ o, s.store.get? key = some o → o.Settled key) →
      ∀ o, (s.through l).store.get? key = some o → o.Settled key from
    kept s fun o held => absurd (absent.symm.trans held) nofun
  induction l with
  | nil => exact fun s before => before
  | cons e rest ih => exact fun s before => ih (s.meet e) ((s.turn_meet key e).settled before)

/-- The entry under a key stays there all the time. -/
def Stays (key : ObjectKey) (s : Session) (l : List Occurrence) : Prop :=
  ∀ part, part <+: l → ((s.through part).store.get? key).isSome

theorem stays_nil : s.Stays key [] ↔ (s.store.get? key).isSome := by
  unfold Stays
  simp only [List.prefix_nil, forall_eq]
  rfl

theorem stays_cons {e : Occurrence} {rest : List Occurrence} :
    s.Stays key (e :: rest) ↔ (s.store.get? key).isSome ∧ (s.meet e).Stays key rest := by
  constructor
  · exact fun stays => ⟨stays [] List.nil_prefix,
      fun part start => stays (e :: part) ((List.prefix_cons_inj e).mpr start)⟩
  · rintro ⟨first, later⟩ part start
    cases part with
    | nil => exact first
    | cons e' part =>
      obtain ⟨rfl, tail⟩ := List.cons_prefix_cons.mp start
      exact later part tail

theorem Stays.head {l : List Occurrence} (stays : s.Stays key l) : (s.store.get? key).isSome :=
  stays [] List.nil_prefix

theorem Stays.of_prefix {l part : List Occurrence} (stays : s.Stays key l) (start : part <+: l) :
    s.Stays key part := fun first before => stays first (before.trans start)

/-- An entry that stays through an occurrence and what follows goes on from what it turns into. -/
theorem Stays.turn {e : Occurrence} {rest : List Occurrence} (stays : s.Stays key (e :: rest))
    (held : s.store.get? key = some p) :
    ∃ q, (s.meet e).store.get? key = some q ∧
      s.Turn key (some p) (e.intent s.store) (some q) ∧ (s.meet e).Stays key rest := by
  have later := (stays_cons.mp stays).2
  obtain ⟨q, next⟩ := Option.isSome_iff_exists.mp later.head
  exact ⟨q, next, held ▸ next ▸ s.turn_meet key e, later⟩

/-- While an entry stays, its generation counts how often another specification is written. -/
theorem generation_through {l : List Occurrence} (stays : s.Stays key l)
    (held : s.store.get? key = some p) (told : p.metadata.generation = some g)
    (lower : Object.leastGeneration ≤ g)
    (upper : g + s.respecifications key l ≤ Object.lastGeneration)
    (after : (s.through l).store.get? key = some o) :
    o.metadata.generation = some (g + s.respecifications key l) := by
  induction l generalizing s p g with
  | nil =>
    cases held.symm.trans after
    simpa [respecifications] using told
  | cons e rest ih =>
    obtain ⟨q, next, turn, later⟩ := stays.turn held
    have step := turn.generation told
    simp only [respecifications, held] at upper ⊢
    cases changes : (e.intent s.store).respecifies key (some p) with
    | false =>
      simp only [changes, Bool.toNat_false, Bool.false_eq_true, if_false,
        Nat.zero_add] at step upper ⊢
      exact ih later next step lower upper after
    | true =>
      simp only [changes, Bool.toNat_true, if_true] at step upper ⊢
      rw [Object.nextGeneration_of_lt lower (by omega)] at step
      rw [ih later next step (by omega) (by omega) after]
      congr 1
      omega

/-- While an entry stays, the time at which its deletion was asked for stays. -/
theorem deletion_through {l : List Occurrence} (stays : s.Stays key l)
    (held : s.store.get? key = some p) (asked : p.metadata.deletionTimestamp = some d)
    (after : (s.through l).store.get? key = some o) : o.metadata.deletionTimestamp = some d := by
  induction l generalizing s p with
  | nil =>
    cases held.symm.trans after
    exact asked
  | cons e rest ih =>
    obtain ⟨q, next, turn, later⟩ := stays.turn held
    exact ih later next (turn.deletion asked) after

end Session

/-- Whatever has happened to a store since a key was free, the entry under the key tells a
generation, which an occurrence changes only by writing another specification of a kind that has
one, and then by one, up to the last generation of 64 bits. Only a deletion that finds no finalizers
takes the entry out, and one that finds some changes nothing of it but that it tells when it was
first asked for. While the entry stays, the generation counts the other specifications that were
written, and the time of the deletion, once it is told, stays the same. -/
theorem entry_over_runs (absent : s.store.get? key = none) (before : List Occurrence)
    (held : (s.through before).store.get? key = some o) :
    ∃ g, o.metadata.generation = some g ∧
      (∀ (e : Occurrence) o', ((s.through before).meet e).store.get? key = some o' →
        o'.metadata.generation ≠ some g → key.kind.IsSpecified ∧
          ∃ w, e.intent (s.through before).store = .write key w ∧ w.sameSpec o = false) ∧
      (∀ (e : Occurrence) w, e.intent (s.through before).store = .write key w →
        w.sameSpec o = false → Object.leastGeneration ≤ g → g < Object.lastGeneration →
          ∃ o', ((s.through before).meet e).store.get? key = some o' ∧
            o'.metadata.generation = some (g + 1)) ∧
      (∀ e : Occurrence, ((s.through before).meet e).store.get? key = none →
        e.intent (s.through before).store = .delete key ∧ o.hasFinalizers = false) ∧
      (∀ e : Occurrence, e.intent (s.through before).store = .delete key → o.hasFinalizers = true →
        ((s.through before).meet e).store.get? key =
          some (o.withMetadata
            { o.metadata with
              deletionTimestamp :=
                o.metadata.deletionTimestamp <|> some (s.through before).now })) ∧
      ∀ (later : List Occurrence) o', (s.through before).Stays key later →
        (s.through (before ++ later)).store.get? key = some o' →
          (∀ d, o.metadata.deletionTimestamp = some d → o'.metadata.deletionTimestamp = some d) ∧
          (Object.leastGeneration ≤ g →
            g + (s.through before).respecifications key later ≤ Object.lastGeneration →
              o'.metadata.generation =
                some (g + (s.through before).respecifications key later)) := by
  have settled := Session.settled_through absent before o held
  obtain ⟨g, told⟩ := Option.isSome_iff_exists.mp settled.told
  generalize reached : s.through before = s₁ at held ⊢
  have turn (e : Occurrence) :
      s₁.Turn key (some o) (e.intent s₁.store) ((s₁.meet e).store.get? key) :=
    held ▸ s₁.turn_meet key e
  refine ⟨g, told, fun e o' next moved => ?_, fun e w means differs lower upper => ?_,
    fun e gone => ?_, fun e means finalizers => ?_, fun later o' stays after => ?_⟩
  · have step := (next ▸ turn e).generation told
    cases respecified : (e.intent s₁.store).respecifies key (some o) with
    | false =>
      rw [respecified] at step
      exact absurd step moved
    | true =>
      obtain ⟨w, means, differs⟩ := Intent.respecifies_iff.mp respecified
      have kind := (means ▸ turn e).write.1
      have specified := Object.isSpecified_of_respecified (kind.trans settled.kind.symm) differs
      exact ⟨settled.kind ▸ specified, w, means, differs⟩
  · refine ⟨_, (means ▸ turn e).write.2, ?_⟩
    rw [Object.generation_of_respecified told differs, Object.nextGeneration_of_lt lower upper]
  · exact (gone ▸ turn e).gone
  · exact (means ▸ turn e).mark finalizers
  · rw [Session.through_append, reached] at after
    exact ⟨fun d asked => Session.deletion_through stays held asked after,
      fun lower upper => Session.generation_through stays held told lower upper after⟩

namespace Sample

/-- A session whose store has not been written to. -/
def unwritten : Session where
  store := {}
  now := ⟨0, 0⟩

def entryKey : ObjectKey := ⟨.configuration, "prod", "web"⟩

/-- A configuration that somebody's finalizer holds. -/
def hooked : Configuration where
  metadata := { name := some "web", ns := some "prod", finalizers := some ["example.org/hold"] }
  spec := { hcl := some "# nothing" }

/-- The configuration as it is stored when it has been added and asked to be deleted. -/
def hookedEntry : Configuration :=
  { hooked with
    metadata :=
      { hooked.metadata with
        generation := some 1
        creationTimestamp := some ⟨0, 0⟩
        deletionTimestamp := some ⟨0, 0⟩ } }

/-- The configuration is added and asked to be deleted. -/
def hooking : List Occurrence :=
  [.operation (.add Configuration hooked), .operation (.deleteByKey entryKey)]

/-- It is written with another specification, and a minute later asked again to be deleted. -/
def revising : List Occurrence :=
  [.operation (.update Configuration { hooked with spec := { hcl := some "# something" } }),
   .clock ⟨1, 0⟩,
   .operation (.deleteByKey entryKey)]

end Sample

/-- The generation is counted on, and the first time of the deletion is still told. -/
theorem entry_over_runs_revised :
    Sample.unwritten.store.get? Sample.entryKey = none ∧
    (Sample.unwritten.through Sample.hooking).store.get? Sample.entryKey =
      some (.configuration Sample.hookedEntry) ∧
    ∃ o, (Sample.unwritten.through (Sample.hooking ++ Sample.revising)).store.get?
        Sample.entryKey = some o ∧
      o.metadata.generation = some 2 ∧ o.metadata.deletionTimestamp = some ⟨0, 0⟩ := by
  have absent : Sample.unwritten.store.get? Sample.entryKey = none := rfl
  have held : (Sample.unwritten.through Sample.hooking).store.get? Sample.entryKey =
      some (.configuration Sample.hookedEntry) := rfl
  have stays : (Sample.unwritten.through Sample.hooking).Stays Sample.entryKey Sample.revising := by
    simp only [Sample.revising, Session.stays_cons, Session.stays_nil]
    exact ⟨rfl, rfl, rfl, rfl⟩
  obtain ⟨o, after⟩ := Option.isSome_iff_exists.mp (show ((Sample.unwritten.through
    (Sample.hooking ++ Sample.revising)).store.get? Sample.entryKey).isSome from rfl)
  obtain ⟨g, told, -, -, -, -, runs⟩ := entry_over_runs absent Sample.hooking held
  cases told
  obtain ⟨deletion, generation⟩ := runs Sample.revising o stays after
  exact ⟨absent, held, o, after, generation (by decide) (by decide), deletion _ rfl⟩

end Provisioner
