import Provisioner.Terraform.Source

/-!
Two ways of reading a JSON document agree on what is one. Values are read with fuel, and more fuel
changes nothing that has been read. So an object that can be read as a value can also be read member
by member into a dictionary, and is the same object then, which is how the source of a configuration
is read once it has been found to be valid.
-/

namespace Provisioner.Json.Reader

variable {α β : Type} {c c' : Cursor} {fuel fuel' depth : Nat}

/-- The reader succeeds with a value and stops at a cursor. -/
def Reads (p : Reader α) (c : Cursor) (a : α) (c' : Cursor) : Prop :=
  (ExceptT.run p).run c = (.ok a, c')

theorem reads_pure (a : α) (c : Cursor) : Reads (pure a) c a c := rfl

theorem reads_bind {p : Reader α} {f : α → Reader β} {b : β} :
    Reads (p >>= f) c b c' ↔ ∃ a c₁, Reads p c a c₁ ∧ Reads (f a) c₁ b c' := by
  unfold Reads
  rw [ExceptT.run_bind, StateT.run_bind]
  rcases (ExceptT.run p).run c with ⟨e | a, c₁⟩
  · constructor
    · intro failed
      cases failed
    · rintro ⟨a, c₂, ran, -⟩
      cases ran
  · constructor
    · exact fun ran => ⟨a, c₁, rfl, ran⟩
    · rintro ⟨a', c₂, ran, rest⟩
      cases ran
      exact rest

theorem not_reads_failAhead {fault : Fault} {a : α} : ¬ Reads (failAhead fault) c a c' := nofun

/-- What follows on a first reader reads whatever it read before if it did not depend on it. -/
theorem Reads.bind {p : Reader α} {f : α → Reader β} {a : α} {b : β} {c₁ : Cursor}
    (first : Reads p c a c₁) (second : Reads (f a) c₁ b c') : Reads (p >>= f) c b c' :=
  reads_bind.mpr ⟨a, c₁, first, second⟩

/-! ### Fuel -/

/-- A value whose first byte is known, its elements or members read by other readers. -/
def valueFrom (elements : Reader (List Json)) (members : Reader (List (String × Json)))
    (depth : Nat) : Option UInt8 → Reader Json
  | none => failAhead .endInValue
  | some 0x6E => do skipByte; word ['u', 'l', 'l']; return .null
  | some 0x74 => do skipByte; word ['r', 'u', 'e']; return .bool true
  | some 0x66 => do skipByte; word ['a', 'l', 's', 'e']; return .bool false
  | some 0x2D => do skipByte; return .num (← number false)
  | some 0x22 => do skipByte; return .str (← text)
  | some 0x5B => do openLevel depth; return .arr (← elements)
  | some 0x7B => do openLevel depth; return .obj (← members)
  | some b => if isDigit b then return .num (← number true) else failAhead .expectedValue

theorem value_succ (fuel depth : Nat) :
    value .any (fuel + 1) depth = peekToken >>= valueFrom
      (elements .any fuel (depth - 1) true) (members .any fuel (depth - 1) true) depth := by
  rw [value]
  rfl

theorem elements_succ (fuel depth : Nat) (first : Bool) :
    elements .any (fuel + 1) depth first = (do
      if ← moreElements first then
        let v ← value .any fuel depth
        return v :: (← elements .any fuel depth false)
      else
        skipByte
        return []) := by
  rw [elements]
  rfl

theorem members_succ (fuel depth : Nat) (first : Bool) :
    members .any (fuel + 1) depth first = (do
      if ← moreMembers first then
        let name ← memberName
        let v ← value .any fuel depth
        return (name, v) :: (← members .any fuel depth false)
      else
        skipByte
        return []) := by
  rw [members]
  rfl

/-- A value is read the same by readers that read elements and members the same. -/
theorem Reads.valueFrom {es es' : Reader (List Json)} {ms ms' : Reader (List (String × Json))}
    {first : Option UInt8} {v : Json} (read : Reads (valueFrom es ms depth first) c v c')
    (elements : ∀ {c vs c'}, Reads es c vs c' → Reads es' c vs c')
    (members : ∀ {c vs c'}, Reads ms c vs c' → Reads ms' c vs c') :
    Reads (valueFrom es' ms' depth first) c v c' := by
  unfold Reader.valueFrom at read ⊢
  split at read
  case h_7 =>
    obtain ⟨u, c₁, opened, rest⟩ := reads_bind.mp read
    obtain ⟨vs, c₂, listed, rest⟩ := reads_bind.mp rest
    exact opened.bind ((elements listed).bind rest)
  case h_8 =>
    obtain ⟨u, c₁, opened, rest⟩ := reads_bind.mp read
    obtain ⟨vs, c₂, listed, rest⟩ := reads_bind.mp rest
    exact opened.bind ((members listed).bind rest)
  all_goals exact read

/-- One more unit of fuel changes nothing that has been read. -/
theorem reads_succ (fuel : Nat) :
    (∀ {depth c v c'}, Reads (value .any fuel depth) c v c' →
      Reads (value .any (fuel + 1) depth) c v c') ∧
    (∀ {depth first c vs c'}, Reads (elements .any fuel depth first) c vs c' →
      Reads (elements .any (fuel + 1) depth first) c vs c') ∧
    (∀ {depth first c vs c'}, Reads (members .any fuel depth first) c vs c' →
      Reads (members .any (fuel + 1) depth first) c vs c') := by
  induction fuel with
  | zero =>
    refine ⟨fun read => ?_, fun read => ?_, fun read => ?_⟩
    · rw [value] at read
      exact absurd read not_reads_failAhead
    · rw [elements] at read
      exact absurd read not_reads_failAhead
    · rw [members] at read
      exact absurd read not_reads_failAhead
  | succ fuel ih =>
    obtain ⟨values, elements, members⟩ := ih
    refine ⟨fun read => ?_, fun read => ?_, fun read => ?_⟩
    · rw [value_succ] at read ⊢
      obtain ⟨first, c₁, peeked, rest⟩ := reads_bind.mp read
      exact peeked.bind (rest.valueFrom elements members)
    · rw [elements_succ] at read ⊢
      obtain ⟨more, c₁, asked, rest⟩ := reads_bind.mp read
      refine asked.bind ?_
      cases more with
      | false => exact rest
      | true =>
        obtain ⟨v, c₂, item, rest⟩ := reads_bind.mp rest
        obtain ⟨vs, c₃, others, rest⟩ := reads_bind.mp rest
        exact (values item).bind ((elements others).bind rest)
    · rw [members_succ] at read ⊢
      obtain ⟨more, c₁, asked, rest⟩ := reads_bind.mp read
      refine asked.bind ?_
      cases more with
      | false => exact rest
      | true =>
        obtain ⟨name, c₂, named, rest⟩ := reads_bind.mp rest
        obtain ⟨v, c₃, item, rest⟩ := reads_bind.mp rest
        obtain ⟨vs, c₄, others, rest⟩ := reads_bind.mp rest
        exact named.bind ((values item).bind ((members others).bind rest))

/-- More fuel changes nothing that has been read. -/
theorem Reads.more {v : Json} (read : Reads (value .any fuel depth) c v c') (le : fuel ≤ fuel') :
    Reads (value .any fuel' depth) c v c' := by
  induction le with
  | refl => exact read
  | step _ ih => exact (reads_succ _).1 ih

/-! ### Dictionaries -/

theorem Reads.map {p : Reader α} {a : α} (read : Reads p c a c') (f : α → β) :
    Reads (f <$> p) c (f a) c' := by
  rw [← bind_pure_comp]
  exact read.bind (reads_pure _ _)

theorem afterWhile_again (p : UInt8 → Bool) (bytes : Text.Bytes) (line column : Nat) :
    afterWhile p (afterWhile p bytes line column).rest (afterWhile p bytes line column).line
      (afterWhile p bytes line column).column = afterWhile p bytes line column := by
  induction bytes generalizing line column with
  | nil => rfl
  | cons b rest ih =>
    have step : afterWhile p (b :: rest) line column =
        if p b then
          if b == 0x0A then afterWhile p rest (line + 1) 0 else afterWhile p rest line (column + 1)
        else ⟨b :: rest, line, column⟩ := rfl
    rw [step]
    cases holds : p b with
    | true =>
      simp only [if_true]
      split
      · exact ih _ _
      · exact ih _ _
    | false =>
      unfold afterWhile
      simp [holds]

theorem reads_peekToken : Reads peekToken c (afterWhile isSpace c.rest c.line c.column).rest.head?
    (afterWhile isSpace c.rest c.line c.column) := rfl

/-- Looking at the next byte again does not move. -/
theorem reads_peekToken_again {b : Option UInt8} (peeked : Reads peekToken c b c') :
    Reads peekToken c' b c' := by
  cases reads_peekToken.symm.trans peeked
  have again := reads_peekToken (c := afterWhile isSpace c.rest c.line c.column)
  rwa [afterWhile_again] at again

/-- An object that does not go on has its closing brace next. -/
theorem reads_brace {first : Bool} (ended : Reads (moreMembers first) c false c') :
    Reads peekToken c (some 0x7D) c' := by
  unfold moreMembers at ended
  obtain ⟨b, c₁, peeked, rest⟩ := reads_bind.mp ended
  split at rest
  · cases rest
  · cases rest
    exact peeked
  · split at rest
    · split at rest <;> cases rest
    · split at rest
      · obtain ⟨u, c₂, skipped, rest⟩ := reads_bind.mp rest
        obtain ⟨b', c₃, peeked', rest⟩ := reads_bind.mp rest
        split at rest <;> cases rest
      · cases rest

/-- What can be read as the members of an object is read into a dictionary one after the other. -/
theorem reads_entries {n : Nat} {first : Bool} {ms : List (String × Json)}
    (read : Reads (members .any fuel depth first) c ms c') (le : fuel ≤ fuel') (enough : fuel ≤ n)
    (done : Dict String Json) :
    ∃ c₁, Reads (entries (fun depth => canonical <$> value .any fuel' depth) depth n first done)
        c ((canonicalMembers ms).foldl (fun d m => d.insert m.1 m.2) done) c₁ ∧
      Reads endOfObject c₁ () c' := by
  induction fuel generalizing n first c ms done with
  | zero =>
    rw [members] at read
    exact absurd read not_reads_failAhead
  | succ fuel ih =>
    obtain ⟨n, rfl⟩ : ∃ m, n = m + 1 := ⟨n - 1, by omega⟩
    rw [members_succ] at read
    obtain ⟨more, c₁, asked, rest⟩ := reads_bind.mp read
    cases more with
    | false =>
      obtain ⟨u, c₂, skipped, rest⟩ := reads_bind.mp rest
      cases rest
      refine ⟨c₁, asked.bind (reads_pure _ _), ?_⟩
      exact (reads_peekToken_again (reads_brace asked)).bind skipped
    | true =>
      obtain ⟨name, c₂, named, rest⟩ := reads_bind.mp rest
      obtain ⟨v, c₃, item, rest⟩ := reads_bind.mp rest
      obtain ⟨vs, c₄, others, rest⟩ := reads_bind.mp rest
      cases rest
      obtain ⟨c₅, entered, closed⟩ :=
        ih (n := n) others (by omega) (by omega) (done.insert name (canonical v))
      refine ⟨c₅, asked.bind (named.bind ?_), closed⟩
      exact ((item.more (by omega)).map canonical).bind entered

/-- A value that is an object starts with a brace. -/
theorem reads_object {es : Reader (List Json)} {ms : Reader (List (String × Json))}
    {first : Option UInt8} {vs : List (String × Json)}
    (read : Reads (valueFrom es ms depth first) c (.obj vs) c') :
    first = some 0x7B ∧ ∃ c₁, Reads (openLevel depth) c () c₁ ∧ Reads ms c₁ vs c' := by
  unfold valueFrom at read
  split at read
  case h_8 =>
    obtain ⟨u, c₁, opened, rest⟩ := reads_bind.mp read
    obtain ⟨vs', c₂, listed, rest⟩ := reads_bind.mp rest
    cases rest
    exact ⟨rfl, c₁, opened, listed⟩
  case h_9 =>
    split at read
    · obtain ⟨n, c₁, -, rest⟩ := reads_bind.mp read
      cases rest
    · cases read
  case h_1 => cases read
  all_goals
    obtain ⟨_, c₁, -, rest⟩ := reads_bind.mp read
    obtain ⟨_, c₂, -, rest⟩ := reads_bind.mp rest
    cases rest

theorem reads_closing {p : Reader α} {close : Reader Unit} {a : α} {c₁ : Cursor}
    (read : Reads p c a c₁) (closed : Reads close c₁ () c') : Reads (closing p close) c a c' := by
  have ran : p c = (.ok a, c₁) := read
  have ended : close c₁ = (.ok (), c') := closed
  show closing p close c = _
  unfold closing
  rw [ran]
  simp only
  rw [ended]

/-- An object that is read as a value is read into a dictionary of its members as well. -/
theorem reads_dictionary {ms : List (String × Json)}
    (read : Reads (value .any fuel depth) c (.obj ms) c') :
    Reads (dictionary fuel (fun depth => canonical <$> value .any fuel depth) depth) c
      (.ofList (canonicalMembers ms)) c' := by
  cases fuel with
  | zero =>
    rw [value] at read
    exact absurd read not_reads_failAhead
  | succ fuel =>
    rw [value_succ] at read
    obtain ⟨first, c₁, peeked, rest⟩ := reads_bind.mp read
    obtain ⟨rfl, c₂, opened, listed⟩ := reads_object rest
    obtain ⟨c₃, entered, closed⟩ := reads_entries listed (Nat.le_succ _) (Nat.le_succ _) ∅
    exact peeked.bind (opened.bind (reads_closing entered closed))

/-! ### Documents -/

theorem document_eq_ok_iff {read : Nat → Nat → Reader α} {bytes : Text.Bytes} {a : α} :
    document read bytes = .ok a ↔
      ∃ c c', Reads (read (2 * bytes.length + 2) depthLimit) (.start bytes) a c ∧
        Reads endOfDocument c () c' := by
  constructor
  · intro answered
    have whole : Reads (do
        let a ← read (2 * bytes.length + 2) depthLimit
        endOfDocument
        return a) (.start bytes) a _ := Prod.ext answered rfl
    obtain ⟨a', c, first, rest⟩ := reads_bind.mp whole
    obtain ⟨u, c', ended, rest⟩ := reads_bind.mp rest
    cases rest
    exact ⟨c, _, first, ended⟩
  · rintro ⟨c, c', first, ended⟩
    have whole : Reads (do
        let a ← read (2 * bytes.length + 2) depthLimit
        endOfDocument
        return a) (.start bytes) a c' := first.bind (ended.bind (reads_pure _ _))
    exact congrArg Prod.fst whole

end Provisioner.Json.Reader

namespace Provisioner.Terraform

open Json.Reader

/-- A source that is an object is the same document when it is read member by member. -/
theorem sourceDocument_of_object {source : String} {ms : List (String × Json)}
    (read : Json.ofText source = .ok (.obj ms)) : sourceDocument source = .ok (.obj ms) := by
  unfold Json.ofText Json.parse at read
  cases answered : Json.Reader.document (value .any) (Text.utf8 source) with
  | error e =>
    rw [answered] at read
    cases read
  | ok v =>
    rw [answered] at read
    have object : v.canonical = .obj ms := Except.ok.inj read
    obtain ⟨ms', rfl⟩ : ∃ ms', v = .obj ms' := by
      cases v with
      | obj ms' => exact ⟨ms', rfl⟩
      | _ => simp [Json.canonical] at object
    obtain ⟨c, c', first, ended⟩ := document_eq_ok_iff.mp answered
    have found : Json.Reader.document (fun fuel depth => dictionary fuel
        (fun depth => Json.canonical <$> value .any fuel depth) depth) (Text.utf8 source) =
          .ok (.ofList (Json.canonicalMembers ms')) :=
      document_eq_ok_iff.mpr ⟨c, c', reads_dictionary first, ended⟩
    rw [Json.canonical] at object
    unfold sourceDocument
    dsimp only
    rw [found, ← object]
    rfl

end Provisioner.Terraform
