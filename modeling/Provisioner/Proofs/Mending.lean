import Provisioner.Proofs.Encodings

/-!
Bytes that are no text. They are read as the characters that are written in them, with a replacement
character for each part where none is: as many bytes as may begin a character, but one at least.
What bytes stand for is said here by how characters are written alone, and the reader is shown to
find just that. It looks at one lead byte at a time, so the proof goes by what it can find there.
-/

namespace Provisioner.Text

/-! ### What bytes stand for -/

/-- The bytes of some character begin with these. -/
def Begins (part : Bytes) : Prop := ∃ c : Char, part <+: String.utf8EncodeChar c

/-- No character is written at the front of these bytes, and `part` is as much of them as may begin
one, but one byte at least. -/
structure Broken (part rest : Bytes) : Prop where
  unwritten : ∀ c : Char, ¬ String.utf8EncodeChar c <+: part ++ rest
  filled : part ≠ []
  begun : 1 < part.length → Begins part
  longest : ∀ more, more <+: part ++ rest → Begins more → more.length ≤ part.length

/-- The characters that bytes stand for once what is broken is replaced. -/
inductive Mended : Bytes → List Char → Prop
  | done : Mended [] []
  | written {rest : Bytes} {cs : List Char} (c : Char) (after : Mended rest cs) :
      Mended (String.utf8EncodeChar c ++ rest) (c :: cs)
  | replaced {part rest : Bytes} {cs : List Char} (broken : Broken part rest)
      (after : Mended rest cs) : Mended (part ++ rest) ('\uFFFD' :: cs)

variable {a b : UInt8} {part part' rest rest' bytes : Bytes} {c c' : Char} {cs cs' : List Char}
  {n : Nat}

/-- How a character is written tells the character and where it ends. -/
theorem utf8EncodeChar_append_inj
    (same : String.utf8EncodeChar c ++ rest = String.utf8EncodeChar c' ++ rest') :
    c = c' ∧ rest = rest' := by
  obtain ⟨lead, more, written, read⟩ := front_utf8EncodeChar c rest
  obtain ⟨lead', more', written', read'⟩ := front_utf8EncodeChar c' rest'
  rw [written, written', List.cons_append, List.cons_append, List.cons.injEq] at same
  obtain ⟨rfl, tails⟩ := same
  rw [tails, read', Front.char.injEq] at read
  obtain ⟨rfl, -⟩ := read
  have more_eq : more = more' := (List.cons.inj (written.symm.trans written')).2
  exact ⟨rfl, (List.append_inj tails (congrArg _ more_eq)).2⟩

theorem Broken.length_le (first : Broken part rest) (second : Broken part' rest')
    (same : part ++ rest = part' ++ rest') : part'.length ≤ part.length := by
  by_cases short : part'.length ≤ 1
  · exact Nat.le_trans short (List.length_pos_iff.mpr first.filled)
  · refine first.longest part' ?_ (second.begun (Nat.lt_of_not_le short))
    rw [same]
    exact List.prefix_append ..

/-- There is only one part that is as long as it may be. -/
theorem Broken.unique (first : Broken part rest) (second : Broken part' rest')
    (same : part ++ rest = part' ++ rest') : part = part' ∧ rest = rest' :=
  List.append_inj same (Nat.le_antisymm (second.length_le first same.symm)
    (first.length_le second same))

/-- Bytes stand for one text only. -/
theorem Mended.unique (first : Mended bytes cs) (second : Mended bytes cs') : cs = cs' := by
  -- Both take the same from the front, as no character is written where a part is broken.
  induction first generalizing cs' with
  | done =>
    generalize whole : ([] : Bytes) = bytes at second
    cases second with
    | done => rfl
    | written c after => simp at whole
    | replaced broken after => simp [broken.filled] at whole
  | @written rest cs c after ih =>
    generalize whole : String.utf8EncodeChar c ++ rest = bytes at second
    cases second with
    | done => simp at whole
    | written c' after' =>
      obtain ⟨rfl, rfl⟩ := utf8EncodeChar_append_inj whole
      rw [ih after']
    | replaced broken after' => exact absurd (whole ▸ List.prefix_append ..) (broken.unwritten c)
  | @replaced part rest cs broken after ih =>
    generalize whole : part ++ rest = bytes at second
    cases second with
    | done => simp [broken.filled] at whole
    | written c' after' => exact absurd (whole ▸ List.prefix_append ..) (broken.unwritten c')
    | replaced broken' after' =>
      obtain ⟨rfl, rfl⟩ := broken.unique broken' whole
      rw [ih after']

/-! ### What the reader finds -/

/-- What a byte must be to stand at this place after a lead byte. -/
def Fits (a : UInt8) : Nat → UInt8 → Prop
  | 0, b => 0xC2 ≤ a.toNat ∧ a.toNat < 0xF5 ∧ maySecond a b
  | _ + 1, b => isContinuation b

/-- What is found at the front of a lead byte and the bytes after it: a character, or bytes that the
next one, if there is one, keeps from becoming a character. -/
inductive Found (a : UInt8) : Bytes → Front → Prop
  | one {rest : Bytes} (most : a.toNat < 0x80) : Found a rest (.char (Char.ofNat a.toNat) 1)
  | two {b : UInt8} {rest : Bytes} (least : 0xC2 ≤ a.toNat) (most : a.toNat < 0xE0)
      (second : isContinuation b) :
      Found a (b :: rest) (.char (Char.ofNat ((a.toNat % 32) * 64 + payload b)) 2)
  | three {b d : UInt8} {rest : Bytes} (least : 0xE0 ≤ a.toNat) (most : a.toNat < 0xF0)
      (second : maySecond a b) (third : isContinuation d) : Found a (b :: d :: rest)
      (.char (Char.ofNat (((a.toNat % 16) * 64 + payload b) * 64 + payload d)) 3)
  | four {b d e : UInt8} {rest : Bytes} (least : 0xF0 ≤ a.toNat) (most : a.toNat < 0xF5)
      (second : maySecond a b) (third : isContinuation d) (fourth : isContinuation e) :
      Found a (b :: d :: e :: rest) (.char (Char.ofNat
        ((((a.toNat % 8) * 64 + payload b) * 64 + payload d) * 64 + payload e)) 4)
  | noSecond {rest : Bytes} (stop : ∀ b ∈ rest[0]?, ¬ Fits a 0 b) : Found a rest (.broken 1)
  | noThird {b : UInt8} {rest : Bytes} (least : 0xE0 ≤ a.toNat) (most : a.toNat < 0xF5)
      (second : maySecond a b) (stop : ∀ d ∈ rest[0]?, ¬ Fits a 1 d) :
      Found a (b :: rest) (.broken 2)
  | noFourth {b d : UInt8} {rest : Bytes} (least : 0xF0 ≤ a.toNat) (most : a.toNat < 0xF5)
      (second : maySecond a b) (third : isContinuation d) (stop : ∀ e ∈ rest[0]?, ¬ Fits a 2 e) :
      Found a (b :: d :: rest) (.broken 3)

theorem maySecond_of_lt (most : a.toNat < 0xE0) : maySecond a b = isContinuation b := by
  rw [Bool.eq_iff_iff, maySecond_iff, isContinuation_iff]
  omega

/-- The reader's answer, by the number of bytes that the lead byte asks for. -/
theorem found (a : UInt8) (rest : Bytes) : Found a rest (front a rest) := by
  unfold front
  simp only [UInt8.lt_iff_toNat_lt, UInt8.reduceToNat]
  split
  case isTrue most => exact .one most
  split
  case isTrue low => exact .noSecond fun _ _ fits => Nat.not_le_of_lt low fits.1
  split
  case isTrue most =>
    cases rest with
    | nil => exact .noSecond nofun
    | cons b rest =>
      dsimp only
      split
      case isTrue second => exact .two (by omega) most second
      case isFalse stop => exact .noSecond (by simp [Fits, maySecond_of_lt most, stop])
  split
  case isTrue most =>
    cases rest with
    | nil => exact .noSecond nofun
    | cons b rest =>
      dsimp only
      split
      case isFalse stop => exact .noSecond (by simp [Fits, stop])
      case isTrue second =>
        cases rest with
        | nil => exact .noThird (by omega) (by omega) second nofun
        | cons d rest =>
          dsimp only
          split
          case isTrue third => exact .three (by omega) most second third
          case isFalse stop => exact .noThird (by omega) (by omega) second (by simp [Fits, stop])
  split
  case isFalse high => exact .noSecond fun _ _ fits => high fits.2.1
  case isTrue most =>
    cases rest with
    | nil => exact .noSecond nofun
    | cons b rest =>
      dsimp only
      split
      case isFalse stop => exact .noSecond (by simp [Fits, stop])
      case isTrue second =>
        cases rest with
        | nil => exact .noThird (by omega) most second nofun
        | cons d rest =>
          dsimp only
          split
          case isFalse stop => exact .noThird (by omega) most second (by simp [Fits, stop])
          case isTrue third =>
            cases rest with
            | nil => exact .noFourth (by omega) most second third nofun
            | cons e rest =>
              dsimp only
              split
              case isTrue fourth => exact .four (by omega) most second third fourth
              case isFalse stop =>
                exact .noFourth (by omega) most second third (by simp [Fits, stop])

theorem toNat_val_ofNat (valid : n.isValidChar) : (Char.ofNat n).val.toNat = n := by
  rw [Char.ofNat, dif_pos valid]
  rfl

/-- A character that is found is written with the bytes that it is found in. -/
theorem Found.utf8EncodeChar (seen : Found a rest (.char c n)) :
    String.utf8EncodeChar c = a :: rest.take (n - 1) := by
  have byte {n : Nat} {b : UInt8} (same : n = b.toNat) : UInt8.ofNat n = b :=
    Base64.toUInt8_of_eq same
  cases seen with
  | one most =>
    have value := toNat_val_ofNat (n := a.toNat) (.inl (by omega))
    unfold String.utf8EncodeChar
    simp only [value]
    rw [if_pos (by omega), byte rfl]
    rfl
  | @two b rest least most second =>
    rw [isContinuation_iff] at second
    unfold payload
    have value := toNat_val_ofNat (n := a.toNat % 32 * 64 + b.toNat % 64) (.inl (by omega))
    unfold String.utf8EncodeChar
    simp only [value]
    rw [if_neg (by omega), if_pos (by omega), byte (b := a) (by omega), byte (b := b) (by omega)]
    rfl
  | @three b d rest least most second third =>
    rw [maySecond_iff] at second
    rw [isContinuation_iff] at third
    unfold payload
    have value := toNat_val_ofNat (n := (a.toNat % 16 * 64 + b.toNat % 64) * 64 + d.toNat % 64)
      (by unfold Nat.isValidChar; omega)
    unfold String.utf8EncodeChar
    simp only [value]
    rw [if_neg (by omega), if_neg (by omega), if_pos (by omega), byte (b := a) (by omega),
      byte (b := b) (by omega), byte (b := d) (by omega)]
    rfl
  | @four b d e rest least most second third fourth =>
    rw [maySecond_iff] at second
    rw [isContinuation_iff] at third fourth
    unfold payload
    have value := toNat_val_ofNat
      (n := ((a.toNat % 8 * 64 + b.toNat % 64) * 64 + d.toNat % 64) * 64 + e.toNat % 64)
      (by unfold Nat.isValidChar; omega)
    unfold String.utf8EncodeChar
    simp only [value]
    rw [if_neg (by omega), if_neg (by omega), if_neg (by omega), byte (b := a) (by omega),
      byte (b := b) (by omega), byte (b := d) (by omega), byte (b := e) (by omega)]
    rfl

/-- The bytes of a character fit where they stand. -/
theorem fits_of_utf8EncodeChar {k : Nat} (written : String.utf8EncodeChar c = a :: part)
    (here : b ∈ part[k]?) : Fits a k b := by
  obtain ⟨lead, more, written', read⟩ := front_utf8EncodeChar c []
  obtain ⟨rfl, rfl⟩ := List.cons.inj (written'.symm.trans written)
  have seen := found lead more
  rw [List.append_nil] at read
  rw [read] at seen
  generalize size : more.length + 1 = n at seen
  cases seen with
  | one most =>
    obtain rfl : more = [] := by simpa using size
    cases here
  | @two b' rest least most second =>
    obtain rfl : rest = [] := by simpa using size
    match k with
    | 0 =>
      cases here
      exact ⟨least, by omega, by rwa [maySecond_of_lt most]⟩
  | @three b' d rest least most second third =>
    obtain rfl : rest = [] := by simpa using size
    match k with
    | 0 =>
      cases here
      exact ⟨by omega, by omega, second⟩
    | 1 =>
      cases here
      exact third
  | @four b' d e rest least most second third fourth =>
    obtain rfl : rest = [] := by simpa using size
    match k with
    | 0 =>
      cases here
      exact ⟨by omega, most, second⟩
    | 1 =>
      cases here
      exact third
    | 2 =>
      cases here
      exact fourth

/-- The byte after those that are found broken does not fit there. -/
theorem Found.not_fits (seen : Found a rest (.broken (n + 1))) (here : b ∈ rest[n]?) :
    ¬ Fits a n b := by
  cases seen with
  | noSecond stop => exact stop b here
  | noThird least most second stop => exact stop b here
  | noFourth least most second third stop => exact stop b here

theorem Found.pos (seen : Found a rest (.broken n)) : 0 < n := by
  cases seen <;> decide

theorem Found.length_le (seen : Found a rest (.broken (n + 1))) : n ≤ rest.length := by
  cases seen <;> simp

/-- What a character that is found is written as begins a character. -/
theorem Found.begins_of_char (seen : Found a rest (.char c n))
    (start : part <+: a :: rest.take (n - 1)) : Begins part :=
  ⟨c, seen.utf8EncodeChar ▸ start⟩

/-- More than one byte is found broken only where a character may begin with them. -/
theorem Found.begins (seen : Found a rest (.broken (n + 1))) (several : n ≠ 0) :
    Begins (a :: rest.take n) := by
  -- The least continuation byte may follow at the third place and the fourth.
  have least : isContinuation 0x80 := by decide
  cases seen with
  | noSecond => exact absurd rfl several
  | @noThird b rest above most second stop =>
    by_cases three : a.toNat < 0xF0
    · have whole : Found a [b, 0x80] _ := .three above three second least
      exact whole.begins_of_char ⟨[0x80], rfl⟩
    · have whole : Found a [b, 0x80, 0x80] _ := .four (by omega) most second least least
      exact whole.begins_of_char ⟨[0x80, 0x80], rfl⟩
  | @noFourth b d rest above most second third stop =>
    have whole : Found a [b, d, 0x80] _ := .four above most second third least
    exact whole.begins_of_char ⟨[0x80], rfl⟩

/-- What is found broken is a part that one replacement character stands for. -/
theorem broken_of_front (read : front a rest = .broken (n + 1)) :
    Broken (a :: rest.take n) (rest.drop n) := by
  have seen : Found a rest (.broken (n + 1)) := read ▸ found a rest
  have whole : a :: rest.take n ++ rest.drop n = a :: rest := by simp
  constructor
  case unwritten =>
    rintro c ⟨after, start⟩
    obtain ⟨lead, more, written, read'⟩ := front_utf8EncodeChar c after
    rw [whole, written, List.cons_append] at start
    obtain ⟨rfl, rfl⟩ := List.cons.inj start
    rw [read'] at read
    cases read
  case filled => exact List.cons_ne_nil _ _
  case begun =>
    intro several
    exact seen.begins (by rintro rfl; simp at several)
  case longest =>
    rintro more ⟨after, start⟩ ⟨c, after', begun⟩
    rw [List.length_cons, List.length_take_of_le seen.length_le]
    cases more with
    | nil => exact Nat.zero_le _
    | cons lead more =>
      rw [whole, List.cons_append] at start
      obtain ⟨rfl, rfl⟩ := List.cons.inj start
      refine Nat.le_of_not_lt fun longer => ?_
      -- The byte that ends the part would be one of the character.
      have within : n < more.length := Nat.lt_of_succ_lt_succ longer
      have here (after : Bytes) : more[n] ∈ (more ++ after)[n]? := by
        rw [List.getElem?_append_left within, List.getElem?_eq_getElem within]
        rfl
      exact seen.not_fits (here after) (fits_of_utf8EncodeChar begun.symm (here after'))

theorem written_of_front (read : front a rest = .char c n) :
    String.utf8EncodeChar c ++ rest.drop (n - 1) = a :: rest := by
  have seen : Found a rest (.char c n) := read ▸ found a rest
  rw [seen.utf8EncodeChar, List.cons_append, List.take_append_drop]

/-- The reader finds what the bytes stand for. -/
theorem exists_mended {fuel : Nat} (enough : bytes.length ≤ fuel) :
    ∃ cs, decodeWith (some '\uFFFD') fuel bytes = some cs ∧ Mended bytes cs := by
  induction fuel generalizing bytes with
  | zero =>
    obtain rfl : bytes = [] := by simpa using enough
    exact ⟨[], rfl, .done⟩
  | succ fuel ih =>
    cases bytes with
    | nil => exact ⟨[], rfl, .done⟩
    | cons a rest =>
      have fewer (k : Nat) : (rest.drop k).length ≤ fuel := by
        rw [List.length_cons] at enough
        rw [List.length_drop]
        omega
      cases read : front a rest with
      | char c n =>
        obtain ⟨cs, decoded, after⟩ := ih (fewer (n - 1))
        refine ⟨c :: cs, ?_, written_of_front read ▸ .written c after⟩
        simp only [decodeWith, read, decoded]
        rfl
      | broken n =>
        have seen : Found a rest (.broken n) := read ▸ found a rest
        obtain ⟨n, rfl⟩ := Nat.exists_eq_add_one.mpr seen.pos
        obtain ⟨cs, decoded, after⟩ := ih (fewer n)
        refine ⟨'\uFFFD' :: cs, ?_, ?_⟩
        · simp only [decodeWith, read, decoded, Nat.add_sub_cancel]
          rfl
        · have mended := Mended.replaced (broken_of_front read) after
          rwa [List.cons_append, List.take_append_drop] at mended

/-- Reading gives the text that the bytes stand for, and no other does. -/
theorem ofUtf8Lossy_eq_iff {s : String} : ofUtf8Lossy bytes = s ↔ Mended bytes s.toList := by
  obtain ⟨cs, decoded, mended⟩ := exists_mended (Nat.le_refl bytes.length)
  have read : ofUtf8Lossy bytes = String.ofList cs := by
    rw [ofUtf8Lossy, decoded]
    rfl
  rw [read]
  constructor
  · rintro rfl
    rwa [String.toList_ofList]
  · intro stands
    rw [mended.unique stands, String.ofList_toList]

/-- A character that was cut off is replaced once, and each byte that begins none is replaced. -/
example : ofUtf8Lossy [0xF0, 0x9F, 0x92, 0x41, 0xC0, 0x80] = "\uFFFDA\uFFFD\uFFFD" := by decide

end Provisioner.Text
