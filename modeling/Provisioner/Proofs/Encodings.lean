import Provisioner.Terraform.State

/-!
How texts and bytes stand for each other. The bytes of a text are read back as that text, also by
the reader that replaces what is broken, and base 64 is decoded to the bytes that were encoded. So a
stored state may be kept compressed as it is or in base 64, with white space around it, and stands
for the same document: no text begins like a compressed member, so the two are never confused.
-/

namespace Provisioner

open Text (Bytes)

namespace Text

variable {a b d e : UInt8} {rest : Bytes}

/-! ### Bytes of texts -/

private theorem toList_loop (b : ByteArray) (i : Nat) (read : Bytes) :
    ByteArray.toList.loop b i read = read.reverse ++ b.data.toList.drop i := by
  fun_induction ByteArray.toList.loop b i read with
  | case1 i read more ih =>
    have here : b.data.toList.drop i = b.data.toList[i] :: b.data.toList.drop (i + 1) :=
      List.drop_eq_getElem_cons _
    have byte : b.get! i = b.data.toList[i] := by simp [ByteArray.get!, more]
    rw [ih, here, byte]
    simp
  | case2 i read done =>
    have past : b.data.toList.length ≤ i := by simpa using done
    simp [List.drop_eq_nil_of_le past]

theorem utf8_eq (s : String) : utf8 s = s.toByteArray.data.toList := toList_loop s.toByteArray 0 []

theorem utf8_append (s s' : String) : utf8 (s ++ s') = utf8 s ++ utf8 s' := by
  simp [utf8_eq]

theorem utf8_empty : utf8 "" = [] := by simp [utf8_eq]

theorem utf8_inj {s s' : String} : utf8 s = utf8 s' ↔ s = s' := by
  rw [utf8_eq, utf8_eq, Array.toList_inj, ← ByteArray.ext_iff, String.toByteArray_inj]

/-- The bytes of a text are those of its characters in a row. -/
theorem utf8_ofList (cs : List Char) :
    utf8 (String.ofList cs) = cs.flatMap String.utf8EncodeChar := by
  rw [utf8_eq, String.toByteArray_ofList, List.utf8Encode, List.toList_data_toByteArray]

/-! ### Reading text back -/

theorem isContinuation_iff : isContinuation b = true ↔ 0x80 ≤ b.toNat ∧ b.toNat < 0xC0 := by
  simp [isContinuation, UInt8.le_iff_toNat_le, UInt8.lt_iff_toNat_lt]

/-- Which continuation bytes may follow a lead byte. -/
theorem maySecond_iff : maySecond a b = true ↔
    0x80 ≤ b.toNat ∧ b.toNat < 0xC0 ∧ (a.toNat = 0xE0 → 0xA0 ≤ b.toNat) ∧
      (a.toNat = 0xED → b.toNat < 0xA0) ∧ (a.toNat = 0xF0 → 0x90 ≤ b.toNat) ∧
      (a.toNat = 0xF4 → b.toNat < 0x90) := by
  have number (n : UInt8) : a = n ↔ a.toNat = n.toNat := UInt8.toNat_inj.symm
  unfold maySecond isContinuation
  simp only [beq_iff_eq, UInt8.le_iff_toNat_le, UInt8.lt_iff_toNat_lt, number, UInt8.reduceToNat]
  repeat' split
  all_goals simp only [Bool.and_eq_true, decide_eq_true_eq]; omega

theorem front_one (lead : a.toNat < 0x80) : front a rest = .char (Char.ofNat a.toNat) 1 := by
  unfold front
  rw [if_pos (UInt8.lt_iff_toNat_lt.mpr lead)]

theorem front_two (least : 0xC2 ≤ a.toNat) (most : a.toNat < 0xE0) (second : isContinuation b) :
    front a (b :: rest) = .char (Char.ofNat ((a.toNat % 32) * 64 + payload b)) 2 := by
  unfold front
  simp only [UInt8.lt_iff_toNat_lt, UInt8.reduceToNat]
  rw [if_neg (by omega), if_neg (by omega), if_pos most, if_pos second]

theorem front_three (least : 0xE0 ≤ a.toNat) (most : a.toNat < 0xF0) (second : maySecond a b)
    (third : isContinuation d) : front a (b :: d :: rest) =
      .char (Char.ofNat (((a.toNat % 16) * 64 + payload b) * 64 + payload d)) 3 := by
  unfold front
  simp only [UInt8.lt_iff_toNat_lt, UInt8.reduceToNat]
  rw [if_neg (by omega), if_neg (by omega), if_neg (by omega), if_pos most, if_pos second,
    if_pos third]

theorem front_four (least : 0xF0 ≤ a.toNat) (most : a.toNat < 0xF5) (second : maySecond a b)
    (third : isContinuation d) (fourth : isContinuation e) : front a (b :: d :: e :: rest) =
      .char (Char.ofNat ((((a.toNat % 8) * 64 + payload b) * 64 + payload d) * 64 + payload e)) 4
      := by
  unfold front
  simp only [UInt8.lt_iff_toNat_lt, UInt8.reduceToNat]
  rw [if_neg (by omega), if_neg (by omega), if_neg (by omega), if_neg (by omega), if_pos most,
    if_pos second, if_pos third, if_pos fourth]

/-- The bytes of a character are read back as that character, whatever follows them. -/
theorem front_utf8EncodeChar (c : Char) (rest : Bytes) :
    ∃ lead more, String.utf8EncodeChar c = lead :: more ∧
      front lead (more ++ rest) = .char c (more.length + 1) := by
  have back {n : Nat} (same : n = c.val.toNat) : Char.ofNat n = c := same ▸ c.ofNat_toNat
  have valid : c.val.toNat < 0xD800 ∨ 0xDFFF < c.val.toNat ∧ c.val.toNat < 0x110000 := c.valid
  have byte {n : Nat} (small : n < 256) : (UInt8.ofNat n).toNat = n := UInt8.toNat_ofNat_of_lt small
  -- A continuation byte carries six bits.
  have tail (n : Nat) : (UInt8.ofNat (n % 64 + 0x80)).toNat = n % 64 + 0x80 := byte (by omega)
  have goes (n : Nat) : isContinuation (UInt8.ofNat (n % 64 + 0x80)) = true :=
    isContinuation_iff.mpr (by rw [tail]; omega)
  fun_cases String.utf8EncodeChar with
  | case1 v small =>
    have lead : (UInt8.ofNat v).toNat = v := byte (by omega)
    refine ⟨_, [], rfl, (front_one (by omega)).trans ?_⟩
    rw [lead, back rfl]
    rfl
  | case2 v large small =>
    have lead : (UInt8.ofNat (v / 64 % 32 + 0xC0)).toNat = v / 64 % 32 + 0xC0 := byte (by omega)
    refine ⟨_, [_], rfl, (front_two (by omega) (by omega) (goes v)).trans ?_⟩
    rw [back]
    · rfl
    · rw [lead, payload, tail]
      omega
  | case3 v large large' small =>
    have lead : (UInt8.ofNat (v / 4096 % 16 + 0xE0)).toNat = v / 4096 % 16 + 0xE0 := byte (by omega)
    have second : maySecond (UInt8.ofNat (v / 4096 % 16 + 0xE0))
        (UInt8.ofNat (v / 64 % 64 + 0x80)) = true := by
      rw [maySecond_iff, lead, tail]
      omega
    refine ⟨_, [_, _], rfl, (front_three (by omega) (by omega) second (goes v)).trans ?_⟩
    rw [back]
    · rfl
    · rw [lead, payload, payload, tail, tail]
      omega
  | case4 v large large' large'' =>
    have lead : (UInt8.ofNat (v / 262144 % 8 + 0xF0)).toNat = v / 262144 % 8 + 0xF0 :=
      byte (by omega)
    have second : maySecond (UInt8.ofNat (v / 262144 % 8 + 0xF0))
        (UInt8.ofNat (v / 4096 % 64 + 0x80)) = true := by
      rw [maySecond_iff, lead, tail]
      omega
    refine ⟨_, [_, _, _], rfl,
      (front_four (by omega) (by omega) second (goes (v / 64)) (goes v)).trans ?_⟩
    rw [back]
    · rfl
    · rw [lead, payload, payload, payload, tail, tail, tail]
      omega

/-- What characters are written as is read back as those characters, under any reading of what is
broken. -/
theorem decodeWith_utf8 (broken : Option Char) (cs : List Char) {fuel : Nat}
    (enough : cs.length ≤ fuel) :
    decodeWith broken fuel (cs.flatMap String.utf8EncodeChar) = some cs := by
  induction cs generalizing fuel with
  | nil => cases fuel <;> rfl
  | cons c cs ih =>
    obtain ⟨lead, more, written, read⟩ := front_utf8EncodeChar c (cs.flatMap String.utf8EncodeChar)
    cases fuel with
    | zero => simp at enough
    | succ fuel =>
      rw [List.flatMap_cons, written, List.cons_append, decodeWith, read]
      simp only [Nat.add_sub_cancel, List.drop_left]
      rw [ih (Nat.le_of_succ_le_succ enough)]
      rfl

theorem length_le_utf8 (cs : List Char) : cs.length ≤ (utf8 (String.ofList cs)).length := by
  rw [utf8_ofList]
  induction cs with
  | nil => exact Nat.le_refl _
  | cons c cs ih =>
    obtain ⟨lead, more, written, -⟩ := front_utf8EncodeChar c []
    rw [List.flatMap_cons, written]
    simp only [List.length_cons, List.length_append]
    omega

theorem ofUtf8?_utf8 (s : String) : ofUtf8? (utf8 s) = some s := by
  obtain ⟨cs, rfl⟩ : ∃ cs, s = String.ofList cs := ⟨s.toList, s.ofList_toList.symm⟩
  have read := decodeWith_utf8 none cs (length_le_utf8 cs)
  rw [← utf8_ofList] at read
  rw [ofUtf8?, read]
  rfl

/-- Nothing of a text is lost where what is broken is replaced. -/
theorem ofUtf8Lossy_utf8 (s : String) : ofUtf8Lossy (utf8 s) = s := by
  obtain ⟨cs, rfl⟩ : ∃ cs, s = String.ofList cs := ⟨s.toList, s.ofList_toList.symm⟩
  have read := decodeWith_utf8 (some '\uFFFD') cs (length_le_utf8 cs)
  rw [← utf8_ofList] at read
  rw [ofUtf8Lossy, read]
  rfl

/-! ### White space -/

theorem dropWhile_blank {before rest : List Char} (blank : ∀ c ∈ before, isBlank c = true)
    (inked : ∀ c ∈ rest.head?, isBlank c = false) : (before ++ rest).dropWhile isBlank = rest := by
  rw [List.dropWhile_append_of_pos blank]
  cases rest with
  | nil => rfl
  | cons c rest => simp [inked c rfl]

/-- Of characters between blank ones trimming leaves those that begin and end with none. -/
theorem trimChars_append {before middle after : List Char} (blank : ∀ c ∈ before, isBlank c = true)
    (first : ∀ c ∈ middle.head?, isBlank c = false)
    (last : ∀ c ∈ middle.getLast?, isBlank c = false) (blank' : ∀ c ∈ after, isBlank c = true) :
    trimChars (before ++ (middle ++ after)) = middle := by
  have backwards : ∀ c ∈ after.reverse, isBlank c = true := by simpa using blank'
  unfold trimChars
  cases middle with
  | nil =>
    have gone : (after ++ []).dropWhile isBlank = [] := dropWhile_blank blank' nofun
    rw [List.append_nil] at gone
    rw [List.nil_append, List.dropWhile_append_of_pos blank, gone]
    rfl
  | cons c middle =>
    rw [dropWhile_blank blank (by simpa using first), List.reverse_append,
      dropWhile_blank backwards (by rwa [List.head?_reverse]), List.reverse_reverse]

end Text

/-! ### Base 64 -/

namespace Base64

theorem value?_symbol {n : Nat} (small : n < 64) : value? (symbol n) = some n := by
  revert n
  decide

theorem symbol_ne_pad {n : Nat} (small : n < 64) : symbol n ≠ pad := by
  revert n
  decide

theorem valueAt_symbol {n : Nat} (small : n < 64) (offset : Nat) :
    valueAt (symbol n) offset = .ok n := by
  rw [valueAt, value?_symbol small]

theorem lastGroup_symbol {n : Nat} (small : n < 64) (offset index : Nat) (rest : Bytes) :
    lastGroup offset (symbol n :: rest) index none =
      (lastGroup offset rest (index + 1) none).map fun last => (n :: last.1, last.2) := by
  rw [lastGroup, if_neg (symbol_ne_pad small)]
  simp only [valueAt_symbol small, bind, Except.bind]
  cases lastGroup offset rest (index + 1) none <;> rfl

/-- A whole group of symbols stands for three bytes, whether or not others follow it. -/
theorem decodeFrom_group {a b c d : Nat} (first : a < 64) (second : b < 64) (third : c < 64)
    (fourth : d < 64) {offset : Nat} {rest more : Bytes}
    (decoded : decodeFrom (offset + 4) rest = .ok more) :
    decodeFrom offset (symbol a :: symbol b :: symbol c :: symbol d :: rest) =
      .ok ((a * 4 + b / 16).toUInt8 :: (b % 16 * 16 + c / 4).toUInt8 :: (c % 4 * 64 + d).toUInt8 ::
        more) := by
  cases rest with
  | nil =>
    cases decoded
    have group : lastGroup offset [symbol a, symbol b, symbol c, symbol d] 0 none =
        .ok ([a, b, c, d], 0) := by
      rw [lastGroup_symbol first, lastGroup_symbol second, lastGroup_symbol third,
        lastGroup_symbol fourth]
      rfl
    unfold decodeFrom decodeLast
    rw [group]
    rfl
  | cons e rest =>
    unfold decodeFrom
    simp only [valueAt_symbol, first, second, third, fourth, decoded, bind, Except.bind]

theorem toUInt8_of_eq {n : Nat} {b : UInt8} (same : n = b.toNat) : n.toUInt8 = b := by
  rw [same]
  exact UInt8.ofNat_toNat

/-- Decoding undoes encoding. -/
theorem decodeFrom_encode (bytes : Bytes) (offset : Nat) :
    decodeFrom offset (encode bytes) = .ok bytes := by
  fun_induction encode bytes generalizing offset with
  | case1 a b c rest ih =>
    have a_lt := a.toNat_lt
    have b_lt := b.toNat_lt
    have c_lt := c.toNat_lt
    rw [decodeFrom_group (by omega) (by omega) (by omega) (by omega) (ih (offset + 4)),
      toUInt8_of_eq (b := a) (by omega), toUInt8_of_eq (b := b) (by omega),
      toUInt8_of_eq (b := c) (by omega)]
  | case2 a b =>
    have a_lt := a.toNat_lt
    have b_lt := b.toNat_lt
    have group : lastGroup offset [symbol (a.toNat / 4), symbol (a.toNat % 4 * 16 + b.toNat / 16),
        symbol (b.toNat % 16 * 4), pad] 0 none =
        .ok ([a.toNat / 4, a.toNat % 4 * 16 + b.toNat / 16, b.toNat % 16 * 4], 1) := by
      rw [lastGroup_symbol (by omega), lastGroup_symbol (by omega), lastGroup_symbol (by omega)]
      rfl
    unfold decodeFrom decodeLast
    have unused : b.toNat % 16 * 4 % 4 = 0 := by omega
    simp only [group, bind, Except.bind, unused, ne_eq, not_true_eq_false, if_false, if_true]
    rw [toUInt8_of_eq (b := a) (by omega), toUInt8_of_eq (b := b) (by omega)]
  | case3 a =>
    have a_lt := a.toNat_lt
    have group :
        lastGroup offset [symbol (a.toNat / 4), symbol (a.toNat % 4 * 16), pad, pad] 0 none =
        .ok ([a.toNat / 4, a.toNat % 4 * 16], 2) := by
      rw [lastGroup_symbol (by omega), lastGroup_symbol (by omega)]
      rfl
    unfold decodeFrom decodeLast
    have unused : a.toNat % 4 * 16 % 16 = 0 := by omega
    simp only [group, bind, Except.bind, unused, ne_eq, not_true_eq_false, if_false, if_true]
    rw [toUInt8_of_eq (b := a) (by omega)]
  | case4 => rfl

theorem length_encode (bytes : Bytes) : (encode bytes).length % 4 = 0 := by
  fun_induction encode bytes with
  | case1 a b c rest ih =>
    simp only [List.length_cons]
    omega
  | _ => simp

theorem decode_encode (bytes : Bytes) : decode (encode bytes) = .ok bytes := by
  have whole : strayLast? (encode bytes) = none := by
    rw [strayLast?, if_neg (by rw [length_encode]; decide)]
  rw [decode, whole]
  exact decodeFrom_encode bytes 0

/-- What holds of the symbols and of the padding holds of all that encoding writes. -/
theorem forall_mem_encode {P : UInt8 → Prop} (symbols : ∀ n < 64, P (symbol n)) (padding : P pad)
    (bytes : Bytes) : ∀ b ∈ encode bytes, P b := by
  fun_induction encode bytes with
  | case1 a b c rest ih =>
    have a_lt := a.toNat_lt
    have b_lt := b.toNat_lt
    have c_lt := c.toNat_lt
    simp only [List.forall_mem_cons]
    exact ⟨symbols _ (by omega), symbols _ (by omega), symbols _ (by omega), symbols _ (by omega),
      ih⟩
  | case2 a b =>
    have a_lt := a.toNat_lt
    have b_lt := b.toNat_lt
    simp only [List.forall_mem_cons]
    exact ⟨symbols _ (by omega), symbols _ (by omega), symbols _ (by omega), padding, nofun⟩
  | case3 a =>
    have a_lt := a.toNat_lt
    simp only [List.forall_mem_cons]
    exact ⟨symbols _ (by omega), symbols _ (by omega), padding, padding, nofun⟩
  | case4 => nofun

/-- What encoding writes are characters of one byte. -/
theorem utf8EncodeChar_of_mem_encode {bytes : Bytes} {b : UInt8} (written : b ∈ encode bytes) :
    String.utf8EncodeChar (Char.ofNat b.toNat) = [b] :=
  forall_mem_encode (P := fun b => String.utf8EncodeChar (Char.ofNat b.toNat) = [b]) (by decide)
    (by decide) bytes b written

theorem isBlank_of_mem_encode {bytes : Bytes} {b : UInt8} (written : b ∈ encode bytes) :
    Text.isBlank (Char.ofNat b.toNat) = false :=
  forall_mem_encode (P := fun b => Text.isBlank (Char.ofNat b.toNat) = false) (by decide)
    (by decide) bytes b written

theorem utf8_encodeText (bytes : Bytes) : Text.utf8 (encodeText bytes) = encode bytes := by
  have chars : (encode bytes).map (fun b => String.utf8EncodeChar (Char.ofNat b.toNat)) =
      (encode bytes).map fun b => [b] :=
    List.map_congr_left fun _ written => utf8EncodeChar_of_mem_encode written
  rw [encodeText, Text.utf8_ofList, List.flatMap_map, List.flatMap_def, chars, ← List.flatMap_def,
    List.flatMap_singleton']

end Base64

/-! ### Stored states -/

namespace Terraform

open Text (utf8)

/-- No text begins like a compressed member, whose second byte begins no character. -/
theorem not_magic_utf8 (s : String) : Gzip.magic.isPrefixOf (utf8 s) = false := by
  rw [Bool.eq_false_iff, ne_eq, List.isPrefixOf_iff_prefix]
  rintro ⟨rest, same⟩
  have read := Text.ofUtf8?_utf8 s
  rw [Text.ofUtf8?, ← same] at read
  cases read

theorem trim_encodeText (bytes : Bytes) {before after : String}
    (blank : ∀ c ∈ before.toList, Text.isBlank c = true)
    (blank' : ∀ c ∈ after.toList, Text.isBlank c = true) :
    Text.trim (before ++ Base64.encodeText bytes ++ after) = Base64.encodeText bytes := by
  have inked : ∀ c ∈ (Base64.encodeText bytes).toList, Text.isBlank c = false := by
    intro c written
    obtain ⟨b, listed, rfl⟩ := List.mem_map.mp (by simpa [Base64.encodeText] using written)
    exact Base64.isBlank_of_mem_encode listed
  rw [Text.trim, String.toList_append, String.toList_append, List.append_assoc,
    Text.trimChars_append blank (fun c first => inked c (List.mem_of_mem_head? first))
      (fun c last => inked c (List.mem_of_mem_getLast? last)) blank', String.ofList_toList]

/-- Base 64 among blanks stands for the bytes that were encoded. -/
theorem compressedState_text (bytes : Bytes) {before after : String}
    (blank : ∀ c ∈ before.toList, Text.isBlank c = true)
    (blank' : ∀ c ∈ after.toList, Text.isBlank c = true) :
    compressedState (utf8 (before ++ Base64.encodeText bytes ++ after)) = .ok bytes := by
  unfold compressedState
  rw [not_magic_utf8, Text.ofUtf8Lossy_utf8, trim_encodeText bytes blank blank', Base64.decodeText,
    Base64.utf8_encodeText, Base64.decode_encode]
  rfl

/-- A compressed state and its base 64 with white space around it stand for the same document, or
are refused for the same fault of the compressed state; and the base 64 is not taken for a
compressed state. -/
theorem state_encodings_agree (bytes : Bytes) (before after : String)
    (magic : Gzip.magic.isPrefixOf bytes = true)
    (blank : ∀ c ∈ before.toList, Text.isBlank c = true)
    (blank' : ∀ c ∈ after.toList, Text.isBlank c = true) :
    let text := utf8 (before ++ Base64.encodeText bytes ++ after)
    stateDocument text = stateDocument bytes ∧
    stateDocument bytes = (Gzip.decompress bytes).mapError .notCompressed ∧
    Gzip.magic.isPrefixOf text = false := by
  intro text
  have encoded : compressedState text = .ok bytes := compressedState_text bytes blank blank'
  have kept : compressedState bytes = .ok bytes := if_pos magic
  refine ⟨?_, ?_, not_magic_utf8 _⟩
  · unfold stateDocument
    rw [encoded, kept]
  · unfold stateDocument
    rw [kept]
    rfl

end Terraform

namespace Sample

/-- The compressed form of an empty object. -/
def member : Bytes :=
  [0x1F, 0x8B, 8, 0, 0, 0, 0, 0, 0, 0xFF, 1, 2, 0, 0xFD, 0xFF, 0x7B, 0x7D, 0x43, 0xBF, 0xA6, 0xA3,
    2, 0, 0, 0]

theorem decompress_member : Gzip.decompress member = .ok (Text.utf8 "\x7b\x7d") := by
  have found : (Gzip.decompress member).toOption = some (Text.utf8 "\x7b\x7d") := by
    decide +kernel
  cases answered : Gzip.decompress member with
  | ok bytes =>
    rw [answered] at found
    exact congrArg Except.ok (Option.some.inj found)
  | error e =>
    rw [answered] at found
    cases found

end Sample

open Text (utf8) in
/-- A state in base 64 between two kinds of white space, and one that was cut off after its first
bytes. -/
theorem Terraform.state_encodings_agree_sample :
    (Gzip.magic.isPrefixOf Sample.member = true ∧
      (∀ c ∈ "\n\u2003".toList, Text.isBlank c = true) ∧
      (∀ c ∈ "\u00A0\r\n".toList, Text.isBlank c = true) ∧
      stateDocument (utf8 ("\n\u2003" ++ Base64.encodeText Sample.member ++ "\u00A0\r\n")) =
        .ok (utf8 "\x7b\x7d")) ∧
    Gzip.magic.isPrefixOf (Sample.member.take 4) = true ∧
    stateDocument (utf8 ("" ++ Base64.encodeText (Sample.member.take 4) ++ "\n")) =
      .error (.notCompressed .endOfInput) := by
  have blank : ∀ c ∈ "\n\u2003".toList, Text.isBlank c = true := by simp [Text.isBlank]
  have blank' : ∀ c ∈ "\u00A0\r\n".toList, Text.isBlank c = true := by simp [Text.isBlank]
  have whole := state_encodings_agree Sample.member "\n\u2003" "\u00A0\r\n" rfl blank blank'
  have short := state_encodings_agree (Sample.member.take 4) "" "\n" rfl nofun
    (by simp [Text.isBlank])
  refine ⟨⟨rfl, blank, blank', ?_⟩, rfl, ?_⟩
  · rw [whole.1, whole.2.1, Sample.decompress_member]
    rfl
  · rw [short.1, short.2.1]
    rfl

end Provisioner
