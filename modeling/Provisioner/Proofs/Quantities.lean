import Provisioner.Quantity

/-!
The grammar of quantities: an optional sign, a number and an optional suffix. It is stated for any
notion of a digit. What is accepted is the grammar with the digits of all scripts, which for a text
with no digits outside ASCII is the grammar with the digits of ASCII.
-/

namespace Provisioner

namespace Quantity

open Text (isDigit)

variable {digit digit' : Char → Bool} {cs rest sign number suffix : List Char} {c : Char}

/-! ### The grammar -/

/-- At most one sign. -/
inductive Sign : List Char → Prop
  | none : Sign []
  | plus : Sign ['+']
  | minus : Sign ['-']

/-- One digit or more. -/
structure Digits (digit : Char → Bool) (cs : List Char) : Prop where
  some : cs ≠ []
  all : ∀ c ∈ cs, digit c

inductive Number (digit : Char → Bool) : List Char → Prop
  | whole {whole : List Char} (digits : Digits digit whole) : Number digit whole
  | pointed {whole fraction : List Char} (digits : Digits digit whole)
    (more : ∀ c ∈ fraction, digit c) : Number digit (whole ++ '.' :: fraction)
  | fraction {fraction : List Char} (digits : Digits digit fraction) :
    Number digit ('.' :: fraction)

/-- Nothing, a power of two, a power of ten, or a decimal exponent. -/
inductive Suffix (digit : Char → Bool) : List Char → Prop
  | none : Suffix digit []
  | binary {c : Char} (letter : c ∈ "KMGTPE".toList) : Suffix digit [c, 'i']
  | decimal {c : Char} (letter : c ∈ "numkMGTPE".toList) :
    Suffix digit [c]
  | exponent {c : Char} {sign power : List Char} (letter : c ∈ "eE".toList) (signed : Sign sign)
    (digits : Digits digit power) : Suffix digit (c :: (sign ++ power))

/-- A quantity with digits of some kind. -/
inductive Written (digit : Char → Bool) : List Char → Prop
  | mk {sign number suffix : List Char} (signed : Sign sign) (numbered : Number digit number)
    (suffixed : Suffix digit suffix) : Written digit (sign ++ (number ++ suffix))

/-! ### Reading by the grammar -/

theorem digits_iff : Digits isDigit cs ↔ (!cs.isEmpty && cs.all isDigit) = true := by
  constructor
  · rintro ⟨some, all⟩
    simp [some, List.all_eq_true.mpr all]
  · intro accepted
    simp at accepted
    exact ⟨accepted.1, accepted.2⟩

theorem Sign.afterSign (signed : Sign sign) (unsigned : ∀ c ∈ cs.head?, isSign c = false) :
    Quantity.afterSign (sign ++ cs) = cs := by
  cases signed with
  | none =>
    cases cs with
    | nil => rfl
    | cons c rest => simp [Quantity.afterSign, unsigned c rfl]
  | plus => rfl
  | minus => rfl

theorem exists_sign (cs : List Char) : ∃ sign, Sign sign ∧ cs = sign ++ afterSign cs := by
  cases cs with
  | nil => exact ⟨[], .none, rfl⟩
  | cons c rest =>
    by_cases signed : isSign c = true
    · simp only [afterSign, signed, if_true]
      simp only [isSign, Bool.or_eq_true, beq_iff_eq] at signed
      rcases signed with rfl | rfl
      · exact ⟨['+'], .plus, rfl⟩
      · exact ⟨['-'], .minus, rfl⟩
    · exact ⟨[], .none, by simp [afterSign, signed]⟩

/-- A digit is no sign. -/
theorem isSign_of_isDigit (digit : isDigit c = true) : isSign c = false := by
  simp only [isSign, Bool.or_eq_false_iff, beq_eq_false_iff_ne]
  constructor
  · rintro rfl
    revert digit
    decide
  · rintro rfl
    revert digit
    decide

theorem isExponent_iff : isExponent cs = true ↔
    ∃ c sign power, cs = c :: (sign ++ power) ∧ c ∈ "eE".toList ∧ Sign sign ∧
      Digits isDigit power := by
  cases cs with
  | nil => simp [isExponent]
  | cons c rest =>
    simp only [isExponent, Bool.and_assoc]
    rw [Bool.and_eq_true, ← digits_iff]
    constructor
    · rintro ⟨letter, digits⟩
      obtain ⟨sign, signed, whole⟩ := exists_sign rest
      exact ⟨c, sign, afterSign rest, by rw [← whole], by simpa using letter, signed, digits⟩
    · rintro ⟨_, sign, power, ⟨⟩, letter, signed, digits⟩
      have unsigned : ∀ c ∈ power.head?, isSign c = false := fun c first =>
        isSign_of_isDigit (digits.all c (List.mem_of_mem_head? first))
      rw [signed.afterSign unsigned]
      exact ⟨by simpa using letter, digits⟩

theorem mem_powers_iff : cs ∈ powers ↔
    (∃ c ∈ "KMGTPE".toList, cs = [c, 'i']) ∨
      ∃ c ∈ "numkMGTPE".toList, cs = [c] := by
  simp [powers, or_assoc]

theorem isSuffix_iff : isSuffix cs = true ↔ Suffix isDigit cs := by
  simp only [isSuffix, Bool.or_eq_true, List.isEmpty_iff, List.contains_iff_mem, mem_powers_iff,
    isExponent_iff]
  constructor
  · rintro ((rfl | ⟨c, letter, rfl⟩ | ⟨c, letter, rfl⟩) |
      ⟨c, sign, power, rfl, letter, signed, digits⟩)
    · exact .none
    · exact .binary letter
    · exact .decimal letter
    · exact .exponent letter signed digits
  · rintro (_ | letter | letter | ⟨letter, signed, digits⟩)
    · exact .inl (.inl rfl)
    · exact .inl (.inr (.inl ⟨_, letter, rfl⟩))
    · exact .inl (.inr (.inr ⟨_, letter, rfl⟩))
    · exact .inr ⟨_, _, _, rfl, letter, signed, digits⟩

/-! ### Numbers -/

theorem stops_of_mem {letters : List Char} (letter : c ∈ letters)
    (stop : letters.all (fun c => !isDigit c && c ≠ '.') = true) :
    isDigit c = false ∧ c ≠ '.' := by
  simpa using List.all_eq_true.mp stop c letter

/-- No suffix goes on with a number: neither with a digit nor with a point. -/
theorem Suffix.stops (suffixed : Suffix isDigit suffix) :
    ∀ c ∈ suffix.head?, isDigit c = false ∧ c ≠ '.' := by
  cases suffixed with
  | none => nofun
  | binary letter =>
    rintro _ ⟨⟩
    exact stops_of_mem letter (by decide)
  | decimal letter =>
    rintro _ ⟨⟩
    exact stops_of_mem letter (by decide)
  | exponent letter =>
    rintro _ ⟨⟩
    exact stops_of_mem letter (by decide)

/-- Digits end where something else comes. -/
theorem digits_end (all : ∀ c ∈ cs, isDigit c) (stops : ∀ c ∈ rest.head?, isDigit c = false) :
    (cs ++ rest).takeWhile isDigit = cs ∧ (cs ++ rest).dropWhile isDigit = rest := by
  rw [List.takeWhile_append_of_pos all, List.dropWhile_append_of_pos all]
  cases rest with
  | nil => simp
  | cons c rest => simp [stops c rfl]

/-- A number is passed over up to what does not go on with it. -/
theorem Number.afterNumber? (numbered : Number isDigit number)
    (stops : ∀ c ∈ rest.head?, isDigit c = false ∧ c ≠ '.') :
    Quantity.afterNumber? (number ++ rest) = some rest := by
  have noDigit : ∀ c ∈ rest.head?, isDigit c = false := fun c first => (stops c first).1
  cases numbered with
  | whole digits =>
    obtain ⟨taken, dropped⟩ := digits_end digits.all noDigit
    unfold Quantity.afterNumber?
    rw [taken, dropped]
    split
    · exact absurd rfl (stops '.' rfl).2
    · simp [digits.some]
  | @pointed whole fraction digits more =>
    have point : ∀ c ∈ ('.' :: (fraction ++ rest)).head?, isDigit c = false := by
      rintro _ ⟨⟩
      decide
    obtain ⟨taken, dropped⟩ := digits_end digits.all point
    unfold Quantity.afterNumber?
    rw [List.append_assoc, List.cons_append, taken, dropped]
    simp [digits.some, (digits_end more noDigit).2]
  | @fraction fraction digits =>
    have point : ¬ isDigit '.' = true := by decide
    unfold Quantity.afterNumber?
    rw [List.cons_append, List.takeWhile_cons_of_neg point, List.dropWhile_cons_of_neg point]
    simp [digits.some, digits_end digits.all noDigit]

/-- What is passed over is a number. -/
theorem exists_number (read : afterNumber? cs = some rest) :
    ∃ number, Number isDigit number ∧ cs = number ++ rest := by
  have digits (cs : List Char) : ∀ c ∈ cs.takeWhile isDigit, isDigit c :=
    List.all_eq_true.mp List.all_takeWhile
  have whole := List.takeWhile_append_dropWhile (p := isDigit) (l := cs)
  unfold afterNumber? at read
  split at read
  · rename_i after point
    have fraction := List.takeWhile_append_dropWhile (p := isDigit) (l := after)
    dsimp only at read
    split at read
    · cases read
    · rename_i filled
      obtain rfl := Option.some.inj read
      rw [point, ← fraction] at whole
      by_cases empty : cs.takeWhile isDigit = []
      · rw [empty] at whole filled
        exact ⟨_, .fraction ⟨by simpa using filled, digits after⟩, whole.symm⟩
      · exact ⟨_, .pointed ⟨empty, digits cs⟩ (digits after), by simpa using whole.symm⟩
  · dsimp only at read
    split at read
    · cases read
    · rename_i filled
      obtain rfl := Option.some.inj read
      exact ⟨_, .whole ⟨by simpa using filled, digits cs⟩, whole.symm⟩

/-- A number does not start with a sign. -/
theorem Number.unsigned (numbered : Number isDigit number) :
    ∀ c ∈ (number ++ rest).head?, isSign c = false := by
  have digits_unsigned {cs : List Char} (digits : Digits isDigit cs) (rest : List Char) :
      ∀ c ∈ (cs ++ rest).head?, isSign c = false := by
    cases cs with
    | nil => exact absurd rfl digits.some
    | cons d ds =>
      rintro _ ⟨⟩
      exact isSign_of_isDigit (digits.all d List.mem_cons_self)
  cases numbered with
  | whole digits => exact digits_unsigned digits rest
  | pointed digits =>
    rw [List.append_assoc]
    exact digits_unsigned digits _
  | fraction digits =>
    rintro _ ⟨⟩
    decide

/-- What is accepted as a quantity is what the grammar makes with the digits of all scripts. -/
theorem isWritten_iff (s : String) : isWritten s = true ↔ Written isDigit s.toList := by
  unfold isWritten
  constructor
  · intro accepted
    obtain ⟨suffix, read, suffixed⟩ := (Option.any_eq_true _ _).mp accepted
    obtain ⟨sign, signed, whole⟩ := exists_sign s.toList
    obtain ⟨number, numbered, rest⟩ := exists_number read
    rw [whole, rest]
    exact .mk signed numbered (isSuffix_iff.mp suffixed)
  · generalize s.toList = cs
    rintro ⟨signed, numbered, suffixed⟩
    rw [signed.afterSign numbered.unsigned, numbered.afterNumber? suffixed.stops]
    exact isSuffix_iff.mpr suffixed

/-! ### Digits of ASCII -/

section Weaken

variable (kept : ∀ c ∈ cs, digit c → digit' c)
include kept

theorem Digits.weaken (digits : Digits digit cs) : Digits digit' cs :=
  ⟨digits.some, fun c listed => kept c listed (digits.all c listed)⟩

theorem Number.weaken (numbered : Number digit cs) : Number digit' cs := by
  cases numbered with
  | whole digits => exact .whole (digits.weaken kept)
  | pointed digits more =>
    refine .pointed (digits.weaken fun c listed => kept c (by simp [listed])) fun c listed => ?_
    exact kept c (by simp [listed]) (more c listed)
  | fraction digits => exact .fraction (digits.weaken fun c listed => kept c (by simp [listed]))

theorem Suffix.weaken (suffixed : Suffix digit cs) : Suffix digit' cs := by
  cases suffixed with
  | none => exact .none
  | binary letter => exact .binary letter
  | decimal letter => exact .decimal letter
  | exponent letter signed digits =>
    exact .exponent letter signed (digits.weaken fun c listed => kept c (by simp [listed]))

theorem Written.weaken (written : Written digit cs) : Written digit' cs := by
  obtain ⟨signed, numbered, suffixed⟩ := written
  exact .mk signed (numbered.weaken fun c listed => kept c (by simp [listed]))
    (suffixed.weaken fun c listed => kept c (by simp [listed]))

end Weaken

/-- What stands in a quantity besides digits. -/
def marks : List Char := "+-.KiMGTPEnumke".toList

theorem isDigit_of_mem_marks (mark : c ∈ marks) : isDigit c = false := by
  have others : marks.all (!isDigit ·) = true := by decide
  simpa using List.all_eq_true.mp others c mark

theorem Sign.subset_marks (signed : Sign sign) : sign ⊆ marks := by cases signed <;> decide

theorem Number.mem (numbered : Number digit number) (listed : c ∈ number) :
    digit c ∨ c ∈ marks := by
  cases numbered with
  | whole digits => exact .inl (digits.all c listed)
  | pointed digits more =>
    rcases List.mem_append.mp listed with listed | listed
    · exact .inl (digits.all c listed)
    · rcases List.mem_cons.mp listed with rfl | listed
      · exact .inr (by decide)
      · exact .inl (more c listed)
  | fraction digits =>
    rcases List.mem_cons.mp listed with rfl | listed
    · exact .inr (by decide)
    · exact .inl (digits.all c listed)

theorem Suffix.mem (suffixed : Suffix digit suffix) (listed : c ∈ suffix) :
    digit c ∨ c ∈ marks := by
  cases suffixed with
  | none => cases listed
  | binary letter =>
    rcases List.mem_cons.mp listed with rfl | listed
    · exact .inr ((by decide : "KMGTPE".toList ⊆ marks) letter)
    · rw [List.mem_singleton.mp listed]
      exact .inr (by decide)
  | decimal letter =>
    rw [List.mem_singleton.mp listed]
    exact .inr ((by decide : "numkMGTPE".toList ⊆ marks) letter)
  | exponent letter signed digits =>
    rcases List.mem_cons.mp listed with rfl | listed
    · exact .inr ((by decide : "eE".toList ⊆ marks) letter)
    · rcases List.mem_append.mp listed with listed | listed
      · exact .inr (signed.subset_marks listed)
      · exact .inl (digits.all c listed)

theorem Written.mem (written : Written digit cs) (listed : c ∈ cs) : digit c ∨ c ∈ marks := by
  obtain ⟨signed, numbered, suffixed⟩ := written
  rcases List.mem_append.mp listed with listed | listed
  · exact .inr (signed.subset_marks listed)
  · rcases List.mem_append.mp listed with listed | listed
    · exact numbered.mem listed
    · exact suffixed.mem listed

theorem isDigit_of_isDigit (ascii : c.isDigit = true) : isDigit c = true := by
  simp only [Char.isDigit, ge_iff_le, Bool.and_eq_true, decide_eq_true_eq] at ascii
  have lower : 48 ≤ c.toNat := UInt32.le_iff_toNat_le.mp ascii.1
  have upper : c.toNat ≤ 57 := UInt32.le_iff_toNat_le.mp ascii.2
  refine List.any_eq_true.mpr ⟨0x30, by decide, ?_⟩
  simp only [Bool.and_eq_true, decide_eq_true_eq]
  omega

/-- A quantity with digits of ASCII is a quantity all of whose digits are of ASCII. -/
theorem written_ascii_iff : Written Char.isDigit cs ↔
    Written isDigit cs ∧ ∀ c ∈ cs, isDigit c → c.isDigit := by
  constructor
  · intro written
    refine ⟨written.weaken fun c _ => isDigit_of_isDigit, fun c listed digit => ?_⟩
    refine (written.mem listed).resolve_right fun mark => ?_
    simp [isDigit_of_mem_marks mark] at digit
  · rintro ⟨written, ascii⟩
    exact written.weaken ascii

end Quantity

end Provisioner
