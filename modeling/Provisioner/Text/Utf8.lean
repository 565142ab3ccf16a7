/-!
# Text as bytes

Encoding text as UTF-8 and reading bytes back: strictly, or with a replacement character for every
maximal run of bytes that begins a character and does not finish it.
-/

namespace Provisioner.Text

abbrev Bytes := List UInt8

/-- The bytes of a text. -/
def utf8 (s : String) : Bytes := s.toByteArray.toList

/-- What stands at the front of some bytes: a character and its length, or the number of bytes
that begin a character without finishing it. -/
inductive Front
  | char (c : Char) (length : Nat)
  | broken (length : Nat)

def isContinuation (b : UInt8) : Bool := 0x80 ≤ b && b < 0xC0

/-- Whether `b` may follow the lead byte: the ranges leave out overlong forms, surrogates and
numbers past the last code point. -/
def maySecond (lead b : UInt8) : Bool :=
  if lead == 0xE0 then 0xA0 ≤ b && b < 0xC0
  else if lead == 0xED then 0x80 ≤ b && b < 0xA0
  else if lead == 0xF0 then 0x90 ≤ b && b < 0xC0
  else if lead == 0xF4 then 0x80 ≤ b && b < 0x90
  else isContinuation b

/-- The low six bits of a continuation byte. -/
def payload (b : UInt8) : Nat := b.toNat % 64

/-- The front of a lead byte followed by `rest`. -/
def front (lead : UInt8) (rest : Bytes) : Front :=
  if lead < 0x80 then .char (Char.ofNat lead.toNat) 1
  else if lead < 0xC2 then .broken 1
  else if lead < 0xE0 then
    match rest with
    | b :: _ =>
      if isContinuation b then .char (Char.ofNat ((lead.toNat % 32) * 64 + payload b)) 2
      else .broken 1
    | [] => .broken 1
  else if lead < 0xF0 then
    match rest with
    | b :: more =>
      if maySecond lead b then
        match more with
        | c :: _ =>
          if isContinuation c then
            .char (Char.ofNat (((lead.toNat % 16) * 64 + payload b) * 64 + payload c)) 3
          else .broken 2
        | [] => .broken 2
      else .broken 1
    | [] => .broken 1
  else if lead < 0xF5 then
    match rest with
    | b :: more =>
      if maySecond lead b then
        match more with
        | c :: more' =>
          if isContinuation c then
            match more' with
            | d :: _ =>
              if isContinuation d then
                .char (Char.ofNat
                  ((((lead.toNat % 8) * 64 + payload b) * 64 + payload c) * 64 + payload d)) 4
              else .broken 3
            | [] => .broken 3
          else .broken 2
        | [] => .broken 2
      else .broken 1
    | [] => .broken 1
  else .broken 1

/-- The characters of some bytes, reading at most `fuel` fronts; `broken` says what a broken front
stands for. -/
def decodeWith (broken : Option Char) : Nat → Bytes → Option (List Char)
  | 0, _ => some []
  | _, [] => some []
  | fuel + 1, lead :: rest =>
    match front lead rest with
    | .char c n => (decodeWith broken fuel (rest.drop (n - 1))).map (c :: ·)
    | .broken n =>
      match broken with
      | some c => (decodeWith (some c) fuel (rest.drop (n - 1))).map (c :: ·)
      | none => none

/-- The text of some bytes, if they are well formed. -/
def ofUtf8? (bytes : Bytes) : Option String :=
  (decodeWith none bytes.length bytes).map String.ofList

/-- The text of some bytes, with a replacement character for each broken run. -/
def ofUtf8Lossy (bytes : Bytes) : String :=
  String.ofList ((decodeWith (some '\uFFFD') bytes.length bytes).getD [])

end Provisioner.Text
