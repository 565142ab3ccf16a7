import Provisioner.Text.Utf8

/-!
# Base 64

Bytes as text in an alphabet of 64 characters, three bytes to four symbols, the last group padded.
Decoding is strict: the padding must be the one that encoding writes, and the bits that a last
symbol does not use must be zero.
-/

namespace Provisioner.Base64

open Text (Bytes)

/-- What keeps a text from being decoded. -/
inductive Fault
  | symbol (byte : UInt8) (offset : Nat)
  | length (n : Nat)
  | lastSymbol (byte : UInt8) (offset : Nat)
  | padding
  deriving DecidableEq

def Fault.message : Fault → String
  | .symbol b offset =>
    "Invalid symbol " ++ toString b.toNat ++ ", offset " ++ toString offset ++ "."
  | .length n => "Invalid input length: " ++ toString n
  | .lastSymbol b offset =>
    "Invalid last symbol " ++ toString b.toNat ++ ", offset " ++ toString offset ++ "."
  | .padding => "Invalid padding"

/-- The symbol of a six-bit number. -/
def symbol (n : Nat) : UInt8 :=
  if n < 26 then (65 + n).toUInt8
  else if n < 52 then (71 + n).toUInt8
  else if n < 62 then (n - 4).toUInt8
  else if n = 62 then 43
  else 47

/-- The six-bit number of a symbol. -/
def value? (b : UInt8) : Option Nat :=
  if 65 ≤ b && b ≤ 90 then some (b.toNat - 65)
  else if 97 ≤ b && b ≤ 122 then some (b.toNat - 71)
  else if 48 ≤ b && b ≤ 57 then some (b.toNat + 4)
  else if b = 43 then some 62
  else if b = 47 then some 63
  else none

/-- The padding symbol. -/
def pad : UInt8 := 61

def encode : Bytes → Bytes
  | a :: b :: c :: rest =>
    symbol (a.toNat / 4) :: symbol (a.toNat % 4 * 16 + b.toNat / 16) ::
      symbol (b.toNat % 16 * 4 + c.toNat / 64) :: symbol (c.toNat % 64) :: encode rest
  | [a, b] =>
    [symbol (a.toNat / 4), symbol (a.toNat % 4 * 16 + b.toNat / 16), symbol (b.toNat % 16 * 4), pad]
  | [a] => [symbol (a.toNat / 4), symbol (a.toNat % 4 * 16), pad, pad]
  | [] => []

/-- The number of a symbol at `offset`. -/
def valueAt (b : UInt8) (offset : Nat) : Except Fault Nat :=
  match value? b with
  | some n => .ok n
  | none => .error (.symbol b offset)

/-- The numbers of a last group and the count of its padding; `index` is the place in the group of
the first byte, and `firstPad` the place of the first padding. -/
def lastGroup (offset : Nat) : Bytes → Nat → Option Nat → Except Fault (List Nat × Nat)
  | [], _, _ => .ok ([], 0)
  | b :: rest, index, firstPad =>
    if b = pad then
      if index < 2 then .error (.symbol b (offset + index))
      else do
        let (ns, pads) ← lastGroup offset rest (index + 1) (some (firstPad.getD index))
        .ok (ns, pads + 1)
    else
      match firstPad with
      | some i => .error (.symbol pad (offset + i))
      | none => do
        let n ← valueAt b (offset + index)
        let (ns, pads) ← lastGroup offset rest (index + 1) none
        .ok (n :: ns, pads)

/-- The bytes of a last group of at most four symbols. -/
def decodeLast (offset : Nat) (group : Bytes) : Except Fault Bytes := do
  let (ns, pads) ← lastGroup offset group 0 none
  let unused (b : Nat) : Except Fault Unit :=
    if b = 0 then .ok ()
    else .error (.lastSymbol (group.getD (ns.length - 1) 0) (offset + ns.length - 1))
  match ns with
  | [] => .ok []
  | [_] => .error (.length (offset + 1))
  | [a, b] =>
    if pads ≠ 2 then .error .padding
    else do
      unused (b % 16)
      .ok [(a * 4 + b / 16).toUInt8]
  | [a, b, c] =>
    if pads ≠ 1 then .error .padding
    else do
      unused (c % 4)
      .ok [(a * 4 + b / 16).toUInt8, (b % 16 * 16 + c / 4).toUInt8]
  | a :: b :: c :: d :: _ =>
    .ok [(a * 4 + b / 16).toUInt8, (b % 16 * 16 + c / 4).toUInt8, (c % 4 * 64 + d).toUInt8]

/-- The bytes of the symbols from `offset` on: whole groups first, and then the last one. -/
def decodeFrom (offset : Nat) : Bytes → Except Fault Bytes
  | a :: b :: c :: d :: e :: rest => do
    let a ← valueAt a offset
    let b ← valueAt b (offset + 1)
    let c ← valueAt c (offset + 2)
    let d ← valueAt d (offset + 3)
    let more ← decodeFrom (offset + 4) (e :: rest)
    .ok ((a * 4 + b / 16).toUInt8 :: (b % 16 * 16 + c / 4).toUInt8 :: (c % 4 * 64 + d).toUInt8 ::
      more)
  | group => decodeLast offset group

/-- A last byte that stands alone after whole groups and is no symbol at all. -/
def strayLast? (symbols : Bytes) : Option UInt8 :=
  if symbols.length % 4 = 1 then
    symbols.getLast?.filter fun b => b ≠ pad && (value? b).isNone
  else none

/-- The bytes that some symbols stand for. -/
def decode (symbols : Bytes) : Except Fault Bytes :=
  match strayLast? symbols with
  | some b => .error (.symbol b (symbols.length - 1))
  | none => decodeFrom 0 symbols

/-- The encoding as text. -/
def encodeText (bytes : Bytes) : String :=
  String.ofList ((encode bytes).map fun b => Char.ofNat b.toNat)

def decodeText (s : String) : Except Fault Bytes := decode (Text.utf8 s)

end Provisioner.Base64
