import Provisioner.Text.Utf8

/-!
# Inflating

The data of a compressed stream: blocks that are stored as they are, or coded by prefix codes that
are fixed or given at the front of the block. A coded block is a sequence of literal bytes and of
copies from the output so far; the output is preceded by zeros, so a copy may reach before its
start.
-/

namespace Provisioner.Gzip

open Text (Bytes)

/-- Why a stream does not inflate. -/
inductive InflateFault
  | incomplete
  | corrupt
  deriving DecidableEq

/-- What is still to be read: bytes, and the bits left of the byte before them, lowest first. -/
structure BitCursor where
  rest : Bytes
  pending : Nat
  count : Nat

abbrev Inflate := StateT BitCursor (Except InflateFault)

def readBit : Inflate Nat := do
  let c ← get
  if c.count = 0 then
    match c.rest with
    | [] => throw .incomplete
    | b :: rest =>
      set (BitCursor.mk rest (b.toNat / 2) 7)
      return b.toNat % 2
  else
    set (BitCursor.mk c.rest (c.pending / 2) (c.count - 1))
    return c.pending % 2

/-- A number of `n` bits, lowest first. -/
def readBits : Nat → Inflate Nat
  | 0 => return 0
  | n + 1 => do
    let low ← readBit
    let high ← readBits n
    return low + 2 * high

/-- Goes on to the next whole byte. -/
def alignToByte : Inflate Unit := modify fun c => ⟨c.rest, 0, 0⟩

/-- A prefix code: how many symbols have a code of each length from 1 to 15, and the symbols in the
order of their codes. -/
structure PrefixCode where
  counts : List Nat
  symbols : Array Nat

/-- The code in which symbol `i` has a code of `lengths[i]` bits, none if that is 0. -/
def PrefixCode.ofLengths (lengths : List Nat) : PrefixCode :=
  let indexed := lengths.zipIdx
  let ofLength (n : Nat) := (indexed.filter fun e => e.1 = n).map (·.2)
  let groups := (List.range 15).map fun n => ofLength (n + 1)
  ⟨groups.map List.length, groups.flatten.toArray⟩

/-- Twice the codes of 15 bits that begin with a code of the table, which a full table makes
`0x10000`. -/
def PrefixCode.space (code : PrefixCode) : Nat := code.counts.foldl (fun n c => 2 * (n + c)) 0

/-- Full, or with at most one symbol where `sparse` permits it. -/
def PrefixCode.usable (code : PrefixCode) (sparse : Bool) : Bool :=
  code.space == 0x10000 || (sparse && code.symbols.size ≤ 1)

/-- The symbol whose code comes next: `code` is the number read so far, `first` the first code of
the present length and `index` the place of its symbol. -/
def readSymbol (symbols : Array Nat) : List Nat → Nat → Nat → Nat → Inflate Nat
  | [], _, _, _ => throw .corrupt
  | count :: more, code, first, index => do
    let code := code + (← readBit)
    if code < first + count then
      match symbols[index + (code - first)]? with
      | some s => return s
      | none => throw .corrupt
    else readSymbol symbols more (2 * code) (2 * (first + count)) (index + count)

def PrefixCode.read (code : PrefixCode) : Inflate Nat := readSymbol code.symbols code.counts 0 0 0

/-- Least length and number of extra bits of each length symbol. -/
def lengthTable : Array (Nat × Nat) :=
  #[(3, 0), (4, 0), (5, 0), (6, 0), (7, 0), (8, 0), (9, 0), (10, 0), (11, 1), (13, 1), (15, 1),
    (17, 1), (19, 2), (23, 2), (27, 2), (31, 2), (35, 3), (43, 3), (51, 3), (59, 3), (67, 4),
    (83, 4), (99, 4), (115, 4), (131, 5), (163, 5), (195, 5), (227, 5), (258, 0)]

/-- Least distance and number of extra bits of each distance symbol. -/
def distanceTable : Array (Nat × Nat) :=
  #[(1, 0), (2, 0), (3, 0), (4, 0), (5, 1), (7, 1), (9, 2), (13, 2), (17, 3), (25, 3), (33, 4),
    (49, 4), (65, 5), (97, 5), (129, 6), (193, 6), (257, 7), (385, 7), (513, 8), (769, 8),
    (1025, 9), (1537, 9), (2049, 10), (3073, 10), (4097, 11), (6145, 11), (8193, 12),
    (12289, 12), (16385, 13), (24577, 13)]

/-- A base from a table and the extra bits that are added to it. -/
def readExtended (table : Array (Nat × Nat)) (symbol : Nat) : Inflate Nat :=
  match table[symbol]? with
  | some (base, extra) => return base + (← readBits extra)
  | none => throw .corrupt

/-- The output with `length` bytes repeated from `distance` bytes back. -/
def copyBack (distance : Nat) : Nat → ByteArray → ByteArray
  | 0, out => out
  | length + 1, out =>
    let b := if distance ≤ out.size then out.get! (out.size - distance) else 0
    copyBack distance length (out.push b)

/-- The symbols of a block up to its end. -/
def inflateCoded (literals distances : PrefixCode) : Nat → ByteArray → Inflate ByteArray
  | 0, _ => throw .corrupt
  | fuel + 1, out => do
    let s ← literals.read
    if s < 256 then inflateCoded literals distances fuel (out.push s.toUInt8)
    else if s = 256 then return out
    else
      let length ← readExtended lengthTable (s - 257)
      let distance ← readExtended distanceTable (← distances.read)
      inflateCoded literals distances fuel (copyBack distance length out)

/-- A stored block: its length, the complement of that, and the bytes. -/
def inflateStored (out : ByteArray) : Inflate ByteArray := do
  alignToByte
  let length ← readBits 16
  let complement ← readBits 16
  if length + complement ≠ 0xFFFF then throw .corrupt
  let c ← get
  if c.rest.length < length then throw .incomplete
  set { c with rest := c.rest.drop length }
  return (c.rest.take length).foldl ByteArray.push out

def fixedLiterals : PrefixCode :=
  .ofLengths (List.replicate 144 8 ++ List.replicate 112 9 ++ List.replicate 24 7 ++
    List.replicate 8 8)

def fixedDistances : PrefixCode := .ofLengths (List.replicate 32 5)

/-- The order in which the lengths of the code for lengths are given. -/
def lengthOrder : List Nat := [16, 17, 18, 0, 8, 7, 9, 6, 10, 5, 11, 4, 12, 3, 13, 2, 14, 1, 15]

/-- Code lengths until there are `total` of them, in reverse: literally or as runs. -/
def readLengths (code : PrefixCode) (total : Nat) : Nat → List Nat → Inflate (List Nat)
  | 0, _ => throw .corrupt
  | fuel + 1, done => do
    if done.length = total then return done
    else if done.length > total then throw .corrupt
    else
      let s ← code.read
      if s < 16 then readLengths code total fuel (s :: done)
      else if s = 16 then
        match done with
        | [] => throw .corrupt
        | last :: _ =>
          let n ← readBits 2
          readLengths code total fuel (List.replicate (n + 3) last ++ done)
      else if s = 17 then
        let n ← readBits 3
        readLengths code total fuel (List.replicate (n + 3) 0 ++ done)
      else
        let n ← readBits 7
        readLengths code total fuel (List.replicate (n + 11) 0 ++ done)

/-- The codes for literals and distances at the front of a block. -/
def readCodes : Inflate (PrefixCode × PrefixCode) := do
  let literalCount := (← readBits 5) + 257
  let distanceCount := (← readBits 5) + 1
  let lengthCount := (← readBits 4) + 4
  if literalCount > 286 || distanceCount > 30 then throw .corrupt
  let given ← (lengthOrder.take lengthCount).mapM fun symbol => do return (symbol, ← readBits 3)
  let lengths := (List.range 19).map fun s => ((given.find? (·.1 = s)).map (·.2)).getD 0
  let code := PrefixCode.ofLengths lengths
  if !code.usable false then throw .corrupt
  let total := literalCount + distanceCount
  let lengths := (← readLengths code total (total + 1) []).reverse
  let literals := PrefixCode.ofLengths (lengths.take literalCount)
  let distances := PrefixCode.ofLengths (lengths.drop literalCount)
  if !(literals.usable true && distances.usable true) then throw .corrupt
  return (literals, distances)

/-- The blocks of a stream up to the last one, with fuel for the symbols of each. -/
def inflateBlocks (symbols : Nat) : Nat → ByteArray → Inflate ByteArray
  | 0, _ => throw .corrupt
  | fuel + 1, out => do
    let last ← readBit
    let out ← match ← readBits 2 with
      | 0 => inflateStored out
      | 1 => inflateCoded fixedLiterals fixedDistances symbols out
      | 2 => do
        let (literals, distances) ← readCodes
        inflateCoded literals distances symbols out
      | _ => throw .corrupt
    if last = 1 then return out else inflateBlocks symbols fuel out

/-- The output of the stream at the front of some bytes, and the bytes after it. -/
def inflate (bytes : Bytes) : Except InflateFault (Bytes × Bytes) :=
  let bits := 8 * bytes.length + 1
  match inflateBlocks bits bits .empty ⟨bytes, 0, 0⟩ with
  | .ok (out, c) => .ok (out.toList, c.rest)
  | .error e => .error e

end Provisioner.Gzip
