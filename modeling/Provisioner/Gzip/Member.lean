import Provisioner.Gzip.Checksum
import Provisioner.Gzip.Inflate

/-!
# Compressed members

A member is a header, a compressed stream, and the checksum and length of what it inflates to. What
follows the first member is not looked at.
-/

namespace Provisioner.Gzip

open Text (Bytes)

/-- Why some bytes are not a member. -/
inductive Fault
  | endOfInput
  | header
  | incomplete
  | corrupt
  | checksum
  deriving DecidableEq

def Fault.message : Fault → String
  | .endOfInput => "unexpected end of file"
  | .header => "invalid gzip header"
  | .incomplete => "incomplete deflate stream"
  | .corrupt => "corrupt deflate stream"
  | .checksum => "corrupt gzip stream does not have a matching checksum"

/-- The two bytes that every member begins with. -/
def magic : Bytes := [0x1F, 0x8B]

/-- The bytes after the first `n`, if there are so many. -/
def dropExactly (n : Nat) (bytes : Bytes) : Except Fault Bytes :=
  if bytes.length < n then .error .endOfInput else .ok (bytes.drop n)

/-- The bytes after the first zero byte. -/
def afterZero : Bytes → Except Fault Bytes
  | [] => .error .endOfInput
  | b :: rest => if b = 0 then .ok rest else afterZero rest

/-- A number of some bytes, lowest first. -/
def littleEndian (bytes : Bytes) : Nat := bytes.foldr (fun b n => b.toNat + 256 * n) 0

/-- The fields of a header: bit 0 marks a text, 1 a header checksum, 2 extra data, 3 a file name, 4
a comment, and the others are reserved. -/
def hasFlag (flags : UInt8) (bit : Nat) : Bool := flags.toNat.testBit bit

/-- The bytes after the header. -/
def afterHeader (bytes : Bytes) : Except Fault Bytes := do
  let rest ← dropExactly 10 bytes
  let flags := bytes.getD 3 0
  if bytes.take 2 ≠ magic || bytes.getD 2 0 ≠ 8 || flags.toNat / 32 ≠ 0 then .error .header
  let rest ←
    if hasFlag flags 2 then do
      let after ← dropExactly 2 rest
      dropExactly (littleEndian (rest.take 2)) after
    else .ok rest
  let rest ← if hasFlag flags 3 then afterZero rest else .ok rest
  let rest ← if hasFlag flags 4 then afterZero rest else .ok rest
  if hasFlag flags 1 then do
    let after ← dropExactly 2 rest
    let header := bytes.take (bytes.length - rest.length)
    if littleEndian (rest.take 2) = (checksum header).toNat % 0x10000 then .ok after
    else .error .checksum
  else .ok rest

/-- What the first member inflates to. -/
def decompress (bytes : Bytes) : Except Fault Bytes := do
  let body ← afterHeader bytes
  match inflate body with
  | .error .incomplete => .error .incomplete
  | .error .corrupt => .error .corrupt
  | .ok (out, rest) =>
    let _ ← dropExactly 8 rest
    if littleEndian (rest.take 4) = (checksum out).toNat ∧
        littleEndian ((rest.drop 4).take 4) = out.length % 0x100000000 then .ok out
    else .error .checksum

end Provisioner.Gzip
