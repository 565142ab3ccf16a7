import Provisioner.Text.Utf8

/-!
# Cyclic checksums

The 32-bit cyclic redundancy check of some bytes, by its reflected polynomial.
-/

namespace Provisioner.Gzip

open Text (Bytes)

/-- One bit of the division by the polynomial. -/
def checksumBit (crc : UInt32) : UInt32 :=
  if crc &&& 1 == 1 then (crc >>> 1) ^^^ 0xEDB88320 else crc >>> 1

def checksumByte (crc : UInt32) (b : UInt8) : UInt32 :=
  (List.range 8).foldl (fun c _ => checksumBit c) (crc ^^^ b.toUInt32)

def checksum (bytes : Bytes) : UInt32 := bytes.foldl checksumByte 0xFFFFFFFF ^^^ 0xFFFFFFFF

end Provisioner.Gzip
