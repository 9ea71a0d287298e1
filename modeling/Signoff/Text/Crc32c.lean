import Signoff.Text.Utf8
/-!
# The checksum CRC-32C

The cyclic redundancy check with the Castagnoli polynomial, low bit first, starting and ending with
all bits inverted.
-/

namespace Signoff.Crc32c

/-- The Castagnoli polynomial, low bit first. -/
def polynomial : UInt32 := 0x82F63B78

/-- One step of the division by the polynomial. -/
def shift (r : UInt32) : UInt32 := if r &&& 1 = 1 then (r >>> 1) ^^^ polynomial else r >>> 1

/-- Divides a byte in. -/
def addByte (r : UInt32) (b : UInt8) : UInt32 :=
  shift (shift (shift (shift (shift (shift (shift (shift (r ^^^ b.toUInt32))))))))

/-- The checksum of some bytes. -/
def checksum (bytes : Bytes) : UInt32 := bytes.foldl addByte 0xFFFFFFFF ^^^ 0xFFFFFFFF

/-- Eight hexadecimal digits. -/
def hex (n : UInt32) : String :=
  let digits := Nat.toDigits 16 n.toNat
  String.ofList (List.replicate (8 - digits.length) '0' ++ digits)

end Signoff.Crc32c
