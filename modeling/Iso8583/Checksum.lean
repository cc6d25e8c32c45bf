import Iso8583.Bytes

/-!
# CRC-32C

The Castagnoli checksum, reflected: the remainder starts as all ones, takes each byte at its low
end and shifts right one bit at a time, and is inverted at the end.
-/

namespace Iso8583

namespace Checksum

def polynomial : UInt32 := 0x82F63B78

def shiftBit (remainder : UInt32) : UInt32 :=
  if remainder &&& 1 = 1 then (remainder >>> 1) ^^^ polynomial else remainder >>> 1

def feed (remainder : UInt32) (byte : UInt8) : UInt32 :=
  shiftBit <| shiftBit <| shiftBit <| shiftBit <| shiftBit <| shiftBit <| shiftBit <| shiftBit <|
    remainder ^^^ byte.toUInt32

/-- The remainders of all bytes by themselves. -/
def table : Array UInt32 := Array.ofFn fun byte : Fin 256 => feed 0 (UInt8.ofNat byte)

/-- What `feed` does, by one look into the table. -/
def feedByTable (remainder : UInt32) (byte : UInt8) : UInt32 :=
  let place := remainder.toUInt8 ^^^ byte
  have inside : place.toNat < table.size := by
    rw [table, Array.size_ofFn]
    exact place.toNat_lt
  table[place.toNat] ^^^ (remainder >>> 8)

/-- Feeds the bytes of a text from a place on. The text is read where it is. -/
def feedText (text : String) (place : Nat) (remainder : UInt32) : UInt32 :=
  if inside : place < text.utf8ByteSize then
    feedText text (place + 1) (feedByTable remainder (text.getUTF8Byte ⟨place⟩ inside))
  else remainder
  termination_by text.utf8ByteSize - place

end Checksum

def crc32c (bytes : Bytes) : UInt32 :=
  (bytes.foldl Checksum.feed 0xFFFFFFFF) ^^^ 0xFFFFFFFF

end Iso8583
