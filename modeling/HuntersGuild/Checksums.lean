import Mathlib.Logic.Function.Iterate

/-!
The checksum that `phosg::crc32` computes.
-/

namespace HuntersGuild.Checksums

def crc32Bit (crc : UInt32) : UInt32 :=
  if crc &&& 1 = 1 then (crc >>> 1) ^^^ 0xEDB88320 else crc >>> 1

def crc32Byte (crc : UInt32) (b : UInt8) : UInt32 :=
  crc32Bit^[8] (crc ^^^ b.toUInt32)

def crc32 (data : List UInt8) : UInt32 :=
  ~~~data.foldl crc32Byte 0xFFFFFFFF

example : crc32 [0x31, 0x32, 0x33, 0x34, 0x35, 0x36, 0x37, 0x38, 0x39] = 0xCBF43926 := by decide +kernel

end HuntersGuild.Checksums
