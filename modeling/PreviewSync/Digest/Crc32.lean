import PreviewSync.Bytes

/-!
# Cyclic checksums

The checksum of 32 bits that guards chunks of image files and compressed content.

## Main Definitions

* `Digest.crc32` — the checksum of bytes

## Design Notes

The polynomial is divided from its highest coefficient on, which is the least significant bit; the
remainder starts as all ones and is complemented in the end, so leading zero bytes count.
-/

namespace PreviewSync.Digest

/-- One bit of division by the polynomial. -/
def crc32Bit (c : UInt32) : UInt32 :=
  if c &&& 1 = 1 then (c >>> 1) ^^^ 0xedb88320 else c >>> 1

/-- The effect of one byte on the remainder. -/
def crc32Byte (c : UInt32) (b : UInt8) : UInt32 :=
  (List.range 8).foldl (fun c _ => crc32Bit c) (c ^^^ b.toUInt32)

/-- The checksum of bytes. -/
def crc32 (bytes : Bytes) : UInt32 :=
  bytes.foldl crc32Byte 0xffffffff ^^^ 0xffffffff

end PreviewSync.Digest
