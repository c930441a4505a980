import BlitReel.Text.Octets

/-!
# Checksums

Chunks of a picture file end in the remainder of a division of polynomials over two elements, and
compressed data ends in two running sums modulo 65521.
-/

namespace BlitReel.Checksum

/-- One step of the division. -/
def divideBit (r : UInt32) : UInt32 := if r &&& 1 == 1 then (r >>> 1) ^^^ 0xEDB88320 else r >>> 1

/-- The remainder that an octet alone leaves. -/
def remainder (b : Nat) : UInt32 := Nat.repeat divideBit 8 (UInt32.ofNat b)

/-- The remainders of all octets. -/
def remainders : Array UInt32 := Array.ofFn fun i : Fin 256 => remainder i.val

/-- The remainder after one more octet. -/
def crcStep (r : UInt32) (b : UInt8) : UInt32 :=
  remainders.getD ((r ^^^ b.toUInt32) &&& 0xFF).toNat 0 ^^^ (r >>> 8)

/-- The checksum of a chunk. -/
def crc (data : Octets) : UInt32 := (data.foldl crcStep 0xFFFFFFFF) ^^^ 0xFFFFFFFF

/-- The checksum of compressed data: the sum of the octets and the sum of those sums. -/
def adler (data : Octets) : UInt32 :=
  let (a, b) := data.foldl (fun ((a, b) : Nat × Nat) x =>
    let a := (a + x.toNat) % 65521
    (a, (b + a) % 65521)) (1, 0)
  UInt32.ofNat (b * 65536 + a)

/-- Four octets, most significant first. -/
def bigEndian32 (n : UInt32) : Octets :=
  [(n >>> 24).toUInt8, (n >>> 16).toUInt8, (n >>> 8).toUInt8, n.toUInt8]

end BlitReel.Checksum
