/-!
# Octet strings

File contents, pixel data, names and texts arrive as octets that need not be valid UTF-8.
`Octets` is their type; a literal enters through `Octets.ofString`.
-/

namespace BlitReel

/-- A string of octets. -/
abbrev Octets := List UInt8

namespace Octets

/-- The UTF-8 octets of a text. -/
def ofString (s : String) : Octets := s.toUTF8.data.toList

/-- The octets of a byte array. -/
def ofByteArray (a : ByteArray) : Octets := a.data.toList

/-- Whether `pre` begins `s`. -/
def startsWith (s pre : Octets) : Bool := pre.isPrefixOf s

/-- Whether `suf` ends `s`. -/
def endsWith (s suf : Octets) : Bool := suf.isSuffixOf s

/-- The parts of `s` between occurrences of `sep`; there is always at least one. -/
def splitOn (sep : UInt8) (s : Octets) : List Octets :=
  let (parts, last) := s.foldl (fun (parts, cur) b =>
    if b == sep then (cur.reverse :: parts, []) else (parts, b :: cur)) (([] : List Octets), ([] : Octets))
  (last.reverse :: parts).reverse

/-- Where `needle` first occurs in `s`. -/
def indexOf? (needle : Octets) (s : Octets) : Option Nat :=
  go s 0
where
  go : Octets → Nat → Option Nat
    | [], i => if needle.isEmpty then some i else none
    | b :: r, i => if needle.isPrefixOf (b :: r) then some i else go r (i + 1)

/-- Whether `needle` occurs in `s`. -/
def occursIn (needle s : Octets) : Bool := (indexOf? needle s).isSome

/-- Lower case of an ASCII letter, any other octet as it is. -/
def lowerAscii (b : UInt8) : UInt8 := if 65 ≤ b && b ≤ 90 then b + 32 else b

/-- Whether an octet is a decimal digit. -/
def isDigit (b : UInt8) : Bool := 48 ≤ b && b ≤ 57

/-- Whether an octet is an ASCII letter. -/
def isLetter (b : UInt8) : Bool := (65 ≤ b && b ≤ 90) || (97 ≤ b && b ≤ 122)

/-- The value of a hexadecimal digit of either case. -/
def hexValue? (b : UInt8) : Option Nat :=
  if isDigit b then some (b.toNat - 48)
  else if 97 ≤ b && b ≤ 102 then some (b.toNat - 87)
  else if 65 ≤ b && b ≤ 70 then some (b.toNat - 55)
  else none

/-- The digit that stands for `n` below 16, in lower case. -/
def hexDigit (n : Nat) : Char := Nat.digitChar (n % 16)

/-- Two lower-case hexadecimal digits. -/
def hexPair (b : UInt8) : List Char := [hexDigit (b.toNat / 16), hexDigit b.toNat]

/-- Two lower-case hexadecimal digits for each octet. -/
def toHex (s : Octets) : String := String.ofList (s.flatMap hexPair)

/-- `n` in decimal. -/
def ofNat (n : Nat) : Octets := ofString (toString n)

/-- `n` in decimal, with a minus sign when it is negative. -/
def ofInt (n : Int) : Octets := ofString (toString n)

/-- `n` copies of `s`, one after the other. -/
def repeated (n : Nat) (s : Octets) : Octets := (List.replicate n s).flatten

end Octets

end BlitReel
