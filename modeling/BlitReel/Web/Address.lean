import BlitReel.Text.Octets

/-!
# Web addresses

The target of a web request is a path and perhaps a query, in which octets may be written as a percent
sign and two hexadecimal digits. A path is matched in its plain form when writing that form again gives
the path as it came, and as it came otherwise.
-/

namespace BlitReel.Web

/-- A percent sign. -/
def percent : UInt8 := 0x25

/-- Octets with their escapes resolved; a percent sign that begins no escape has no meaning. -/
def unescape : Octets → Option Octets
  | [] => some []
  | b :: rest =>
    if b == percent then
      match rest with
      | hi :: lo :: rest => do
        let hi ← Octets.hexValue? hi
        let lo ← Octets.hexValue? lo
        let tail ← unescape rest
        return UInt8.ofNat (hi * 16 + lo) :: tail
      | _ => none
    else (unescape rest).map (b :: ·)

/-- The octets that stand for themselves in a path. -/
def isPlain (b : UInt8) : Bool :=
  Octets.isLetter b || Octets.isDigit b || (Octets.ofString "-_.~$&+,/:;=@").contains b

/-- An octet as it is written in a path. -/
def escapeOctet (b : UInt8) : Octets :=
  if isPlain b then [b] else percent :: (Octets.ofString (Octets.toHex [b])).map upper
where
  upper (d : UInt8) : UInt8 := if 97 ≤ d then d - 32 else d

/-- A path as it is written. -/
def escape (path : Octets) : Octets := path.flatMap escapeOctet

/-- Where a request goes. -/
structure Address where
  /-- The path by which the request is matched. -/
  path : Octets
  /-- The names of the parameters in the query. -/
  parameters : List Octets
  deriving DecidableEq

namespace Address

/-- The name of a parameter: what stands before the equals sign, with plus signs for blanks. -/
def parameterName? (s : Octets) : Option Octets :=
  if s.contains 0x3B then none
  else unescape ((s.takeWhile (· != 0x3D)).map fun b => if b == 0x2B then 0x20 else b)

/-- The address that a target spells. -/
def read? (target : Octets) : Option Address := do
  let raw := target.takeWhile (· != 0x3F)
  let query := (target.dropWhile (· != 0x3F)).drop 1
  let plain ← unescape raw
  return {
    path := if escape plain == raw then plain else raw
    parameters := ((Octets.splitOn 0x26 query).filter (!·.isEmpty)).filterMap parameterName? }

end Address

end BlitReel.Web
