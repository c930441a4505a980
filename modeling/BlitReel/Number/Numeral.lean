import BlitReel.Number.Binary64
import BlitReel.Text.Quoted

/-!
# Numerals

Whole numbers in decimal and numbers with fraction and exponent, as users type them. A whole number
is an optional sign and digits within 64 bits. A general number may also be hexadecimal with a
binary exponent, may have underscores between digits, and may be an infinity or NaN by name.
-/

namespace BlitReel

/-- Why a numeral is refused. -/
inductive Numeral.Fault where
  | notANumeral
  | outOfRange
  deriving DecidableEq

namespace Numeral

/-- The wording of a fault. -/
def Fault.message : Fault → String
  | .notANumeral => "invalid syntax"
  | .outOfRange => "value out of range"

/-- The value of a run of decimal digits below `2 ^ 64`, after `acc`. The first fault met counts. -/
def digitsValue : Octets → Nat → Except Fault Nat
  | [], acc => .ok acc
  | b :: rest, acc =>
    if !Octets.isDigit b then .error .notANumeral
    else
      let next := acc * 10 + (b.toNat - 48)
      if next ≥ 0x10000000000000000 then .error .outOfRange else digitsValue rest next

/-- A sign, if there is one, and what follows. -/
def takeSign : Octets → Bool × Octets
  | 43 :: rest => (false, rest)
  | 45 :: rest => (true, rest)
  | s => (false, s)

/-- A whole number of 64 bits. -/
def readInt (s : Octets) : Except Fault Int64 := do
  let (negative, digits) := takeSign s
  if digits.isEmpty then throw .notANumeral
  let n ← digitsValue digits 0
  if negative then
    if n > 0x8000000000000000 then throw .outOfRange
    return Int64.ofInt (-(n : Int))
  else
    if n ≥ 0x8000000000000000 then throw .outOfRange
    return Int64.ofNat n

/-- What the character before said, for the placing of underscores. -/
inductive Separation where
  | start
  | digit
  | underscore
  | other
  deriving DecidableEq

/-- Whether every underscore stands between digits; the base mark counts as one. -/
def underscoresPlaced (s : Octets) : Bool :=
  let (_, s) := takeSign s
  let mark? : Option UInt8 := match s with
    | 48 :: b :: _ => if Octets.lowerAscii b ∈ [98, 111, 120] then some (Octets.lowerAscii b) else none
    | _ => none
  let hex := mark? == some 120
  let (body, before) := if mark?.isSome then (s.drop 2, Separation.digit) else (s, Separation.start)
  let rec walk : Octets → Separation → Bool
    | [], last => last != .underscore
    | b :: rest, last =>
      if Octets.isDigit b || (hex && (Octets.hexValue? b).isSome) then walk rest .digit
      else if b == 95 then last == .digit && walk rest .underscore
      else last != .underscore && walk rest .other
  walk body before

/-- Digits of a mantissa as they are read. -/
structure Mantissa where
  value : Nat := 0
  /-- Digits read after the point. -/
  scale : Nat := 0
  sawDigit : Bool := false
  sawPoint : Bool := false
  sawUnderscore : Bool := false

/-- The longest mantissa at the front, and what follows. -/
def takeMantissa (base : Nat) : Octets → Mantissa → Mantissa × Octets
  | [], m => (m, [])
  | b :: rest, m =>
    if b == 95 then takeMantissa base rest { m with sawUnderscore := true }
    else if b == 46 then
      if m.sawPoint then (m, b :: rest) else takeMantissa base rest { m with sawPoint := true }
    else match Octets.hexValue? b with
      | some d =>
        if d < base then
          takeMantissa base rest { m with
            value := m.value * base + d
            scale := if m.sawPoint then m.scale + 1 else m.scale
            sawDigit := true }
        else (m, b :: rest)
      | none => (m, b :: rest)

/-- The digits of an exponent, with underscores left out; a value from ten thousand on stays as it
is. -/
def takeExponent : Octets → Nat → Bool → Nat × Bool × Octets
  | [], e, under => (e, under, [])
  | b :: rest, e, under =>
    if b == 95 then takeExponent rest e true
    else if Octets.isDigit b then
      takeExponent rest (if e < 10000 then e * 10 + (b.toNat - 48) else e) under
    else (e, under, b :: rest)

/-- The named values, in any case: an infinity with an optional sign, or NaN without one. -/
def named? (s : Octets) : Option Float :=
  let lower := s.map Octets.lowerAscii
  let (negative, name) := takeSign lower
  if name == Octets.ofString "inf" || name == Octets.ofString "infinity" then
    some (if negative then -(1.0 / 0.0) else 1.0 / 0.0)
  else if lower == Octets.ofString "nan" then some (0.0 / 0.0)
  else none

/-- Whether digits of base sixteen follow. -/
def marksHex : Octets → Bool
  | 48 :: x :: _ :: _ => Octets.lowerAscii x == 120
  | _ => false

/-- The exponent behind a mantissa, zero when nothing is left, and whether there were underscores. -/
def readExponent (hex : Bool) (m : Mantissa) : Octets → Except Fault (Int × Bool)
  | [] => if hex then .error .notANumeral else .ok (0, m.sawUnderscore)
  | b :: rest =>
    let mark : UInt8 := if hex then 112 else 101
    if Octets.lowerAscii b != mark then .error .notANumeral
    else
      let (negative, digits) := takeSign rest
      match digits with
      | d :: _ =>
        if !Octets.isDigit d then .error .notANumeral
        else
          let (e, under, rest) := takeExponent digits 0 m.sawUnderscore
          if !rest.isEmpty then .error .notANumeral else .ok (if negative then -(e : Int) else e, under)
      | [] => .error .notANumeral

/-- A general number. -/
def readFloat (s : Octets) : Except Fault Float := do
  if let some x := named? s then return x
  let (negative, body) := takeSign s
  let hex := marksHex body
  let (m, rest) := if hex then takeMantissa 16 (body.drop 2) {} else takeMantissa 10 body {}
  if !m.sawDigit then throw .notANumeral
  let (exponent, sawUnderscore) ← readExponent hex m rest
  if sawUnderscore && !underscoresPlaced s then throw .notANumeral
  let value? :=
    if hex then Binary64.ofScaled negative 2 m.value (exponent - 4 * m.scale)
    else Binary64.ofScaled negative 10 m.value (exponent - m.scale)
  match value? with
  | some x => return x
  | none => throw .outOfRange

end Numeral

end BlitReel
