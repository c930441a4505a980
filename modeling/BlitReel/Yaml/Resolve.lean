import BlitReel.Number.Numeral
import BlitReel.Yaml.Node

/-!
# What scalars mean

A plain scalar is a truth value, nothing, a number or a text, by its spelling. A tag of one of these
kinds says what it has to be; when the spelling does not allow that, the file is refused. Under any
other tag a scalar is a text.
-/

namespace BlitReel.Yaml

/-- The meaning of a scalar. -/
inductive Meaning where
  | null
  | bool (b : Bool)
  /-- A whole number from `-2 ^ 63` to `2 ^ 64 - 1`. -/
  | int (n : Int)
  | float (x : Float)
  | text (s : Octets)
  | moment

/-- The kinds of meanings, as tags name them. -/
inductive Kind where
  | null
  | bool
  | int
  | float
  | text
  | binary
  | moment
  | merge
  /-- Any other tag. -/
  | foreign
  deriving DecidableEq

/-- The kind that a tag names, long or short. -/
def Kind.ofTag (tag : String) : Kind :=
  match if tag.startsWith "tag:yaml.org,2002:" then "!!" ++ (tag.drop 18).toString else tag with
  | "!!null" => .null
  | "!!bool" => .bool
  | "!!int" => .int
  | "!!float" => .float
  | "!!str" => .text
  | "!!binary" => .binary
  | "!!timestamp" => .moment
  | "!!merge" => .merge
  | _ => .foreign

/-- Spellings with a fixed meaning. -/
def fixedSpelling? (s : String) : Option (Kind × Meaning) :=
  match s with
  | "true" | "True" | "TRUE" => some (.bool, .bool true)
  | "false" | "False" | "FALSE" => some (.bool, .bool false)
  | "" | "~" | "null" | "Null" | "NULL" => some (.null, .null)
  | ".nan" | ".NaN" | ".NAN" => some (.float, .float (0.0 / 0.0))
  | ".inf" | ".Inf" | ".INF" | "+.inf" | "+.Inf" | "+.INF" => some (.float, .float (1.0 / 0.0))
  | "-.inf" | "-.Inf" | "-.INF" => some (.float, .float (-(1.0 / 0.0)))
  | "<<" => some (.merge, .text (Octets.ofString "<<"))
  | _ => none

/-- The value of digits in a base; none when there are none or one is no digit. -/
def baseValue? (base : Nat) (ds : Octets) : Option Nat :=
  if ds.isEmpty then none
  else ds.foldl (fun acc? b => do
    let acc ← acc?
    let d ← if Octets.isDigit b then some (b.toNat - 48)
      else if Octets.isLetter b then some ((Octets.lowerAscii b).toNat - 87) else none
    if d < base then some (acc * base + d) else none) (some 0)

/-- The value of digits whose base their beginning tells. -/
def prefixedValue? (s : Octets) : Option Nat :=
  match s with
  | [] => none
  | 48 :: rest =>
    match rest with
    | mark :: d :: ds =>
      let m := Octets.lowerAscii mark
      if m == 98 then baseValue? 2 (d :: ds)
      else if m == 111 then baseValue? 8 (d :: ds)
      else if m == 120 then baseValue? 16 (d :: ds)
      else baseValue? 8 rest
    | [] => some 0
    | ds => baseValue? 8 ds
  | ds => baseValue? 10 ds

/-- A signed number within 64 bits, given how its digits are read. -/
def signedValue? (read : Octets → Option Nat) (s : Octets) : Option Int := do
  let (negative, ds) := Numeral.takeSign s
  let n ← read ds
  if negative then if n ≤ 0x8000000000000000 then some (-(n : Int)) else none
  else if n < 0x8000000000000000 then some (n : Int) else none

/-- An unsigned number within 64 bits, given how its digits are read. -/
def unsignedValue? (read : Octets → Option Nat) (s : Octets) : Option Int := do
  let n ← read s
  if n < 0x10000000000000000 then some (n : Int) else none

/-- Whether a spelling is a decimal number with optional fraction and exponent. -/
def isDecimal (s : Octets) : Bool :=
  let (_, s) := Numeral.takeSign s
  let (whole, s) := s.span Octets.isDigit
  let (fraction, s, dotted) := match s with
    | 46 :: rest => let (f, r) := rest.span Octets.isDigit; (f, r, true)
    | r => ([], r, false)
  let mantissa := if whole.isEmpty then dotted && !fraction.isEmpty else true
  let power := match s with
    | [] => true
    | e :: rest =>
      let (_, ds) := Numeral.takeSign rest
      (e == 101 || e == 69) && !ds.isEmpty && ds.all Octets.isDigit
  mantissa && power

/-- Digits of a date or time field: at least one, at most `most`, and within a range. -/
def takeField (most lo hi : Nat) (s : Octets) : Option (Nat × Octets) := do
  let ds := (s.take most).takeWhile Octets.isDigit
  let n ← baseValue? 10 ds
  if lo ≤ n && n ≤ hi then some (n, s.drop ds.length) else none

/-- The given octet, and what follows. -/
def takeOctet (b : UInt8) : Octets → Option Octets
  | c :: rest => if c == b then some rest else none
  | [] => none

/-- The days of a month. -/
def daysIn (year month : Nat) : Nat :=
  if month == 2 then if year % 4 == 0 && (year % 100 != 0 || year % 400 == 0) then 29 else 28
  else if month ∈ [4, 6, 9, 11] then 30 else 31

/-- A zone: the letter Z, or a signed offset of hours and minutes. -/
def isZone (s : Octets) : Bool :=
  match s with
  | [90] => true
  | [sign, h1, h2, 58, m1, m2] =>
    (sign == 43 || sign == 45) && [h1, h2, m1, m2].all Octets.isDigit
      && (h1.toNat - 48) * 10 + (h2.toNat - 48) ≤ 24 && (m1.toNat - 48) * 10 + (m2.toNat - 48) < 60
  | _ => false

/-- A time of day, and what follows. -/
def takeTime (s : Octets) : Option Octets := do
  let (_, s) ← takeField 2 0 23 s
  let s ← takeOctet 58 s
  let (_, s) ← takeField 2 0 59 s
  let s ← takeOctet 58 s
  let (_, s) ← takeField 2 0 59 s
  match s with
  | 46 :: rest | 44 :: rest =>
    let ds := rest.takeWhile Octets.isDigit
    if ds.isEmpty then some s else some (rest.drop ds.length)
  | _ => some s

/-- Whether a spelling is a date, or a date and a time. -/
def isMoment (s : Octets) : Bool :=
  let r : Option Bool := do
    if (s.takeWhile Octets.isDigit).length != 4 then none
    let year := (baseValue? 10 (s.take 4)).getD 0
    let s ← takeOctet 45 (s.drop 4)
    let (month, s) ← takeField 2 1 12 s
    let s ← takeOctet 45 s
    let (day, s) ← takeField 2 1 31 s
    if day > daysIn year month then none
    match s with
    | [] => some true
    | 32 :: rest => some ((← takeTime rest).isEmpty)
    | 84 :: rest | 116 :: rest => some (isZone (← takeTime rest))
    | _ => none
  r.getD false

/-- The meaning of a spelling that begins with a digit or a sign. -/
def numberMeaning? (untagged : Bool) (s : Octets) : Option (Kind × Meaning) :=
  if untagged && isMoment s then some (.moment, .moment)
  else
    let digits := s.filter (· != 95)
    let isInt (n : Int) : Option (Kind × Meaning) := some (.int, .int n)
    let based (mark : String) (base : Nat) : Option Int :=
      let m := Octets.ofString ("0" ++ mark)
      let neg := Octets.ofString ("-0" ++ mark)
      if m.isPrefixOf digits then
        let rest := digits.drop 2
        signedValue? (baseValue? base) rest <|> unsignedValue? (baseValue? base) rest
      else if neg.isPrefixOf digits then
        signedValue? (baseValue? base) (45 :: digits.drop 3)
      else none
    match signedValue? prefixedValue? digits <|> unsignedValue? prefixedValue? digits with
    | some n => isInt n
    | none =>
      let float? := if isDecimal digits then (Numeral.readFloat digits).toOption else none
      match float? with
      | some x => some (.float, .float x)
      | none => (based "b" 2 <|> based "o" 8).bind isInt

/-- The meaning of a spelling by itself. -/
def plainMeaning (moments : Bool) (text : String) : Kind × Meaning :=
  let s := Octets.ofString text
  let asText : Kind × Meaning := (.text, .text s)
  match fixedSpelling? text with
  | some m => m
  | none =>
    match s with
    | [] => asText
    | b :: _ =>
      if b == 46 then
        match Numeral.readFloat s with
        | .ok x => (.float, .float x)
        | .error _ => asText
      else if Octets.isDigit b || b == 43 || b == 45 then (numberMeaning? moments s).getD asText
      else asText

/-- The six bits of a character of base 64. -/
def base64Value? (b : UInt8) : Option Nat :=
  if 65 ≤ b && b ≤ 90 then some (b.toNat - 65)
  else if 97 ≤ b && b ≤ 122 then some (b.toNat - 71)
  else if Octets.isDigit b then some (b.toNat + 4)
  else if b == 43 then some 62
  else if b == 47 then some 63
  else none

/-- The octets that base 64 spells, in groups of four with padding in the last. -/
def base64 : Octets → Octets → Option Octets
  | [], done => some done.reverse
  | a :: b :: c :: d :: rest, done => do
    let va ← base64Value? a
    let vb ← base64Value? b
    let first := UInt8.ofNat (va * 4 + vb / 16)
    if c == 61 then
      if d == 61 && rest.isEmpty then some (first :: done).reverse else none
    else
      let vc ← base64Value? c
      let second := UInt8.ofNat (vb % 16 * 16 + vc / 4)
      if d == 61 then if rest.isEmpty then some (second :: first :: done).reverse else none
      else
        let vd ← base64Value? d
        base64 rest (UInt8.ofNat (vc % 4 * 64 + vd) :: second :: first :: done)
  | _, _ => none

/-- The meaning of a scalar; none when its tag does not allow its spelling. -/
def meaning? (tag text : String) (style : ScalarStyle) : Option Meaning :=
  let s := Octets.ofString text
  if tag.isEmpty then
    if style == .plain then some (plainMeaning true text).2 else some (.text s)
  else match Kind.ofTag tag with
    | .text | .merge | .foreign => some (.text s)
    | .binary => (base64 (s.filter fun b => b != 10 && b != 13) []).map .text
    | kind =>
      let (found, m) := plainMeaning (kind == .moment) text
      if found == kind then some m
      else match kind, m with
        | .float, .int n => if n < 0x8000000000000000 then some (.float (Float.ofInt n)) else none
        | _, _ => none

end BlitReel.Yaml
