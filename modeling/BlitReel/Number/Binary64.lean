/-!
# Double-precision numbers as exact ratios

`Binary64.shape` opens a double into sign, mantissa and exponent; `Binary64.nearest` is the double
nearest to a ratio of naturals, a half going to the even mantissa. Reading and printing of numbers
rest on these two and on exact arithmetic.
-/

namespace BlitReel.Binary64

/-- What a double stands for: a finite one is `± mantissa * 2 ^ exponent`. -/
inductive Shape where
  | nan
  | infinite (negative : Bool)
  | finite (negative : Bool) (mantissa : Nat) (exponent : Int)
  deriving DecidableEq

/-- The least exponent of a double. -/
def minExponent : Int := -1074

/-- The parts of a double. -/
def shape (x : Float) : Shape :=
  let bits : Nat := x.toBits.toNat
  let negative := bits >>> 63 == 1
  let biased : Nat := bits >>> 52 % 2048
  let fraction := bits % 0x10000000000000
  if biased == 2047 then if fraction == 0 then .infinite negative else .nan
  else if biased == 0 then .finite negative fraction minExponent
  else .finite negative (0x10000000000000 + fraction) ((biased : Int) - 1075)

/-- Whether a double is neither infinite nor NaN. -/
def isFinite (x : Float) : Bool :=
  match shape x with
  | .finite .. => true
  | _ => false

/-- Whether a double is an infinity of either sign. -/
def isInfinite (x : Float) : Bool :=
  match shape x with
  | .infinite _ => true
  | _ => false

/-- Whether the sign bit of a double is set. -/
def isNegative (x : Float) : Bool := x.toBits ≥ 0x8000000000000000

/-- The ratio `num / den` rounded to a natural, a half going to the even neighbour. -/
def roundRatio (num den : Nat) : Nat :=
  let q := num / den
  let r := num % den
  if 2 * r > den || (2 * r == den && q % 2 == 1) then q + 1 else q

/-- `num / den * 2 ^ (-e)` as a ratio. -/
def scaleDown (num den : Nat) (e : Int) : Nat × Nat :=
  if e ≥ 0 then (num, den <<< e.toNat) else (num <<< (-e).toNat, den)

/-- The double with mantissa `m` and exponent `e`, given that `m` is at most `2 ^ 53` and below
`2 ^ 52` only at the least exponent; `none` when it is too large. -/
def assemble (negative : Bool) (m : Nat) (e : Int) : Option Float :=
  let (m, e) := if m == 0x20000000000000 then (0x10000000000000, e + 1) else (m, e)
  if e > 971 then none
  else
    let magnitude := if m < 0x10000000000000 then m else ((e + 1075).toNat <<< 52) + (m - 0x10000000000000)
    some (Float.ofBits (UInt64.ofNat (magnitude + if negative then 0x8000000000000000 else 0)))

/-- The double nearest to `num / den`; `none` when that is beyond the largest double. -/
def nearest (negative : Bool) (num den : Nat) : Option Float :=
  if num == 0 then assemble negative 0 minExponent
  else
    let guess : Int := (num.log2 : Int) - (den.log2 : Int) - 52
    let (n, d) := scaleDown num den guess
    let e := if n < d <<< 52 then guess - 1 else guess
    let e := max e minExponent
    let (n, d) := scaleDown num den e
    assemble negative (roundRatio n d) e

/-- The double nearest to `mantissa * base ^ exponent`; `none` when it is too large. Exponents that
can only give zero or overflow are not expanded. -/
def ofScaled (negative : Bool) (base mantissa : Nat) (exponent : Int) : Option Float :=
  let size : Int := mantissa.log2
  if mantissa == 0 then nearest negative 0 1
  else if exponent ≥ 0 then
    if exponent > 1100 then none else nearest negative (mantissa * Nat.pow base exponent.toNat) 1
  else if exponent < -(size + 1100) then nearest negative 0 1
  else nearest negative mantissa (Nat.pow base (-exponent).toNat)

end BlitReel.Binary64
