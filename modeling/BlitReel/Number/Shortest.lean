import BlitReel.Number.Binary64

/-!
# Shortest decimals

Among the decimals that read back as a given double, `Decimal.shortest` has the fewest digits and
is the nearest of those. `Decimal.fixed` and `Decimal.significant` round the exact value to a
number of places or digits.
-/

namespace BlitReel

/-- The number `0.d₁d₂…dₙ * 10 ^ point`, where `digits` are `d₁ … dₙ`. Zero has no digits. -/
structure Decimal where
  digits : List Nat
  point : Int
  deriving DecidableEq, Inhabited

namespace Decimal

/-- The digits of a natural, most significant first; zero has none. -/
def naturalDigits (n : Nat) : List Nat :=
  if n == 0 then [] else (Nat.toDigits 10 n).map fun c => c.toNat - 48

/-- Without the zeros at the end. -/
def trimZeros (ds : List Nat) : List Nat := (ds.reverse.dropWhile (· == 0)).reverse

/-- The decimal `n * 10 ^ e`, without zeros at the end. -/
def ofScaled (n : Nat) (e : Int) : Decimal :=
  if n == 0 then ⟨[], 0⟩
  else
    let ds := naturalDigits n
    ⟨trimZeros ds, e + ds.length⟩

/-- Compare `a * 10 ^ e` with `num / den`. -/
def compareScaled (a : Nat) (e : Int) (num den : Nat) : Ordering :=
  if e ≥ 0 then compare (a * Nat.pow 10 e.toNat * den) num
  else compare (a * den) (num * Nat.pow 10 (-e).toNat)

/-- The least `e` with `num / den < 10 ^ e`, for a positive ratio. -/
def magnitude (num den : Nat) : Int :=
  let guess : Int := (((num.log2 : Int) - (den.log2 : Int)) * 30103).fdiv 100000
  let rec settle : Nat → Int → Int
    | 0, e => e
    | fuel + 1, e => if compareScaled 1 e num den == .gt then e else settle fuel (e + 1)
  settle 8 (guess - 2)

/-- The integer part of `num / den * 10 ^ (-e)`. -/
def floorScaled (num den : Nat) (e : Int) : Nat :=
  if e ≥ 0 then num / (den * Nat.pow 10 e.toNat) else num * Nat.pow 10 (-e).toNat / den

/-- The ratio `n * 2 ^ e`. -/
def binaryRatio (n : Nat) (e : Int) : Nat × Nat :=
  if e ≥ 0 then (n <<< e.toNat, 1) else (n, 1 <<< (-e).toNat)

/-- The fewest digits that read back as `m * 2 ^ q`, given a nonzero mantissa of a double. -/
def shortest (m : Nat) (q : Int) : Decimal :=
  let (mid, den) := binaryRatio (4 * m) (q - 2)
  let unit := if q - 2 ≥ 0 then 1 <<< (q - 2).toNat else 1
  let below := if m == 0x10000000000000 && q > Binary64.minExponent then 1 else 2
  let lo := mid - below * unit
  let hi := mid + 2 * unit
  let closed := m % 2 == 0
  let inside (a : Nat) (e : Int) : Bool :=
    let l := compareScaled a e lo den
    let h := compareScaled a e hi den
    (l == .gt || (closed && l == .eq)) && (h == .lt || (closed && h == .eq))
  let size := magnitude mid den
  let rec search : Nat → Nat → Decimal
    | 0, _ => ⟨[], 0⟩
    | fuel + 1, count =>
      let e := size - (count : Int)
      let a := floorScaled mid den e
      match inside a e, inside (a + 1) e with
      | true, false => ofScaled a e
      | false, true => ofScaled (a + 1) e
      | true, true =>
        -- twice the value against the sum of the two neighbours
        match compareScaled (2 * a + 1) e (2 * mid) den with
        | .gt => ofScaled a e
        | .lt => ofScaled (a + 1) e
        | .eq => if a % 2 == 0 then ofScaled a e else ofScaled (a + 1) e
      | false, false => search fuel (count + 1)
  search 20 1

/-- `m * 2 ^ q` rounded to `places` digits after the point, as the number of units of the last
place. -/
def fixedUnits (m : Nat) (q : Int) (places : Nat) : Nat :=
  let (num, den) := binaryRatio m q
  Binary64.roundRatio (num * Nat.pow 10 places) den

/-- `m * 2 ^ q` rounded to `count` significant digits, zeros at the end kept. -/
def significant (m : Nat) (q : Int) (count : Nat) : Decimal :=
  if m == 0 then ⟨List.replicate count 0, 1⟩
  else
    let (num, den) := binaryRatio m q
    let size := magnitude num den
    let e := size - (count : Int)
    let n := if e ≥ 0 then Binary64.roundRatio num (den * Nat.pow 10 e.toNat)
      else Binary64.roundRatio (num * Nat.pow 10 (-e).toNat) den
    let ds := naturalDigits n
    -- rounding up may have added a digit
    if ds.length > count then ⟨ds.take count, size + 1⟩
    else ⟨List.replicate (count - ds.length) 0 ++ ds, size⟩

end Decimal

end BlitReel
