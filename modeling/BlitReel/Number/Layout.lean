import BlitReel.Number.Shortest

/-!
# How numbers are written

A double is written positionally or with an exponent. Messages and answers switch to the exponent
below `1e-4` and from `1e+06` on; documents do so below `1e-6` and from `1e21` on and write the
exponent without padding.
-/

namespace BlitReel

namespace Decimal

/-- The character of a digit. -/
def digitChar (d : Nat) : Char := Nat.digitChar d

/-- The digits `from` to `from + count - 1` after the first, zeros beyond the last. -/
def digitsAt (ds : List Nat) (start count : Nat) : List Char :=
  let cut := ((ds.drop start).take count).map digitChar
  cut ++ List.replicate (count - cut.length) '0'

/-- Positional notation with `places` digits after the point. -/
def positional (d : Decimal) (places : Nat) : List Char :=
  let whole := if d.point > 0 then digitsAt d.digits 0 d.point.toNat else ['0']
  let fraction :=
    if d.point ≥ 0 then digitsAt d.digits d.point.toNat places
    else
      let zeros := min places (-d.point).toNat
      List.replicate zeros '0' ++ digitsAt d.digits 0 (places - zeros)
  if places == 0 then whole else whole ++ '.' :: fraction

/-- A sign and at least `width` digits. -/
def exponentText (width : Nat) (e : Int) : List Char :=
  let ds := (Nat.toDigits 10 e.natAbs)
  (if e < 0 then '-' else '+') :: (List.replicate (width - ds.length) '0' ++ ds)

/-- Notation with an exponent of at least `width` digits and `places` digits after the point. -/
def scientific (d : Decimal) (places width : Nat) (mark : Char) : List Char :=
  let lead := digitsAt d.digits 0 1
  let e := if d.digits.all (· == 0) then 0 else d.point - 1
  let body := if places == 0 then lead else lead ++ '.' :: digitsAt d.digits 1 places
  body ++ mark :: exponentText width e

/-- The digits after the point that positional notation needs. -/
def neededPlaces (d : Decimal) : Nat := ((d.digits.length : Int) - d.point).toNat

end Decimal

/-- How doubles are written. -/
structure NumberLayout where
  /-- The least decimal exponent written positionally. -/
  least : Int
  /-- The decimal exponent from which on the exponent is written. -/
  limit : Int
  /-- The least number of digits of a negative exponent. -/
  negativeWidth : Nat

namespace NumberLayout

/-- Messages: `1e+06`, `1e-05`, but `100000` and `0.0001`. -/
def message : NumberLayout := ⟨-4, 6, 2⟩

/-- Documents: `1e+21`, `1e-7`, but `100000000000000000000` and `0.000001`. -/
def document : NumberLayout := ⟨-6, 21, 1⟩

/-- The sign and digits of a finite magnitude. -/
def writeMagnitude (layout : NumberLayout) (m : Nat) (q : Int) : List Char :=
  if m == 0 then ['0']
  else
    let d := Decimal.shortest m q
    let e := d.point - 1
    if e < layout.least || e ≥ layout.limit then
      d.scientific (d.digits.length - 1) (if e < 0 then layout.negativeWidth else 2) 'e'
    else d.positional d.neededPlaces

/-- The text of a double. -/
def write (layout : NumberLayout) (x : Float) : String :=
  match Binary64.shape x with
  | .nan => "NaN"
  | .infinite negative => if negative then "-Inf" else "+Inf"
  | .finite negative m q =>
    String.ofList ((if negative then ['-'] else []) ++ layout.writeMagnitude m q)

/-- The shortest positional text of a double, however long. -/
def writePlain (x : Float) : String :=
  match Binary64.shape x with
  | .nan => "NaN"
  | .infinite negative => if negative then "-Inf" else "+Inf"
  | .finite negative m q =>
    let d := if m == 0 then ⟨[], 0⟩ else Decimal.shortest m q
    String.ofList ((if negative then ['-'] else []) ++ d.positional d.neededPlaces)

/-- A double with `places` digits after the point. -/
def writeFixed (places : Nat) (x : Float) : String :=
  match Binary64.shape x with
  | .nan => "NaN"
  | .infinite negative => if negative then "-Inf" else "+Inf"
  | .finite negative m q =>
    let units := Decimal.fixedUnits m q places
    let ds := Decimal.naturalDigits units
    let d : Decimal := ⟨ds, (ds.length : Int) - places⟩
    String.ofList ((if negative then ['-'] else []) ++ d.positional places)

end NumberLayout

end BlitReel
