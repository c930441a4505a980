/-!
# The sine

The argument is brought into the octant around the nearest multiple of a half turn by subtracting
a multiple of a quarter of π in three parts, so that little precision is lost; there a short
polynomial gives the sine or the cosine. The steps are fixed, so every machine gives the same
double.
-/

namespace BlitReel.Sine

/-- The value at `x` of the polynomial with these coefficients, highest power first. -/
def horner (coefficients : List Float) (x : Float) : Float :=
  match coefficients with
  | [] => 0
  | c :: cs => cs.foldl (fun acc d => acc * x + d) c

/-- Coefficients of the sine, less its first term, in the square of the argument. -/
def sineTerms : List Float := [
  1.58962301576546568060e-10, -2.50507477628578072866e-8, 2.75573136213857245213e-6,
  -1.98412698295895385996e-4, 8.33333333332211858878e-3, -1.66666666666666307295e-1]

/-- Coefficients of the cosine, less its first two terms, in the square of the argument. -/
def cosineTerms : List Float := [
  -1.13585365213876817300e-11, 2.08757008419747316778e-9, -2.75573141792967388112e-7,
  2.48015872888517045348e-5, -1.38888888888730564116e-3, 4.16666666666665929218e-2]

/-- Four over π. -/
def fourOverPi : Float := 1.27323954473516268615

/-- The sine of an argument that is not negative and at most a few million. -/
def sine (x : Float) : Float :=
  let quarter := (x * fourOverPi).toUInt64
  -- octants of odd number are reached from the next even one
  let quarter := if quarter % 2 == 1 then quarter + 1 else quarter
  let y := quarter.toFloat
  let z := ((x - y * 7.85398125648498535156e-1) - y * 3.77489470793079817668e-8) - y * 2.69515142907905952645e-15
  let octant := quarter % 8
  let reflected := octant > 3
  let octant := if reflected then octant - 4 else octant
  let zz := z * z
  let value :=
    if octant == 1 || octant == 2 then 1.0 - 0.5 * zz + zz * zz * horner cosineTerms zz
    else z + z * zz * horner sineTerms zz
  if reflected then -value else value

end BlitReel.Sine
