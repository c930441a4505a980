import BlitReel.Failure

/-!
# Grid geometry

The size of the character grid that frames are encoded to. Sizes are 64-bit words and their
products wrap; `Geometry.check` bounds the number of cells so that no product of a checked geometry
does.
-/

namespace BlitReel

/-- The size of a grid in cells. -/
structure Geometry where
  width : Int64
  height : Int64
  deriving DecidableEq, Inhabited

namespace Geometry

/-- The greatest number of cells. -/
def maxCells : Int64 := 16777216

/-- The octets of a raw frame, three to a cell, as a wrapping product. -/
def frameSize (g : Geometry) : Int64 := g.width * g.height * 3

/-- What is wrong with a size. -/
inductive Fault where
  | width (w : Int64)
  | height (h : Int64)
  | cells (w h : Int64)
  deriving DecidableEq

/-- The wording of a fault. -/
def Fault.reason : Fault → String
  | .width w => s!"width must be positive, got {w.toInt}"
  | .height h => s!"height must be positive, got {h.toInt}"
  | .cells w h => s!"{w.toInt}x{h.toInt} grid exceeds {maxCells.toInt} cells"

/-- Both sizes are positive and the grid has at most `maxCells` cells. -/
def check (g : Geometry) : Except Fault Unit :=
  if g.width ≤ 0 then .error (.width g.width)
  else if g.height ≤ 0 then .error (.height g.height)
  else if g.width > maxCells / g.height then .error (.cells g.width g.height)
  else .ok ()

/-- Options of a conversion that are refused for a reason. -/
def refusal (reason : String) : Failure := ⟨.invalidOptions, "nfp: invalid options: " ++ reason⟩

/-- `check` as a check of conversion options. -/
def validate (g : Geometry) : Except Failure Unit :=
  g.check.mapError fun f => refusal f.reason

end Geometry

end BlitReel
