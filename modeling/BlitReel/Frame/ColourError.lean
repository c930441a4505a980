import BlitReel.Frame.Basic
import BlitReel.Palette.Lab

/-!
# Mean colour error

How much colour a frame lost to the palette: the mean distance between each pixel and the palette
colour that stands for it.
-/

namespace BlitReel.Frame

/-- The colour that each digit stands for; the last entry of a digit counts, and a digit without
entry is black. -/
def labTable (p : Palette) : Array Lab :=
  let black := Lab.ofChannels 0 0 0
  p.foldl (fun table e => table.setIfInBounds e.digit.toNat (Lab.ofEntry e)) (Array.replicate 256 black)

/-- The octet at a place that may lie outside. -/
def octetAt (pix : ByteArray) (i : Int) : Except Collapse UInt8 :=
  if i < 0 then .error (.index i pix.size)
  else match pix[i.toNat]? with
    | some b => .ok b
    | none => .error (.index i pix.size)

/-- Add the distances of the cells of a row, the first of which is cell `cell` of the frame. -/
def rowError (pix : ByteArray) (table : Array Lab) : Octets → Int64 → Float → Except Collapse Float
  | [], _, total => .ok total
  | d :: rest, cell, total => do
    let offset := (cell * 3).toInt
    let r ← octetAt pix offset
    let g ← octetAt pix (cell * 3 + 1).toInt
    let b ← octetAt pix (cell * 3 + 2).toInt
    let stands := table.getD d.toNat (Lab.ofChannels 0 0 0)
    rowError pix table rest (cell + 1) (total + (Lab.ofPixel r g b).distance stands)

/-- Add the distances of the cells of rows, the first of which is row `y`. -/
def rowsError (pix : ByteArray) (table : Array Lab) (width : Int64) :
    List Octets → Int64 → Float → Except Collapse Float
  | [], _, total => .ok total
  | row :: rest, y, total => do
    let total ← rowError pix table row (y * width) total
    rowsError pix table width rest (y + 1) total

/-- The mean distance over the cells of a frame; zero when there is no frame or it has no cells. -/
def meanError (pix : Octets) (f? : Option Frame) (p : Palette) : Except Collapse Float :=
  match f? with
  | none => .ok 0.0
  | some f =>
    if f.width == 0 || f.height == 0 then .ok 0.0
    else do
      let total ← rowsError pix.toByteArray (labTable p) f.width f.rows 0 0.0
      return total / Float.ofInt (f.width * f.height).toInt

end BlitReel.Frame
