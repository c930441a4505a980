import BlitReel.Frame.Basic
import BlitReel.Picture.Resample

/-!
# Previews

A preview shows a frame with a square of pixels for each cell. Cells whose digit is not in the
palette, and places without a cell, are black.
-/

namespace BlitReel

namespace Preview

/-- The name of the preview in an output directory. -/
def fileName : Octets := Octets.ofString "preview.png"

/-- Where the square of the cell in the first column and row has its corner, and the side of squares. -/
structure Lattice where
  left : Nat
  top : Nat
  side : Nat

/-- Paint the square of a cell, if its digit has a colour. -/
def paintCell (p : Palette) (l : Lattice) (x y : Nat) (digit : UInt8) (g : Grid Pixel) : Grid Pixel :=
  match p.lookup? digit with
  | some e => g.fillRect (l.left + x * l.side) (l.top + y * l.side) l.side l.side (.solid ⟨e.red, e.green, e.blue⟩)
  | none => g

/-- Paint the cells of row `y` from column `x` on. -/
def paintRow (p : Palette) (l : Lattice) (y : Nat) : Nat → Octets → Grid Pixel → Grid Pixel
  | _, [], g => g
  | x, digit :: row, g => paintRow p l y (x + 1) row (paintCell p l x y digit g)

/-- Paint the rows from row `y` on. -/
def paintRows (p : Palette) (l : Lattice) : Nat → List Octets → Grid Pixel → Grid Pixel
  | _, [], g => g
  | y, row :: rows, g => paintRows p l (y + 1) rows (paintRow p l y 0 row g)

/-- The octets for each row in the index of the rows of a canvas. -/
def rowIndexSize : Int := 8

/-- A canvas cannot be painted on when the index of its rows cannot be allocated. -/
def checkRows (height : Int64) : Except Collapse Unit :=
  if rowIndexSize * (Picture.extent height).toInt > maxAllocation then .error .length else .ok ()

/-- Draw a frame with `scale` pixels, at least one, to a side of a cell: on a black canvas the cells are
painted one after the other. A canvas of negative size lies on the other side of the corner where the
cells begin. -/
def render (f : Frame) (p : Palette) (scale : Int64) : Except Collapse (Grid Pixel) := do
  let scale := if scale < 1 then 1 else scale
  Picture.checkSize (f.width * scale) (f.height * scale)
  checkRows (f.height * scale)
  let width := (f.width * scale).toInt
  let height := (f.height * scale).toInt
  let canvas := Grid.ofFn width.natAbs height.natAbs fun _ _ => Pixel.solid .black
  return paintRows p ⟨(-width).toNat, (-height).toNat, scale.toInt.toNat⟩ 0 f.rows canvas

end Preview

end BlitReel
