import BlitReel.Geometry
import BlitReel.Number.Sine
import BlitReel.Picture.Sample
import BlitReel.Timestamp

/-!
# Bringing a picture to a size

A picture is brought to another size with the Lanczos kernel of three lobes, first along the rows
and then along the columns, in single precision. `Picture.toRgb` is the result as raw pixels;
transparent places come out black.
-/

namespace BlitReel

namespace Lanczos

/-- The lobes of the kernel on either side. -/
def support : Float32 := 3

/-- `sin (π x) / (π x)`, computed in double precision. -/
def sinc (x : Float32) : Float32 :=
  if x == 0 then 1
  else
    let t := 3.14159265358979323846 * x.toFloat
    (Sine.sine t / t).toFloat32

/-- The weight of a source pixel at a distance. -/
def kernel (x : Float32) : Float32 :=
  let x := if x < 0 then -x else x
  if x < support then sinc x * sinc (x / support) else 0

/-- The source pixels that make up a pixel of the result, with weights that sum to one. -/
abbrev Blend := List (Nat × Float32)

/-- The blend for the pixel `i` of a line that shrinks or grows from `source` to `target` pixels. -/
def blend (source target i : Nat) : Blend :=
  let delta : Float32 := .ofNat source / .ofNat target
  let scale := if delta < 1 then 1 else delta
  let radius := (scale * support).ceil
  let center := (.ofNat i + 0.5) * delta - 0.5
  let left := ((Binary64.truncate? (center - radius).ceil.toFloat).getD 0).toNat
  let right := min ((Binary64.truncate? (center + radius).floor.toFloat).getD 0) ((source : Int) - 1)
  let count := (right + 1 - (left : Int)).toNat
  let raw := (List.range count).filterMap fun k =>
    let j := left + k
    let w := kernel ((.ofNat j - center) / scale)
    if w == 0 then none else some (j, w)
  let sum := raw.foldl (fun s (_, w) => s + w) 0
  raw.map fun (j, w) => (j, w / sum)

/-- The blends of a whole line. -/
def blends (source target : Nat) : Array Blend :=
  Array.ofFn fun i : Fin target => blend source target i.val

/-- The shade of a blend of a line. Shades count by their opacity. -/
def mix (line : Nat → Shade) (b : Blend) : Shade :=
  let s := b.foldl (fun (s : Shade) (j, w) =>
    let c := line j
    let wa := c.a * w
    ⟨s.r + c.r * wa, s.g + c.g * wa, s.b + c.b * wa, s.a + wa⟩) ⟨0, 0, 0, 0⟩
  if s.a != 0 then ⟨s.r / s.a, s.g / s.a, s.b / s.a, s.a⟩ else s

/-- The shade in a column and row; nothing beyond the edges. -/
def shadeAt (g : Grid Shade) (x y : Nat) : Shade := (g.get? x y).getD ⟨0, 0, 0, 0⟩

/-- Bring every row to a width. -/
def horizontal (g : Grid Shade) (width : Nat) : Grid Shade :=
  let bs := blends g.width width
  Grid.ofFn width g.height fun x y => mix (fun j => shadeAt g j y) (bs.getD x [])

/-- Bring every column to a height. -/
def vertical (g : Grid Shade) (height : Nat) : Grid Shade :=
  let bs := blends g.height height
  Grid.ofFn g.width height fun x y => mix (fun j => shadeAt g x j) (bs.getD y [])

/-- A shade as it survives being stored in sixteen bits to a channel. -/
def stored (s : Shade) : Shade :=
  let channel (v : Float32) : UInt16 := (v * 65535 + 0.5).toUInt16
  (Sample.straight16 (channel s.r) (channel s.g) (channel s.b) (channel s.a)).shade

/-- Bring a picture to a size. A direction whose size stays is left alone; between the two
directions the picture is stored once. -/
def resize (g : Grid Shade) (width height : Nat) : Grid Shade :=
  if g.width == width && g.height == height then g
  else if g.width == width then vertical g height
  else if g.height == height then horizontal g width
  else vertical ((horizontal g width).map stored) height

end Lanczos

namespace Shade

/-- A shade on black. -/
def onBlack (s : Shade) : Rgb :=
  let fa := s.a * 255
  let channel (c : Float32) : UInt8 := (c * fa + 0.5).toUInt8
  ⟨channel s.r, channel s.g, channel s.b⟩

end Shade

/-- The octets of a colour. -/
def Rgb.octets (c : Rgb) : Octets := [c.r, c.g, c.b]

/-- Colours as raw pixels, row by row. -/
def Grid.pixels (g : Grid Rgb) : Octets :=
  (List.range g.height).flatMap fun y => (g.row y).toList.flatMap Rgb.octets

namespace Picture

/-- The greatest number of octets of an image in memory. -/
def maxImage : Int := 0x7fffffffffffffff

/-- The greatest number of octets of a row of an image, as far as they are counted. -/
def maxRow : Int := 0xffffffffffffffff

/-- The length of a side, which may lie on either side of the corner. It is counted in words as well, so that the
least word, which has no opposite, keeps its sign. -/
def extent (side : Int64) : Int64 := if side < 0 then -side else side

/-- An image of this size cannot be had when a side has no length, when the octets of a row or of the whole image
cannot be counted, or when they are more than can be allocated. -/
def checkSize (width height : Int64) : Except Collapse Unit :=
  let row := 4 * (extent width).toInt
  let octets := row * (extent height).toInt
  if extent width < 0 ∨ extent height < 0 ∨ row > maxRow ∨ octets > maxImage then
    .error (.words "image: NewRGBA Rectangle has huge or negative dimensions")
  else if octets > maxAllocation then .error .length
  else .ok ()

/-- A picture brought to a size, on black. An empty picture gives a black one. -/
def drawn (p : Picture) (width height : Nat) : Grid Rgb :=
  if p.width == 0 || p.height == 0 then Grid.ofFn width height fun _ _ => Rgb.black
  else (Lanczos.resize (p.map Sample.shade) width height).map Shade.onBlack

/-- The pixels of a picture brought to the size of a grid. -/
def toRgb (p : Picture) (g : Geometry) : Except Collapse Octets := do
  checkSize g.width g.height
  if g.frameSize < 0 then throw .capacity
  if g.width ≤ 0 || g.height ≤ 0 then return []
  return (p.drawn g.width.toInt.toNat g.height.toInt.toNat).pixels

end Picture

end BlitReel
