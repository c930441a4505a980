import BlitReel.Palette.Basic

/-!
# Colour difference

How far two colours are apart to the eye: the Euclidean distance in the Lab space of CIE 1976,
under the D65 white and with all coordinates divided by one hundred.
-/

namespace BlitReel

/-- A colour in the Lab space. -/
structure Lab where
  l : Float
  a : Float
  b : Float

namespace Lab

/-- The linear intensity of a channel between 0 and 1. -/
def linear (v : Float) : Float :=
  if v ≤ 0.04045 then v / 12.92 else Float.pow ((v + 0.055) / 1.055) 2.4

/-- The lightness function. -/
def curve (t : Float) : Float :=
  if t > 6.0 / 29.0 * 6.0 / 29.0 * 6.0 / 29.0 then Float.cbrt t
  else t / 3.0 * 29.0 / 6.0 * 29.0 / 6.0 + 4.0 / 29.0

/-- The Lab colour of channels between 0 and 1. -/
def ofChannels (red green blue : Float) : Lab :=
  let r := linear red
  let g := linear green
  let b := linear blue
  let x := 0.41239079926595948 * r + 0.35758433938387796 * g + 0.18048078840183429 * b
  let y := 0.21263900587151036 * r + 0.71516867876775593 * g + 0.072192315360733715 * b
  let z := 0.019330818715591851 * r + 0.11919477979462599 * g + 0.95053215224966058 * b
  let fx := curve (x / 0.95047)
  let fy := curve y
  let fz := curve (z / 1.08883)
  ⟨1.16 * fy - 0.16, 5.0 * (fx - fy), 2.0 * (fy - fz)⟩

/-- The Lab colour of a pixel. -/
def ofPixel (r g b : UInt8) : Lab :=
  ofChannels (r.toFloat / 255.0) (g.toFloat / 255.0) (b.toFloat / 255.0)

/-- A palette channel, which is widened to sixteen bits first. -/
def wideChannel (v : UInt8) : Float := Float.ofNat (v.toNat * 257) / 65535.0

/-- The Lab colour of a palette entry. -/
def ofEntry (e : PaletteEntry) : Lab :=
  ofChannels (wideChannel e.red) (wideChannel e.green) (wideChannel e.blue)

/-- The distance of two colours. -/
def distance (p q : Lab) : Float :=
  let dl := p.l - q.l
  let da := p.a - q.a
  let db := p.b - q.b
  Float.sqrt (dl * dl + da * da + db * db)

end Lab

end BlitReel
