import BlitReel.Palette.Basic
import BlitReel.Picture.Grid

/-!
# Pictures

A picture is a grid of samples as its file stores them: eight or sixteen bits to a channel, grey or
coloured, the colour already scaled by the opacity or not, or in yet another way, of which only the meaning
is kept. `Sample.shade` is what a sample means.
-/

namespace BlitReel

/-- A colour without opacity. -/
structure Rgb where
  r : UInt8
  g : UInt8
  b : UInt8
  deriving DecidableEq, Inhabited

/-- No light at all. -/
def Rgb.black : Rgb := ⟨0, 0, 0⟩

/-- A colour and its opacity, as a canvas holds them. -/
structure Pixel where
  colour : Rgb
  opacity : UInt8
  deriving DecidableEq, Inhabited

/-- A colour that covers what is below it. -/
def Pixel.solid (c : Rgb) : Pixel := ⟨c, 255⟩

/-- A colour and an opacity, each between zero and one. The colour is not scaled by the opacity. -/
structure Shade where
  r : Float32
  g : Float32
  b : Float32
  a : Float32
  deriving DecidableEq, Inhabited

/-- A pixel as it is stored. In `scaled` and `scaled16` the channels are already scaled by the
opacity `a`. A pixel that is stored in brightness and hue, say, is known by its shade. -/
inductive Sample where
  | scaled (r g b a : UInt8)
  | straight (r g b a : UInt8)
  | grey (v : UInt8)
  | scaled16 (r g b a : UInt16)
  | straight16 (r g b a : UInt16)
  | grey16 (v : UInt16)
  | shaded (s : Shade)
  deriving DecidableEq, Inhabited

namespace Sample

/-- One step of an eight-bit channel. -/
def step8 : Float32 := 1.0 / 255.0

/-- One step of a sixteen-bit channel. -/
def step16 : Float32 := 1.0 / 65535.0

/-- The shade of channels that are scaled by the opacity `a`, whose greatest value is `full`. -/
def unscale (step : Float32) (full r g b a : Nat) : Shade :=
  if a == full then ⟨.ofNat r * step, .ofNat g * step, .ofNat b * step, 1⟩
  else if a == 0 then ⟨0, 0, 0, 0⟩
  else
    let q : Float32 := 1 / .ofNat a
    ⟨.ofNat r * q, .ofNat g * q, .ofNat b * q, .ofNat a * step⟩

/-- What a sample means. -/
def shade : Sample → Shade
  | .scaled r g b a => unscale step8 255 r.toNat g.toNat b.toNat a.toNat
  | .straight r g b a =>
    ⟨.ofNat r.toNat * step8, .ofNat g.toNat * step8, .ofNat b.toNat * step8, .ofNat a.toNat * step8⟩
  | .grey v =>
    let c := .ofNat v.toNat * step8
    ⟨c, c, c, 1⟩
  | .scaled16 r g b a => unscale step16 65535 r.toNat g.toNat b.toNat a.toNat
  | .straight16 r g b a =>
    ⟨.ofNat r.toNat * step16, .ofNat g.toNat * step16, .ofNat b.toNat * step16, .ofNat a.toNat * step16⟩
  | .grey16 v =>
    let c := .ofNat v.toNat * step16
    ⟨c, c, c, 1⟩
  | .shaded s => s

/-- The sample of a palette colour with an opacity. -/
def indexed (r g b a : UInt8) : Sample :=
  let channel (v : UInt8) : UInt16 := UInt16.ofNat (v.toNat * 257 * a.toNat / 255)
  .scaled16 (channel r) (channel g) (channel b) (UInt16.ofNat (a.toNat * 257))

end Sample

/-- A decoded picture. -/
abbrev Picture := Grid Sample

namespace Picture

/-- The picture of the given size whose pixels are indices into a palette, row by row. An index that
is missing or stands for nothing gives a transparent pixel. -/
def ofIndices (p : Palette) (width height : Nat) (indices : Octets) : Picture :=
  let indices := indices.toArray
  let colours := p.toArray
  Grid.ofFn width height fun x y =>
    match indices[y * width + x]?.bind fun i => colours[i.toNat]? with
    | some e => Sample.indexed e.red e.green e.blue 255
    | none => .scaled 0 0 0 0

/-- What a broken picture file is called in messages. -/
def malformed : String := "malformed picture"

end Picture

end BlitReel
