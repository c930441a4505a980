import BlitReel.Geometry
import BlitReel.Number.Layout

/-!
# Decoder options

How the external decoder is told to read an input, scale it to the grid and emit raw pixels.
-/

namespace BlitReel

/-- What to decode and how. -/
structure DecoderOptions where
  /-- The program to run instead of one that is looked for. -/
  program : Octets := []
  /-- A path or URL; unused when the input comes from standard input. -/
  input : Octets := []
  fromStdin : Bool := false
  geometry : Geometry
  fps : Float
  start : Octets := []
  duration : Octets := []
  debug : Bool := false

namespace DecoderOptions

/-- The grid is valid, the rate positive and the input given. -/
def validate (o : DecoderOptions) : Except Failure Unit := do
  o.geometry.validate
  if !(o.fps > 0.0) then throw (Geometry.refusal "fps must be positive")
  if o.input.isEmpty && !o.fromStdin then throw (Geometry.refusal "input must be specified")

/-- The scaling and rate filter. -/
def filterText (o : DecoderOptions) : Octets :=
  Octets.ofString
    s!"scale={o.geometry.width.toInt}:{o.geometry.height.toInt}:flags=lanczos,fps="
    ++ Octets.ofString (NumberLayout.writePlain o.fps)

/-- The arguments of the decoder. -/
def arguments (o : DecoderOptions) : List Octets :=
  let word := Octets.ofString
  [word "-hide_banner", word "-loglevel", word "error"]
    ++ (if o.start.isEmpty then [] else [word "-ss", o.start])
    ++ [word "-i", if o.fromStdin then word "-" else o.input]
    ++ (if o.duration.isEmpty then [] else [word "-t", o.duration])
    ++ [word "-vf", o.filterText, word "-an", word "-vcodec", word "rawvideo", word "-pix_fmt", word "rgb24",
        word "-f", word "rawvideo", word "pipe:1"]

end DecoderOptions

end BlitReel
