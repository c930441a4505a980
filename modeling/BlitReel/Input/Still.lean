import BlitReel.Conversion.Source
import BlitReel.Files.FileTree
import BlitReel.Picture.File
import BlitReel.Picture.Resample

/-!
# Still pictures as inputs

A still picture is brought to the size of the grid and delivered as one raw frame.
-/

namespace BlitReel

namespace Picture

/-- The picture in the file at a path. A directory opens, but reads as no picture. -/
def load (t : FileTree) (path : Octets) (codecs : Codecs := {}) : Except Failure Picture :=
  match t.stat path with
  | .error r => .error (r.on "open" path)
  | .ok .directory => decode [] codecs
  | .ok (.file content _) => decode content codecs

end Picture

namespace Input

/-- The raw frame of a still picture (`ImageToRGB`). -/
def stillPixels (t : FileTree) (path : Octets) (g : Geometry) (codecs : Picture.Codecs := {}) :
    Except Failure Octets := do
  g.validate
  let p ← match t.stat path with
    | .error r => throw (r.on "open" path)
    | .ok _ => (Picture.load t path codecs).mapError (·.within ("nfp: OpenStill: decode " ++ Utf8.text path))
  (p.toRgb g).mapError Collapse.toFailure

/-- The source of a still picture (`OpenStill`). -/
def openStill (t : FileTree) (path : Octets) (g : Geometry) (codecs : Picture.Codecs := {}) : Except Failure Source :=
  (stillPixels t path g codecs).map Source.ofOctets

end Input

end BlitReel
