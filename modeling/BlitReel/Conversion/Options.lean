import BlitReel.Files.Path
import BlitReel.Manifest.Basic
import BlitReel.Palette.Basic
import BlitReel.Preview

/-!
# Options of a conversion (`ConvertOptions`)

Where the frames go, on which grid and at which rate, in which colours, and by how many workers.
-/

namespace BlitReel

/-- What a conversion is asked to do. -/
structure ConversionOptions where
  outputDir : Octets
  geometry : Geometry
  fps : Float
  slug : Octets := []
  /-- The colours; the standard ones when none are given. -/
  palette? : Option Palette := none
  /-- The greatest number of frames in the works; one for each processor when not positive. -/
  workers : Int64 := 0
  /-- Whether a preview of the first frame is drawn. -/
  preview : Bool := false
  /-- The side of a cell in the preview; eight when not positive. -/
  previewScale : Int64 := 0

namespace ConversionOptions

/-- The colours to use. -/
def palette (o : ConversionOptions) : Palette := o.palette?.getD Palette.standard

/-- The side of a cell in the preview. -/
def scale (o : ConversionOptions) : Int64 := if o.previewScale ≤ 0 then 8 else o.previewScale

/-- The greatest number of frames in the works. -/
def limit (o : ConversionOptions) (processors : Nat) : Nat :=
  if o.workers ≤ 0 then max processors 1 else o.workers.toInt.toNat

/-- The directory of the frames. -/
def framesDir (o : ConversionOptions) : Octets := Path.join [o.outputDir, Manifest.framesDir]

/-- The place of the file of a frame. -/
def framePath (o : ConversionOptions) (index : Int64) : Octets :=
  Path.join [o.framesDir, Frame.fileName index]

/-- The place of the manifest. -/
def manifestPath (o : ConversionOptions) : Octets := Path.join [o.outputDir, Manifest.fileName]

/-- The place of the preview. -/
def previewPath (o : ConversionOptions) : Octets := Path.join [o.outputDir, Preview.fileName]

/-- A place is given, the grid is valid, the rate positive and finite, and the palette sound. -/
def validate (o : ConversionOptions) : Except Failure Unit := do
  if o.outputDir.isEmpty then throw (Geometry.refusal "output directory must be specified")
  o.geometry.validate
  if !(o.fps > 0.0) || Binary64.isInfinite o.fps then
    throw (Geometry.refusal "fps must be a positive finite number")
  o.palette.check.mapError fun f => Geometry.refusal f.message

end ConversionOptions

end BlitReel
