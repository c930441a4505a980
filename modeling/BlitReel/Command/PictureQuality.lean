import BlitReel.Conversion.Basic
import BlitReel.Input.Name
import BlitReel.Input.Still

/-!
# The quality of a picture on the grid

A picture is encoded with the standard colours, and its frame and a drawing of it are written to an
output directory. The quality is the mean colour error.
-/

namespace BlitReel.Quality

/-- Encode the picture at a path into a directory: the tree afterwards and the mean colour error. -/
def convert (t : FileTree) (path outDir : Octets) (g : Geometry) (scale : Int64) (codecs : Picture.Codecs := {}) :
    FileTree × Except Failure Float :=
  let encoded : Except Failure (Octets × Frame) := do
    let p ← Picture.load t path codecs
    let pix ← (p.toRgb g).mapError Collapse.toFailure
    let f ← (Frame.encode ⟨1, pix⟩ g Palette.standard).mapError Frame.EncodeFault.toFailure
    return (pix, f)
  match encoded with
  | .error f => (t, .error f)
  | .ok (pix, f) =>
    let base := Path.base path
    let stem := if Octets.endsWith base (Path.extension path) then base.take (base.length - (Path.extension path).length) else base
    let framePath := Path.join [outDir, stem ++ Octets.ofString ".nfp"]
    let drawingPath := Path.join [outDir, stem ++ Octets.ofString ".png"]
    match t.put framePath f.text with
    | .error r => (t, .error (r.on "open" framePath))
    | .ok t =>
      match Conversion.writePreview t drawingPath f Palette.standard scale with
      | .error c => (t, .error c.toFailure)
      | .ok (t, .error e) => (t, .error e)
      | .ok (t, .ok ()) =>
        (t, (Frame.meanError pix (some f) Palette.standard).mapError Collapse.toFailure)

end BlitReel.Quality
