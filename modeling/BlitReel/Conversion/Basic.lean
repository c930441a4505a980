import BlitReel.Conversion.Run
import BlitReel.Manifest.Storage
import BlitReel.Picture.Png
import BlitReel.Preview

/-!
# Conversions (`Convert`)

A conversion makes the directory of the frames, lets reader and workers run, and then concludes: it
waits for the producer, notes what was left over at the end, draws the preview and writes the
manifest. `Conversion.begin` is `Convert` up to its read loop and `Conversion.conclude` what follows
the loop; what happens between them is any sequence of moves of the run. `convertAlong` is told the
moves, and `convert` takes them in the usual order.
-/

namespace BlitReel

/-- What a conversion finds around it. -/
structure Conditions where
  /-- How many processors there are. -/
  processors : Nat := 1
  /-- The part that makes the name of a temporary file unique. -/
  unique : Octets := []
  unique_plain : Path.slash ∉ unique := by decide
  /-- Which directories the system refuses to make. -/
  refuseDirectory : Octets → Option Failure := fun _ => none
  /-- Whether the system refuses to write the preview. -/
  previewFault? : Option WriteFault := none
  /-- What the system refuses when the manifest is written. -/
  refuse : Manifest.Refusals := Manifest.willing

namespace Conversion

/-- What a conversion made. -/
structure Result where
  manifest : Manifest
  manifestPath : Octets
  /-- The octets at the end that were too few for a frame. -/
  truncated : Nat
  /-- The mean colour error of all frames. -/
  meanError : Float

/-- How a conversion went. -/
structure Outcome where
  tree : FileTree
  result : Except Failure Result
  progress : List Progress := []
  journal : Journal := []
  /-- Whether the source was told to stop. -/
  closed : Bool := false

/-- The run of a conversion whose directory of frames is made. -/
def start (c : Conditions) (tree : FileTree) (s : Source) (o : ConversionOptions) (a : Assembler) : Run :=
  let r : Run := {
    options := o
    limit := o.limit c.processors
    tree
    assembler := a
    builder := { geometry := o.geometry, fps := o.fps, slug := o.slug }
    deliveries := s.deliveries }
  r.note .debug "Reading %dx%d frames of %d bytes"
    [.int o.geometry.width, .int o.geometry.height, .int o.geometry.frameSize]

/-- Check the options, make the directory of the frames (`MkdirAll`) and get ready to read. -/
def begin (c : Conditions) (t : FileTree) (s : Source) (o : ConversionOptions) : FileTree × Except Failure Run :=
  match o.validate with
  | .error f => (t, .error f)
  | .ok () =>
    let (tree, made) := t.makeAll o.framesDir c.refuseDirectory
    match made, Assembler.new o.geometry.frameSize with
    | .error f, _ => (tree, .error (f.within "nfp: Convert"))
    | .ok (), .error c => (tree, .error c.toFailure)
    | .ok (), .ok a => (tree, .ok (start c tree s o a))

/-- The file of a preview, if it can be drawn at all; a size of zero has no file format. -/
def previewFile (g : Grid Pixel) : Except Failure Octets :=
  if g.width == 0 || g.height == 0 || g.width ≥ 0x100000000 || g.height ≥ 0x100000000 then
    .error (.plain s!"png: invalid format: invalid image size: {g.width}x{g.height}")
  else .ok (Png.encode (g.map Pixel.colour))

/-- Write a file that is created before its content is known; without content it stays empty. -/
def writeDrawing (t : FileTree) (path : Octets) (content : Except Failure Octets) (fault? : Option WriteFault)
    (links : Links := {}) : FileTree × Except Failure Unit :=
  let (tree, written) := t.write path (content.toOption.getD []) fault? links
  (tree, do written; discard content)

/-- Draw a preview and write it (`WritePreview`). -/
def writePreview (t : FileTree) (path : Octets) (f : Frame) (p : Palette) (scale : Int64)
    (fault? : Option WriteFault := none) (links : Links := {}) : Except Collapse (FileTree × Except Failure Unit) := do
  let g ← Preview.render f p scale
  return writeDrawing t path (previewFile g) fault? links

/-- Draw the preview of the first frame when one is wanted. A preview that cannot be written is only
noted. -/
def addPreview (c : Conditions) (r : Run) (links : Links := {}) : Except Collapse Run :=
  match r.options.preview, r.first? with
  | true, some f => do
    match ← writePreview r.tree r.options.previewPath f r.options.palette r.options.scale c.previewFault? links with
    | (tree, .ok ()) => return { r with tree }
    | (tree, .error e) =>
      return { r with tree }.note .warn "Failed to write preview: %s" [.text e.message]
  | _, _ => .ok r

/-- Write the manifest (`WriteManifest`). -/
def addManifest (c : Conditions) (r : Run) (truncated : Nat) : Outcome :=
  let o := r.options
  let m := r.builder.build
  let s := Manifest.store c.refuse c.unique r.tree o.outputDir m
  let r := { r with tree := s.final r.tree }
  match s.outcome with
  | .error f => { tree := r.tree, result := .error f, progress := r.progress, journal := r.journal }
  | .ok () =>
    let r := r.note .info "Converted %d frames (%dx%d at %g fps)"
      [.int m.frameCount, .int o.geometry.width, .int o.geometry.height, .float o.fps]
    { tree := r.tree, progress := r.progress, journal := r.journal
      result := .ok {
        manifest := m, manifestPath := o.manifestPath, truncated
        meanError := r.errorSum / Float.ofNat r.written } }

/-- End a run with a failure. -/
def failed (r : Run) (f : Failure) (closed : Bool) : Outcome :=
  { tree := r.tree, result := .error f, progress := r.progress, journal := r.journal, closed }

/-- Note what was left over at the end of the source, which `Assembler.Close` tells. -/
def noteTail (r : Run) : Option Assembler.TruncatedTail → Run
  | some t => r.note .warn "Trailing bytes ignored; likely partial frame at end (%d of %d bytes)"
      [.int (Int64.ofNat t.residual), .int (Int64.ofNat t.frameSize)]
  | none => r

/-- End a run that has read and written everything. -/
def finish (c : Conditions) (r : Run) (links : Links := {}) : Outcome :=
  let (tail?, assembler) := r.assembler.close
  let r := noteTail { r with assembler } tail?
  if r.builder.size == 0 then failed r ⟨.noFrames, "nfp: no frames produced"⟩ false
  else match addPreview c r links with
    | .error c => failed r c.toFailure false
    | .ok r => addManifest c r ((tail?.map (·.residual)).getD 0)

/-- End a run that has settled. -/
def conclude (c : Conditions) (exit : Except Failure Unit) (r : Run) (links : Links := {}) : Outcome :=
  if r.cancelled then failed r .cancelled true
  else match r.writeFailure?, r.readFailure?, exit with
    | some f, _, _ => failed r f true
    | none, some f, _ => failed r f true
    | none, none, .error f =>
      failed (r.note .error "Decoder failed after %d frames: %s"
        [.int (Int64.ofNat r.builder.size), .text f.message]) f false
    | none, none, .ok () => finish c r links

/-- Convert a source while reader and workers make the given moves, on a disk where files may have several
names. -/
def convertAlong (c : Conditions) (t : FileTree) (s : Source) (o : ConversionOptions) (moves : List Run.Move)
    (links : Links := {}) : Outcome :=
  match begin c t s o with
  | (tree, .error f) => { tree, result := .error f }
  | (_, .ok r) => conclude c s.exit (r.steps moves links) links

/-- Whether the given moves bring a conversion to its end. -/
def finishes (c : Conditions) (t : FileTree) (s : Source) (o : ConversionOptions) (moves : List Run.Move) : Bool :=
  match begin c t s o with
  | (_, .error _) => true
  | (_, .ok r) => (r.steps moves).settled

/-- Convert a source. `cancelled` says that the run was called off before it began. -/
def convert (c : Conditions) (t : FileTree) (s : Source) (o : ConversionOptions) (cancelled : Bool := false) : Outcome :=
  match begin c t s o with
  | (tree, .error f) => { tree, result := .error f }
  | (_, .ok r) => conclude c s.exit { r with cancelled }.complete

end Conversion

end BlitReel
