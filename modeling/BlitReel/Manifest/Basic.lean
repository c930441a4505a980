import BlitReel.Frame.Basic
import BlitReel.Json.Fields
import BlitReel.Number.Layout

/-!
# Manifests

A manifest lists the frames of a conversion in order, with the grid and the rate they are to be
shown at. `Manifest.Builder` collects frame names while frames are written in any order.
-/

namespace BlitReel

/-- The description of a converted sequence. -/
structure Manifest where
  format : Octets := []
  width : Int64 := 0
  height : Int64 := 0
  fps : Float := 0
  frameCount : Int64 := 0
  slug : Octets := []
  framesBasePath : Octets := []
  frames : List Octets := []
  /-- Whether there is a list of frames at all; a document may lack one. -/
  listed : Bool := false

namespace Manifest

/-- The format of frames that a manifest lists. -/
def formatName : Octets := Octets.ofString "nfp-bg-rows-v1"

/-- The name of the manifest file. -/
def fileName : Octets := Octets.ofString "manifest.json"

/-- The directory of the frames beside the manifest. -/
def framesDir : Octets := Octets.ofString "frames"

/-- Frame names by index while a sequence is written. -/
structure Builder where
  geometry : Geometry
  fps : Float
  slug : Octets
  names : List (Int64 × Octets) := []

namespace Builder

/-- Record the name of a frame; a later name for the same index replaces an earlier one. -/
def set (b : Builder) (index : Int64) (name : Octets) : Builder :=
  { b with names := (index, name) :: b.names.filter (·.1 != index) }

/-- The number of frames recorded. -/
def size (b : Builder) : Nat := b.names.length

/-- The names in the order of their indices. -/
def ordered (b : Builder) : List Octets :=
  (b.names.mergeSort fun x y => x.1.toInt ≤ y.1.toInt).map (·.2)

/-- The manifest of the frames recorded. -/
def build (b : Builder) : Manifest where
  format := formatName
  width := b.geometry.width
  height := b.geometry.height
  fps := b.fps
  frameCount := Int64.ofNat b.size
  slug := b.slug
  framesBasePath := framesDir
  frames := b.ordered
  listed := true

end Builder

/-- A manifest as a document; a rate that is not finite has no spelling. -/
def toJson (m : Manifest) : Except Failure Json :=
  if !Binary64.isFinite m.fps then
    .error (.plain ("json: unsupported value: " ++ NumberLayout.message.write m.fps))
  else
    let str (s : Octets) : Json := .string (Utf8.text s)
    .ok (.object [
      ("format", str m.format),
      ("width", Json.ofInt m.width.toInt),
      ("height", Json.ofInt m.height.toInt),
      ("fps", .number (NumberLayout.document.write m.fps)),
      ("frameCount", Json.ofInt m.frameCount.toInt),
      ("slug", str m.slug),
      ("framesBasePath", str m.framesBasePath),
      ("frames", if m.listed then .array (m.frames.map str) else .null)])

/-- A manifest while it is read from a document. -/
structure Draft where
  manifest : Manifest := {}
  /-- Names behind the end of the list of frames, left there by an earlier and longer list. -/
  beyond : List Octets := []

/-- Fill the list of frames. A list goes over the names that are there already. -/
def Draft.setFrames (d : Draft) : Json → Option Draft
  | .array items =>
    let old := d.manifest.frames ++ d.beyond
    let (frames, sound) := Json.textsOver old items
    if sound then
      some ⟨{ d.manifest with frames, listed := true }, if items.isEmpty then [] else old.drop items.length⟩
    else none
  | .null => some ⟨{ d.manifest with frames := [], listed := false }, []⟩
  | _ => none

/-- Fill one field of a manifest from a member of a document. -/
def Draft.setField (d : Draft) (key : String) (v : Json) : Option Draft :=
  let m := d.manifest
  let keep (m : Manifest) : Draft := { d with manifest := m }
  if Json.namesField key "format" then (Json.textOver m.format v).map fun x => keep { m with format := x }
  else if Json.namesField key "width" then (Json.intOver m.width v).map fun x => keep { m with width := x }
  else if Json.namesField key "height" then (Json.intOver m.height v).map fun x => keep { m with height := x }
  else if Json.namesField key "fps" then (Json.floatOver m.fps v).map fun x => keep { m with fps := x }
  else if Json.namesField key "frameCount" then
    (Json.intOver m.frameCount v).map fun x => keep { m with frameCount := x }
  else if Json.namesField key "slug" then (Json.textOver m.slug v).map fun x => keep { m with slug := x }
  else if Json.namesField key "framesBasePath" then
    (Json.textOver m.framesBasePath v).map fun x => keep { m with framesBasePath := x }
  else if Json.namesField key "frames" then d.setFrames v
  else some d

/-- The manifest that a document describes, if every member fits. -/
def ofJson? (j : Json) : Option Manifest :=
  let f := Json.fill {} Draft.setField j
  if f.sound then some f.value.manifest else none

end Manifest

end BlitReel
