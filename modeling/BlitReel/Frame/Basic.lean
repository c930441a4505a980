import BlitReel.Geometry
import BlitReel.Palette.Basic

/-!
# Frames

A raw frame is a numbered block of pixels, three octets each, row by row. A frame is its encoding:
one palette digit for each cell. Its text is a header line with width and height and then the rows,
separated by line feeds, without one at the end.
-/

namespace BlitReel

/-- A numbered block of pixels. -/
structure RawFrame where
  index : Int64
  pix : Octets
  deriving DecidableEq, Inhabited

/-- A grid of digits. -/
structure Frame where
  width : Int64
  height : Int64
  rows : List Octets
  deriving DecidableEq, Inhabited

namespace Frame

/-- A whole number with a sign and at least `width` characters, filled with zeros after the sign. -/
def padded (width : Nat) (n : Int) : String :=
  let ds := toString n.natAbs
  let sign := if n < 0 then "-" else ""
  sign ++ String.ofList (List.replicate (width - sign.length - ds.length) '0') ++ ds

/-- The name of the file of a frame. -/
def fileName (index : Int64) : Octets := Octets.ofString ("frame_" ++ padded 4 index.toInt ++ ".nfp")

/-- The header line. -/
def header (f : Frame) : Octets :=
  Octets.ofInt f.width.toInt ++ 0x20 :: Octets.ofInt f.height.toInt ++ [0x0A]

/-- The text of a frame. -/
def text (f : Frame) : Octets := f.header ++ (f.rows.intersperse [0x0A]).flatten

/-- Why a raw frame cannot be encoded. -/
inductive EncodeFault where
  | size (index : Int64) (length : Nat) (want : Int64)
  | collapse (c : Collapse)
  deriving DecidableEq

/-- The failure that a fault amounts to. -/
def EncodeFault.toFailure : EncodeFault → Failure
  | .size index length want =>
    .plain s!"nfp: EncodeFrame: frame {index.toInt} has {length} bytes, want {want.toInt}"
  | .collapse c => c.toFailure

/-- Cut a sequence into `n` pieces of the same size. -/
def pieces {α : Type} (size : Nat) : Nat → List α → List (List α) → List (List α)
  | 0, _, done => done.reverse
  | n + 1, xs, done => pieces size n (xs.drop size) (xs.take size :: done)

/-- The rows of digits for `pix`, which holds `width * height` pixels. -/
def encodeRows (p : Palette) (width height : Nat) (pix : Octets) : Except Collapse (List Octets) :=
  (p.digits pix).map fun ds => pieces width height ds []

/-- Octets of a row header: a sequence of rows takes that many for each row. -/
def rowHeaderSize : Int := 24

/-- Encode a raw frame: each cell gets the digit of the palette entry nearest to its pixel. -/
def encode (raw : RawFrame) (g : Geometry) (p : Palette) : Except EncodeFault Frame :=
  let w := g.width.toInt
  let h := g.height.toInt
  if (raw.pix.length : Int) ≠ g.frameSize.toInt then
    .error (.size raw.index raw.pix.length g.frameSize)
  else if h < 0 ∨ h * rowHeaderSize > maxAllocation then .error (.collapse .length)
  else if h > 0 ∧ (w < 0 ∨ w > maxAllocation) then .error (.collapse .length)
  else if h > 0 ∧ w * h * 3 ≠ raw.pix.length then
    .error (.collapse (.index raw.pix.length raw.pix.length))
  else match encodeRows p w.toNat h.toNat raw.pix with
    | .ok rows => .ok ⟨g.width, g.height, rows⟩
    | .error c => .error (.collapse c)

end Frame

end BlitReel
