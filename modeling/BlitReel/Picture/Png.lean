import BlitReel.Picture.Inflate
import BlitReel.Picture.Sample

/-!
# PNG files

A file is a signature and a sequence of chunks, each with a checksum. The header gives size and
pixel format, a palette and a transparent colour may follow, and the pixel data is compressed, row
after row, each row written relative to its neighbours. `Png.decode` reads all pixel formats,
interlaced or not; `Png.encode` writes opaque pictures without compression.
-/

namespace BlitReel.Png

/-- The first octets of a file. -/
def signature : Octets := [0x89, 0x50, 0x4E, 0x47, 0x0D, 0x0A, 0x1A, 0x0A]

/-- A number of octets, most significant first. -/
def bigEndian (data : Array UInt8) (start count : Nat) : Nat :=
  (List.range count).foldl (fun n i => n * 256 + (data.getD (start + i) 0).toNat) 0

/-! ## The pixel format -/

/-- How pixels are coloured. -/
inductive ColourType where
  | grey
  | colour
  | indexed
  | greyAlpha
  | colourAlpha
  deriving DecidableEq

namespace ColourType

/-- The colour type with a number in the header. -/
def ofNumber? : Nat → Option ColourType
  | 0 => some .grey
  | 2 => some .colour
  | 3 => some .indexed
  | 4 => some .greyAlpha
  | 6 => some .colourAlpha
  | _ => none

/-- The bits of a channel that the type admits. -/
def depths : ColourType → List Nat
  | .grey => [1, 2, 4, 8, 16]
  | .indexed => [1, 2, 4, 8]
  | _ => [8, 16]

/-- The channels of a pixel. -/
def channels : ColourType → Nat
  | .grey | .indexed => 1
  | .greyAlpha => 2
  | .colour => 3
  | .colourAlpha => 4

end ColourType

/-- What the header and the chunks before the pixel data say. -/
structure Format where
  width : Nat
  height : Nat
  depth : Nat
  colourType : ColourType
  interlaced : Bool
  /-- The colours of the palette, three octets each. -/
  palette : Array UInt8 := #[]
  /-- The opacities of the palette, or the transparent colour. -/
  transparency? : Option (Array UInt8) := none

namespace Format

/-- The bits of a pixel. -/
def pixelBits (f : Format) : Nat := f.depth * f.colourType.channels

/-- The octets of a row of this many pixels. -/
def rowSize (f : Format) (width : Nat) : Nat := (f.pixelBits * width + 7) / 8

/-- The octets of a whole pixel, at least one. -/
def pixelSize (f : Format) : Nat := (f.pixelBits + 7) / 8

/-- The header chunk. -/
def ofHeader? (data : Array UInt8) : Option Format := do
  if data.size != 13 then none
  let width := bigEndian data 0 4
  let height := bigEndian data 4 4
  let depth := bigEndian data 8 1
  let colourType ← ColourType.ofNumber? (bigEndian data 9 1)
  let interlace := bigEndian data 12 1
  if bigEndian data 10 2 != 0 || interlace > 1 then none
  if width == 0 || height == 0 || width ≥ 0x80000000 || height ≥ 0x80000000 then none
  if width * height * 8 ≥ 0x8000000000000000 then none
  if !colourType.depths.contains depth then none
  return { width, height, depth, colourType, interlaced := interlace == 1 }

/-- The palette chunk. A coloured picture may have one too, without effect. -/
def withPalette? (f : Format) (data : Array UInt8) : Option Format :=
  let count := data.size / 3
  if data.size % 3 != 0 || count == 0 || count > 256 || count > 1 <<< f.depth then none
  else match f.colourType with
    | .indexed => some { f with palette := data }
    | .colour | .colourAlpha => some f
    | _ => none

/-- The transparency chunk. -/
def withTransparency? (f : Format) (data : Array UInt8) : Option Format :=
  let fits := match f.colourType with
    | .grey => data.size == 2
    | .colour => data.size == 6
    | .indexed => data.size ≤ 256
    | _ => false
  if fits then some { f with transparency? := some data } else none

/-- The colour of an index; one that the palette does not have is black. -/
def paletteSample (f : Format) (i : Nat) : Sample :=
  let alpha := match f.transparency? with
    | some t => t.getD i 255
    | none => 255
  let channel (k : Nat) : UInt8 := f.palette.getD (3 * i + k) 0
  if 3 * i + 2 < f.palette.size then Sample.indexed (channel 0) (channel 1) (channel 2) alpha
  else Sample.indexed 0 0 0 alpha

/-- The pixel in a column of a row. -/
def sampleAt (f : Format) (row : Array UInt8) (x : Nat) : Sample :=
  let narrow (k : Nat) : UInt8 := row.getD (x * f.pixelSize + k) 0
  let wide (k : Nat) : UInt16 := UInt16.ofNat (bigEndian row (x * f.pixelSize + 2 * k) 2)
  let clear8 (k : Nat) : Option UInt8 := f.transparency?.map fun t => t.getD (2 * k + 1) 0
  let clear16 (k : Nat) : Option UInt16 := f.transparency?.map fun t => UInt16.ofNat (bigEndian t (2 * k) 2)
  -- several pixels share an octet when they are narrower than one
  let packed : Nat :=
    let perOctet := 8 / max f.depth 1
    let shift := 8 - f.depth * (x % perOctet + 1)
    (row.getD (x / perOctet) 0).toNat >>> shift % (1 <<< f.depth)
  match f.colourType, f.depth with
  | .indexed, 8 => f.paletteSample (narrow 0).toNat
  | .indexed, _ => f.paletteSample packed
  | .grey, 16 =>
    let v := wide 0
    match clear16 0 with
    | some c => .straight16 v v v (if v == c then 0 else 0xFFFF)
    | none => .grey16 v
  | .grey, depth =>
    let scale := 255 / ((1 <<< depth) - 1)
    let v := if depth == 8 then narrow 0 else UInt8.ofNat (packed * scale)
    match clear8 0 with
    | some c => .straight v v v (if v == (UInt8.ofNat (c.toNat * scale)) then 0 else 0xFF)
    | none => .grey v
  | .greyAlpha, 16 => .straight16 (wide 0) (wide 0) (wide 0) (wide 1)
  | .greyAlpha, _ => .straight (narrow 0) (narrow 0) (narrow 0) (narrow 1)
  | .colour, 16 =>
    match clear16 0, clear16 1, clear16 2 with
    | some r, some g, some b =>
      .straight16 (wide 0) (wide 1) (wide 2) (if wide 0 == r && wide 1 == g && wide 2 == b then 0 else 0xFFFF)
    | _, _, _ => .scaled16 (wide 0) (wide 1) (wide 2) 0xFFFF
  | .colour, _ =>
    match clear8 0, clear8 1, clear8 2 with
    | some r, some g, some b =>
      .straight (narrow 0) (narrow 1) (narrow 2) (if narrow 0 == r && narrow 1 == g && narrow 2 == b then 0 else 0xFF)
    | _, _, _ => .scaled (narrow 0) (narrow 1) (narrow 2) 0xFF
  | .colourAlpha, 16 => .straight16 (wide 0) (wide 1) (wide 2) (wide 3)
  | .colourAlpha, _ => .straight (narrow 0) (narrow 1) (narrow 2) (narrow 3)

end Format

/-! ## Rows -/

/-- Of left, above and above left, the one nearest to `left + above - corner`. -/
def nearestNeighbour (left above corner : UInt8) : UInt8 :=
  let a : Int := left.toNat
  let b : Int := above.toNat
  let c : Int := corner.toNat
  let p := a + b - c
  let pa := (p - a).natAbs
  let pb := (p - b).natAbs
  let pc := (p - c).natAbs
  if pa ≤ pb && pa ≤ pc then left else if pb ≤ pc then above else corner

/-- Undo what a row was written relative to. `step` is the distance to the pixel on the left. -/
def restoreRow (kind : Nat) (step : Nat) (above row : Array UInt8) : Option (Array UInt8) :=
  let predict : Option (UInt8 → UInt8 → UInt8 → UInt8) := match kind with
    | 0 => some fun _ _ _ => 0
    | 1 => some fun left _ _ => left
    | 2 => some fun _ up _ => up
    | 3 => some fun left up _ => UInt8.ofNat ((left.toNat + up.toNat) / 2)
    | 4 => some nearestNeighbour
    | _ => none
  predict.map fun f =>
    row.foldl (fun (done : Array UInt8) b =>
      let i := done.size
      let left := if i < step then 0 else done.getD (i - step) 0
      let corner := if i < step then 0 else above.getD (i - step) 0
      done.push (b + f left (above.getD i 0) corner)) (Array.mkEmpty row.size)

/-- The rows of a rectangle, from a place in the data on; `done` is in reverse. -/
def restoreRows (data : Array UInt8) (step rowSize : Nat) :
    Nat → Nat → Array UInt8 → List (Array UInt8) → Option (List (Array UInt8))
  | 0, _, _, done => some done.reverse
  | count + 1, pos, above, done => do
    let row ← restoreRow (data.getD pos 0).toNat step above (data.extract (pos + 1) (pos + 1 + rowSize))
    restoreRows data step rowSize count (pos + 1 + rowSize) row (row :: done)

/-- A pass over the picture: the distance between its columns and rows, and where they start. -/
structure Pass where
  columnStep : Nat
  rowStep : Nat
  firstColumn : Nat
  firstRow : Nat

/-- The passes of a picture. -/
def passes (interlaced : Bool) : List Pass :=
  if interlaced then
    [⟨8, 8, 0, 0⟩, ⟨8, 8, 4, 0⟩, ⟨4, 8, 0, 4⟩, ⟨4, 4, 2, 0⟩, ⟨2, 4, 0, 2⟩, ⟨2, 2, 1, 0⟩, ⟨1, 2, 0, 1⟩]
  else [⟨1, 1, 0, 0⟩]

namespace Pass

/-- The columns of a pass in a picture of a width. -/
def columns (p : Pass) (width : Nat) : Nat := (width + p.columnStep - 1 - p.firstColumn) / p.columnStep

/-- The rows of a pass in a picture of a height. -/
def rows (p : Pass) (height : Nat) : Nat := (height + p.rowStep - 1 - p.firstRow) / p.rowStep

/-- Whether a pixel belongs to a pass. -/
def covers (p : Pass) (x y : Nat) : Bool :=
  x % p.columnStep == p.firstColumn % p.columnStep && y % p.rowStep == p.firstRow % p.rowStep
    && x ≥ p.firstColumn && y ≥ p.firstRow

/-- The octets of a pass, one for the kind of each row included; a pass without pixels has none. -/
def size (p : Pass) (f : Format) : Nat :=
  let w := p.columns f.width
  if w == 0 then 0 else p.rows f.height * (1 + f.rowSize w)

end Pass

/-- The picture of uncompressed pixel data, which must have exactly the size of all passes. -/
def ofPixelData? (f : Format) (data : Array UInt8) : Option Picture := do
  let ps := passes f.interlaced
  if ps.foldr (fun p n => p.size f + n) 0 != data.size then none
  let (read, _) ← ps.foldlM (fun ((read, pos) : List (Pass × Array (Array UInt8)) × Nat) p => do
    let w := p.columns f.width
    let count := if w == 0 then 0 else p.rows f.height
    let rows ← restoreRows data f.pixelSize (f.rowSize w) count pos #[] []
    return ((p, rows.toArray) :: read, pos + p.size f)) ([], 0)
  return Grid.ofFn f.width f.height fun x y =>
    match read.find? fun (p, _) => p.covers x y with
    | some (p, rows) =>
      f.sampleAt (rows.getD ((y - p.firstRow) / p.rowStep) #[]) ((x - p.firstColumn) / p.columnStep)
    | none => .scaled 0 0 0 0

/-! ## Chunks -/

/-- A chunk whose checksum holds. -/
structure Chunk where
  name : String
  /-- Where its data starts in the file. -/
  start : Nat
  data : Array UInt8

namespace Chunk

/-- Where the data ends in the file. -/
def dataEnd (c : Chunk) : Nat := c.start + c.data.size

/-- Where the next chunk starts. -/
def next (c : Chunk) : Nat := c.dataEnd + 4

/-- The chunk at a place, if it is whole and its checksum holds. -/
def at? (file : Array UInt8) (pos : Nat) : Option Chunk :=
  let size := bigEndian file pos 4
  if pos + 12 + size > file.size then none
  else
    let named := file.extract (pos + 4) (pos + 8 + size)
    if (Checksum.crc named.toList).toNat != bigEndian file (pos + 8 + size) 4 then none
    else some ⟨Utf8.text (named.extract 0 4).toList, pos + 8, named.extract 4 named.size⟩

end Chunk

/-- The chunks of pixel data that follow each other from a place on. -/
def dataChunks (file : Array UInt8) : Nat → Nat → List Chunk
  | 0, _ => []
  | fuel + 1, pos =>
    match Chunk.at? file pos with
    | some c => if c.name == "IDAT" then c :: dataChunks file fuel c.next else []
    | none => []

/-- The chunk in which the octet with a number stands, and where in the file. -/
def locate : List Chunk → Nat → Option (Chunk × Nat)
  | [], _ => none
  | c :: rest, i => if i < c.data.size then some (c, c.start + i) else locate rest (i - c.data.size)

/-- The unit in which a file is read. -/
def pageSize : Nat := 4096

/-- The picture of the pixel data that starts at a place, and where the next chunk starts. After the
compressed stream nothing may be left of its chunk beyond the page that was read last. -/
def pixelData? (f : Format) (file : Array UInt8) (pos : Nat) : Option (Picture × Nat) := do
  let chunks := dataChunks file file.size pos
  let (out, used) ← Inflate.unwrap (chunks.foldl (fun all c => all ++ c.data) #[])
  let p ← ofPixelData? f out
  let (c, last) ← locate chunks (used - 1)
  if c.dataEnd > (last / pageSize + 1) * pageSize then none
  return (p, c.next)

/-- How far the chunks of a file have been read. -/
inductive Stage where
  | start
  | header (f : Format)
  | palette (f : Format)
  | transparency (f : Format)
  | pixels (p : Picture)

/-- Read chunks up to the end chunk. Every chunk takes twelve octets at least. -/
def chunks? (file : Array UInt8) : Nat → Stage → Nat → Option Picture
  | 0, _, _ => none
  | fuel + 1, stage, pos =>
    match Chunk.at? file pos with
    | none => none
    | some c =>
      match c.name, stage with
      | "IHDR", .start => do chunks? file fuel (.header (← Format.ofHeader? c.data)) c.next
      | "IHDR", _ => none
      | "PLTE", .header f => do chunks? file fuel (.palette (← f.withPalette? c.data)) c.next
      | "PLTE", _ => none
      | "tRNS", .header f =>
        if f.colourType == .indexed then none
        else do chunks? file fuel (.transparency (← f.withTransparency? c.data)) c.next
      | "tRNS", .palette f =>
        if f.colourType == .grey then none
        else do chunks? file fuel (.transparency (← f.withTransparency? c.data)) c.next
      | "tRNS", _ => none
      | "IDAT", .start => none
      | "IDAT", .pixels p => chunks? file fuel (.pixels p) c.next
      | "IDAT", .header f =>
        if f.colourType == .indexed then none
        else do
          let (p, next) ← pixelData? f file pos
          chunks? file fuel (.pixels p) next
      | "IDAT", .palette f => do
        let (p, next) ← pixelData? f file pos
        chunks? file fuel (.pixels p) next
      | "IDAT", .transparency f => do
        let (p, next) ← pixelData? f file pos
        chunks? file fuel (.pixels p) next
      | "IEND", .pixels p => if c.data.isEmpty then some p else none
      | "IEND", _ => none
      | _, stage => if c.data.size > 0x7FFFFFFF then none else chunks? file fuel stage c.next

/-- The picture of a file. -/
def decode (file : Array UInt8) : Option Picture :=
  if (file.extract 0 8).toList == signature then chunks? file file.size .start 8 else none

/-! ## Writing -/

/-- A chunk with its size and checksum. -/
def chunk (name : String) (data : Octets) : Octets :=
  let named := Octets.ofString name ++ data
  Checksum.bigEndian32 (UInt32.ofNat data.length) ++ named ++ Checksum.bigEndian32 (Checksum.crc named)

/-- The file of an opaque picture. -/
def encode (g : Grid Rgb) : Octets :=
  let header := Checksum.bigEndian32 (UInt32.ofNat g.width) ++ Checksum.bigEndian32 (UInt32.ofNat g.height)
    ++ [8, 2, 0, 0, 0]
  let rows := (List.range g.height).flatMap fun y =>
    0 :: (g.row y).toList.flatMap fun c => [c.r, c.g, c.b]
  signature ++ chunk "IHDR" header ++ chunk "IDAT" (Inflate.wrap rows) ++ chunk "IEND" []

end BlitReel.Png
