import BlitReel.Picture.Sample

/-!
# BMP files

A file is a header, perhaps a table of colours, and rows of pixels, usually from the bottom up, each
filled to a multiple of four octets. Files with one plane, without compression, of up to eight bits
through a table or of 24 or 32 bits are read.
-/

namespace BlitReel.Bmp

/-- A number of octets, least significant first. -/
def littleEndian (data : Array UInt8) (start count : Nat) : Nat :=
  (List.range count).foldr (fun i n => n * 256 + (data.getD (start + i) 0).toNat) 0

/-- Four octets as a signed number. -/
def signed32 (data : Array UInt8) (start : Nat) : Int :=
  let n := littleEndian data start 4
  if n ≥ 0x80000000 then (n : Int) - 0x100000000 else n

/-- The sizes of the description that are known. -/
def descriptionSizes : List Nat := [40, 108, 124]

/-- The pixels of a file whose rows start at `start` and take `rowSize` octets each. -/
def rows? (file : Array UInt8) (start rowSize width height : Nat) (topDown : Bool)
    (sample : Nat → Nat → Sample) : Option Picture :=
  if width != 0 && start + rowSize * height > file.size then none
  else some (Grid.ofFn width height fun x y =>
    sample (start + rowSize * (if topDown then y else height - 1 - y)) x)

/-- A length filled to a multiple of four. -/
def filled (n : Nat) : Nat := (n + 3) / 4 * 4

/-- The picture of a file. -/
def decode (file : Array UInt8) : Option Picture := do
  let size := littleEndian file 14 4
  if file.size < 18 || !descriptionSizes.contains size || file.size < 14 + size then none
  let start := littleEndian file 10 4
  let width := signed32 file 18
  let height := signed32 file 22
  if width < 0 then none
  let topDown := height < 0
  let width := width.toNat
  let height := height.natAbs
  let bits := littleEndian file 28 2
  let compression := littleEndian file 30 4
  -- masks that say what no compression says
  let usualMasks := size > 40 && littleEndian file 54 4 == 0xFF0000 && littleEndian file 58 4 == 0xFF00
    && littleEndian file 62 4 == 0xFF && littleEndian file 66 4 == 0xFF000000
  if littleEndian file 26 2 != 1 || !(compression == 0 || (compression == 3 && usualMasks)) then none
  let at8 (i : Nat) : UInt8 := file.getD i 0
  if [1, 2, 4, 8].contains bits then
    let used := littleEndian file 46 4
    let count := if used == 0 then 1 <<< bits else used
    let table := 14 + size
    if count > 1 <<< bits || start != table + 4 * count || file.size < start then none
    let perOctet := 8 / bits
    rows? file start (filled ((width + perOctet - 1) / perOctet)) width height topDown fun row x =>
      let shift := 8 - bits * (x % perOctet + 1)
      let i := (at8 (row + x / perOctet)).toNat >>> shift % (1 <<< bits)
      if i < count then Sample.indexed (at8 (table + 4 * i + 2)) (at8 (table + 4 * i + 1)) (at8 (table + 4 * i)) 255
      else .scaled 0 0 0 0
  else if bits == 24 then
    if start != 14 + size then none
    rows? file start (filled (3 * width)) width height topDown fun row x =>
      .scaled (at8 (row + 3 * x + 2)) (at8 (row + 3 * x + 1)) (at8 (row + 3 * x)) 255
  else if bits == 32 then
    if start != 14 + size then none
    -- only the longer descriptions give the fourth octet a meaning
    rows? file start (4 * width) width height topDown fun row x =>
      .straight (at8 (row + 4 * x + 2)) (at8 (row + 4 * x + 1)) (at8 (row + 4 * x))
        (if size > 40 then at8 (row + 4 * x + 3) else 255)
  else none

end BlitReel.Bmp
