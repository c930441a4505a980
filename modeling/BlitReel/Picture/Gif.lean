import BlitReel.Picture.Lzw
import BlitReel.Picture.Sample

/-!
# GIF files

A file is a screen descriptor, perhaps a table of colours, and a sequence of extensions and images.
The picture of a file is its first image. A control extension before it may name a transparent
index.
-/

namespace BlitReel.Gif

/-- A place in a file. -/
abbrev Reader := StateT Octets Option

/-- The next octet. -/
def octet : Reader Nat := fun
  | [] => none
  | b :: rest => some (b.toNat, rest)

/-- This many octets. -/
def octets (n : Nat) : Reader Octets := fun rest =>
  if rest.length < n then none else some (rest.take n, rest.drop n)

/-- Two octets, the least significant first. -/
def word : Reader Nat := do
  let low ← octet
  let high ← octet
  return low + 256 * high

/-- The colours of a table, with their opacity. -/
abbrev Table := List (UInt8 × UInt8 × UInt8 × UInt8)

/-- The opaque colours of consecutive octets. -/
def colours : Octets → Table
  | r :: g :: b :: rest => (r, g, b, 255) :: colours rest
  | _ => []

/-- The table that the flags announce. -/
def table (flags : Nat) : Reader (Option Table) := do
  if flags < 128 then return none
  return some (colours (← octets (3 <<< (flags % 8 + 1))))

/-- Data in blocks: their sizes, their octets, and whether the block that ends them was found. -/
structure Blocks where
  blocks : List Octets := []
  closed : Bool := false

/-- Read blocks up to the empty one. A block that is cut off counts for nothing. -/
def blocks : Nat → Octets → List Octets → Blocks × Octets
  | 0, rest, done => ({ blocks := done.reverse }, rest)
  | _ + 1, [], done => ({ blocks := done.reverse }, [])
  | fuel + 1, size :: rest, done =>
    if size == 0 then ({ blocks := done.reverse, closed := true }, rest)
    else if rest.length < size.toNat then ({ blocks := done.reverse }, [])
    else blocks fuel (rest.drop size.toNat) (rest.take size.toNat :: done)

/-- Skip blocks up to the empty one, which must be there. -/
def skipBlocks : Reader Unit := fun rest =>
  let (bs, rest) := blocks rest.length rest []
  if bs.closed then some ((), rest) else none

/-- Whether an image's blocks are well closed when its codes took `used` octets of them: of what
follows the block in which they end, at most a single block of one octet, and that only when they
end with their block. -/
def Blocks.wellClosed (bs : Blocks) (used : Nat) : Bool :=
  let rec after : List Octets → Nat → Bool
    | [], _ => true
    | b :: rest, n =>
      if n > b.length then after rest (n - b.length)
      else if n < b.length then rest.isEmpty
      else match rest with
        | [] => true
        | [b] => b.length == 1
        | _ => false
  bs.closed && after bs.blocks used

/-- The rows of an interlaced image in the order of the file. -/
def interlacedRows (height : Nat) : List Nat :=
  let rows := List.range height
  rows.filter (· % 8 == 0) ++ rows.filter (· % 8 == 4) ++ rows.filter (· % 4 == 2) ++ rows.filter (· % 2 == 1)

/-- An extension; a control extension gives the transparent index, if it has one. -/
def extension (transparent? : Option Nat) : Reader (Option Nat) := do
  match ← octet with
  | 0xF9 =>
    let body ← octets 6
    match body with
    | [size, flags, _, _, index, stop] =>
      if size != 4 || stop != 0 then failure
      return if flags % 2 == 1 then some index.toNat else transparent?
    | _ => failure
  | 0x01 =>
    let _ ← octets 13
    skipBlocks
    return transparent?
  | 0xFE =>
    skipBlocks
    return transparent?
  | 0xFF =>
    let size ← octet
    let _ ← octets size
    skipBlocks
    return transparent?
  | _ => failure

/-- The table with a transparent index; one beyond the table makes it longer. -/
def withTransparent (t : Table) (i : Nat) : Table :=
  if i < t.length then t.set i (0, 0, 0, 0)
  else t ++ List.replicate (i + 1 - t.length) (0, 0, 0, 0)

/-- An image on a screen of the given size. -/
def image (screenWidth screenHeight : Nat) (global? : Option Table) (transparent? : Option Nat) : Reader Picture := do
  let left ← word
  let top ← word
  let width ← word
  let height ← word
  let flags ← octet
  if left + width > screenWidth || top + height > screenHeight then failure
  let local? ← table flags
  let some t := local?.or global? | failure
  let t := match transparent? with
    | some i => withTransparent t i
    | none => t
  let literalWidth ← octet
  if literalWidth < 2 || literalWidth > 8 then failure
  let rest ← get
  let (bs, rest) := blocks rest.length rest []
  set rest
  let (pixels, ending, used) := Lzw.decode literalWidth bs.blocks.flatten.toArray
  if pixels.size != width * height || ending == .invalid then failure
  let closed := if ending == .exhausted then bs.closed else bs.wellClosed used
  if !closed then failure
  if pixels.any fun p => p.toNat ≥ t.length then failure
  let samples := (t.map fun (r, g, b, a) => Sample.indexed r g b a).toArray
  let order := interlacedRows height
  let line (y : Nat) : Nat := if flags / 64 % 2 == 1 then order.idxOf y else y
  let lines := ((List.range height).map line).toArray
  return Grid.ofFn width height fun x y =>
    samples.getD (pixels.getD (lines.getD y 0 * width + x) 0).toNat (.scaled 0 0 0 0)

/-- Extensions up to the first image. -/
def firstImage (width height : Nat) (global? : Option Table) : Nat → Option Nat → Reader Picture
  | 0, _ => failure
  | fuel + 1, transparent? => do
    match ← octet with
    | 0x21 =>
      let transparent? ← extension transparent?
      firstImage width height global? fuel transparent?
    | 0x2C => image width height global? transparent?
    | _ => failure

/-- The picture of a file. -/
def read : Reader Picture := do
  let version ← octets 6
  if version != Octets.ofString "GIF87a" && version != Octets.ofString "GIF89a" then failure
  let width ← word
  let height ← word
  let flags ← octet
  let _ ← octets 2
  let global? ← table flags
  let rest ← get
  firstImage width height global? rest.length none

/-- The picture of a file. -/
def decode (file : Octets) : Option Picture := (read.run file).map (·.1)

end BlitReel.Gif
