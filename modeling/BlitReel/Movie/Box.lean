import BlitReel.Failure

/-!
# Boxes of movie files

A movie file is a sequence of boxes. A box starts with its size and its kind; some kinds hold further
boxes and the others hold data of a layout of their own. `Box.readAll` reads a sequence of boxes that
fills its place exactly.
-/

namespace BlitReel.Movie

/-- How messages speak of a movie file that is not well formed. -/
def malformed : String := "malformed movie"

/-- The number that octets spell, the most significant one first. -/
def bigEndian (s : Octets) : Nat := s.foldl (fun n b => n * 256 + b.toNat) 0

/-- The part of `s` that starts at `i` and has `n` octets. -/
def slice (s : Octets) (i n : Nat) : Octets := (s.drop i).take n

/-- The head of a box. -/
structure BoxHead where
  kind : Octets
  /-- The octets of the whole box. -/
  size : Nat
  /-- The octets of the head: eight, or sixteen when the size needs more room. -/
  width : Nat
  width_le : width ≤ size

namespace BoxHead

/-- The octets of a box behind its head. -/
def rest (h : BoxHead) : Nat := h.size - h.width

/-- Whether boxes of this kind hold boxes. -/
def isGroup (h : BoxHead) : Bool :=
  ["moov", "trak", "mdia", "minf", "stbl"].any fun k => h.kind == Octets.ofString k

/-- A head with a size that holds it. -/
def make? (kind : Octets) (size width : Nat) : Option BoxHead :=
  if le : width ≤ size then some ⟨kind, size, width, le⟩ else none

/-- The head at the front, and what follows it. A size of one says that a wide size follows. -/
def read? (s : Octets) : Option (BoxHead × Octets) :=
  if s.length < 8 then none
  else
    let size := bigEndian (s.take 4)
    let kind := slice s 4 4
    if size == 1 then
      if s.length < 16 then none
      else (make? kind (bigEndian (slice s 8 8)) 16).map fun h => (h, s.drop 16)
    else (make? kind size 8).map fun h => (h, s.drop 8)

end BoxHead

/-- A box: a group of boxes, or data. -/
inductive Box where
  | group (kind : Octets) (parts : List Box)
  | leaf (kind : Octets) (content : Octets)
  deriving Inhabited

namespace Box

/-- The kind of a box. -/
def kind : Box → Octets
  | .group k _ => k
  | .leaf k _ => k

/-- The boxes in a box. -/
def parts : Box → List Box
  | .group _ ps => ps
  | .leaf .. => []

/-- The data in a box. -/
def content : Box → Octets
  | .group .. => []
  | .leaf _ c => c

/-- The length of the content of a movie header of the given version. -/
def headerLength (version : UInt8) : Nat := if version == 1 then 112 else 100

/-- Whether the content of a box fits the layout of its kind, for the kinds that are looked into. -/
def fits (kind content : Octets) : Bool :=
  if kind == Octets.ofString "mvhd" then content.length == headerLength (content.headD 0)
  else if kind == Octets.ofString "hdlr" then content.length ≥ 24
  else if kind == Octets.ofString "stts" then content.length == 8 + 8 * bigEndian (slice content 4 4)
  else true

/-- Boxes that fill `s`. A group has a plain head. The fuel bounds the number of boxes. -/
def readMany : Nat → Octets → Option (List Box)
  | 0, _ => none
  | fuel + 1, s =>
    if s.isEmpty then some []
    else do
      let (h, s) ← BoxHead.read? s
      guard (h.rest ≤ s.length)
      let content := s.take h.rest
      let box ←
        if h.isGroup then
          if h.width == 8 then (readMany fuel content).map (.group h.kind) else none
        else if fits h.kind content then some (.leaf h.kind content)
        else none
      let others ← readMany fuel (s.drop h.rest)
      return box :: others

/-- Boxes that fill `s`. A box takes eight octets at least. -/
def readAll (s : Octets) : Option (List Box) := readMany (s.length / 8 + 1) s

/-- The last box of a kind. -/
def last? (kind : String) (boxes : List Box) : Option Box :=
  boxes.reverse.find? (·.kind == Octets.ofString kind)

end Box

end BlitReel.Movie
