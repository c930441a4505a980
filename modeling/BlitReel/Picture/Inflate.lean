import BlitReel.Picture.Checksum

/-!
# Compressed data

Data is compressed in blocks of prefix codes for octets and for repetitions of earlier output.
`Inflate.unwrap` reads a whole stream with its header and checksum. Codes must be complete, apart
from a code of a single word, and a repetition must not reach back beyond what was written or
beyond the window.
-/

namespace BlitReel.Inflate

/-- A place in a string of bits, the least significant bit of each octet first. -/
structure Bits where
  data : Array UInt8
  /-- The number of bits read. -/
  pos : Nat := 0

/-- A reader of bits, which fails at the end of the data or on a malformed stream. -/
abbrev Reader := StateT Bits Option

/-- One bit. -/
def bit : Reader Nat := fun s =>
  match s.data[s.pos / 8]? with
  | some b => some (b.toNat >>> (s.pos % 8) % 2, { s with pos := s.pos + 1 })
  | none => none

/-- A number of bits, the least significant first. -/
def bits : Nat → Reader Nat
  | 0 => pure 0
  | n + 1 => do
    let b ← bit
    let rest ← bits n
    return b + 2 * rest

/-- Go on at the next whole octet. -/
def align : Reader Unit := modify fun s => { s with pos := (s.pos + 7) / 8 * 8 }

/-- A prefix code: how many words there are of each length, and the symbols in order of their
words. -/
structure Code where
  counts : Array Nat
  symbols : Array Nat

/-- The greatest length of a word. -/
def maxLength : Nat := 15

/-- The code with a word of the given length for each symbol, none for length zero. -/
def Code.ofLengths? (lengths : List Nat) : Option Code :=
  let indexed := lengths.zipIdx
  let ofLength (n : Nat) : List Nat := (indexed.filter fun (l, _) => l == n).map (·.2)
  let groups := (List.range (maxLength + 1)).map fun n => if n == 0 then [] else ofLength n
  let counts := groups.map List.length
  let longest := lengths.foldl max 0
  let used := (List.range longest).foldl (fun code i => code * 2 + counts.getD (i + 1) 0) 0
  if longest == 0 || used == 1 <<< longest || (used == 1 && longest == 1) then
    some ⟨counts.toArray, groups.flatten.toArray⟩
  else none

/-- Read a word and give its symbol. `first` is the first word of the length reached, `index` where
its symbol stands. -/
def symbolAux (c : Code) : Nat → Nat → Nat → Nat → Nat → Reader Nat
  | 0, _, _, _, _ => failure
  | fuel + 1, length, word, first, index => do
    let b ← bit
    let word := word * 2 + b
    let first := first * 2
    let count := c.counts.getD length 0
    if word < first + count then
      match c.symbols[index + (word - first)]? with
      | some s => return s
      | none => failure
    else symbolAux c fuel (length + 1) word (first + count) (index + count)

/-- Read a symbol of a code. -/
def symbol (c : Code) : Reader Nat := symbolAux c maxLength 1 0 0 0

/-- The least length and the number of extra bits for a symbol above the end mark. -/
def lengthOf? (s : Nat) : Option (Nat × Nat) :=
  if s < 265 then some (s - 254, 0)
  else if s < 285 then
    let extra := (s - 261) / 4
    some (((4 + (s - 261) % 4) <<< extra) + 3, extra)
  else if s == 285 then some (258, 0)
  else none

/-- The least distance and the number of extra bits for a symbol. -/
def distanceOf? (s : Nat) : Option (Nat × Nat) :=
  if s < 4 then some (s + 1, 0)
  else if s < 30 then
    let extra := (s - 2) / 2
    some (((2 + s % 2) <<< extra) + 1, extra)
  else none

/-- How far back a repetition may reach. -/
def window : Nat := 32768

/-- Write what stands `distance` back, `count` times, one octet after the other. -/
def repeatBack (distance : Nat) : Nat → Array UInt8 → Array UInt8
  | 0, out => out
  | n + 1, out => repeatBack distance n (out.push (out.getD (out.size - distance) 0))

/-- The symbols of a block up to its end mark. Every symbol takes at least a bit, so the bits left
are fuel enough. -/
def block (lits dists : Code) : Nat → Array UInt8 → Reader (Array UInt8)
  | 0, _ => failure
  | fuel + 1, out => do
    let s ← symbol lits
    if s < 256 then block lits dists fuel (out.push (UInt8.ofNat s))
    else if s == 256 then return out
    else
      let some (least, extra) := lengthOf? s | failure
      let count := least + (← bits extra)
      let d ← symbol dists
      let some (least, extra) := distanceOf? d | failure
      let distance := least + (← bits extra)
      if distance > min out.size window then failure
      block lits dists fuel (repeatBack distance count out)

/-- The order in which the lengths of the code for lengths are written. -/
def lengthOrder : List Nat := [16, 17, 18, 0, 8, 7, 9, 6, 10, 5, 11, 4, 12, 3, 13, 2, 14, 1, 15]

/-- What a symbol above the lengths repeats: a length and how often. -/
def repetition (s : Nat) (done : List Nat) : Reader (Nat × Nat) :=
  match s, done with
  | 16, [] => failure
  | 16, last :: _ => do return (last, 3 + (← bits 2))
  | 17, _ => do return (0, 3 + (← bits 3))
  | _, _ => do return (0, 11 + (← bits 7))

/-- A list of lengths, written with their own code; `done` is in reverse. -/
def lengths (c : Code) (total : Nat) : Nat → List Nat → Reader (List Nat)
  | 0, done => if done.length == total then return done.reverse else failure
  | fuel + 1, done => do
    if done.length ≥ total then
      if done.length == total then return done.reverse else failure
    let s ← symbol c
    if s < 16 then lengths c total fuel (s :: done)
    else
      let (value, count) ← repetition s done
      lengths c total fuel (List.replicate count value ++ done)

/-- The codes that a block brings along. -/
def readCodes : Reader (Code × Code) := do
  let lits := (← bits 5) + 257
  let dists := (← bits 5) + 1
  let count := (← bits 4) + 4
  if lits > 286 || dists > 30 then failure
  let given ← (lengthOrder.take count).mapM fun s => do return (s, ← bits 3)
  let some c := Code.ofLengths? ((List.range 19).map fun s => (given.lookup s).getD 0) | failure
  let all ← lengths c (lits + dists) (lits + dists) []
  let some lit := Code.ofLengths? (all.take lits) | failure
  let some dist := Code.ofLengths? (all.drop lits) | failure
  return (lit, dist)

/-- The codes of blocks that bring none along. -/
def fixedCodes? : Option (Code × Code) := do
  let lit ← Code.ofLengths? (List.replicate 144 8 ++ List.replicate 112 9 ++ List.replicate 24 7 ++ List.replicate 8 8)
  let dist ← Code.ofLengths? (List.replicate 32 5)
  return (lit, dist)

/-- A block that is not compressed. -/
def storedBlock (out : Array UInt8) : Reader (Array UInt8) := do
  align
  let count ← bits 16
  let check ← bits 16
  if count + check != 65535 then failure
  let s ← get
  let start := s.pos / 8
  if start + count > s.data.size then failure
  set { s with pos := s.pos + 8 * count }
  return out ++ s.data.extract start (start + count)

/-- Blocks up to the one that is marked as the last. -/
def blocks : Nat → Array UInt8 → Reader (Array UInt8)
  | 0, _ => failure
  | fuel + 1, out => do
    let last ← bit
    let kind ← bits 2
    let total := 8 * (← get).data.size
    let out ← match kind with
      | 0 => storedBlock out
      | 1 => do
        let some (lit, dist) := fixedCodes? | failure
        block lit dist total out
      | 2 => do
        let (lit, dist) ← readCodes
        block lit dist total out
      | _ => failure
    if last == 1 then return out else blocks fuel out

/-- Two octets that name the method and the window, and perhaps a dictionary, which is empty. -/
def header : Reader Unit := do
  let method ← bits 8
  let flags ← bits 8
  if method % 16 != 8 || method / 16 > 7 || (method * 256 + flags) % 31 != 0 then failure
  if flags / 32 % 2 == 1 then
    let id ← (List.replicate 4 ()).foldlM (fun acc _ => do return acc * 256 + (← bits 8)) 0
    if id != 1 then failure

/-- Read a stream: its output and the number of octets that it takes. -/
def unwrap (data : Array UInt8) : Option (Array UInt8 × Nat) := do
  let read : Reader (Array UInt8) := do
    header
    let out ← blocks (8 * data.size) #[]
    align
    let sum ← (List.replicate 4 ()).foldlM (fun acc _ => do return acc * 256 + (← bits 8)) 0
    if sum != (Checksum.adler out.toList).toNat then failure
    return out
  let (out, s) ← read.run { data }
  return (out, s.pos / 8)

/-- Data as a stream of blocks that are not compressed. -/
def wrap (data : Octets) : Octets :=
  let rec pieces : Nat → Octets → Octets
    | 0, _ => []
    | fuel + 1, rest =>
      let piece := rest.take 65535
      let rest := rest.drop 65535
      let n := piece.length
      let mark : UInt8 := if rest.isEmpty then 1 else 0
      [mark, UInt8.ofNat n, UInt8.ofNat (n / 256), UInt8.ofNat (255 - n % 256), UInt8.ofNat (255 - n / 256)]
        ++ piece ++ (if rest.isEmpty then [] else pieces fuel rest)
  [0x78, 0x01] ++ pieces (data.length / 65535 + 1) data ++ Checksum.bigEndian32 (Checksum.adler data)

end BlitReel.Inflate
