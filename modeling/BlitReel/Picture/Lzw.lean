import BlitReel.Text.Octets

/-!
# Variable-length codes

The pixel data of a GIF file is a sequence of codes whose width grows from the literal width plus
one up to twelve bits. A code stands for a literal octet, for the start of a new table, for the end
of the data, or for a string that was seen before. While the table is full it does not grow.
-/

namespace BlitReel.Lzw

/-- The widest code. -/
def maxWidth : Nat := 12

/-- What ended the data. -/
inductive Ending where
  /-- The code for the end. -/
  | marked
  /-- There were no more octets. -/
  | exhausted
  /-- A code that stands for nothing. -/
  | invalid
  deriving DecidableEq

/-- The state between two codes. `table` gives, for each code above the end code, the code before it
and its last octet. -/
structure State where
  literalWidth : Nat
  width : Nat
  /-- The greatest code that may come next. -/
  high : Nat
  last? : Option Nat := none
  table : Array (Nat × UInt8)
  out : Array UInt8 := #[]

namespace State

/-- The code that starts a new table. -/
def clearCode (s : State) : Nat := 1 <<< s.literalWidth

/-- The code that ends the data. -/
def endCode (s : State) : Nat := s.clearCode + 1

/-- The state before the first code. -/
def start (literalWidth : Nat) : State where
  literalWidth := literalWidth
  width := literalWidth + 1
  high := (1 <<< literalWidth) + 1
  table := Array.replicate (1 <<< maxWidth) (0, 0)

/-- The octets that a code stands for, in front of `tail`. Strings only refer to earlier codes. -/
def expand (s : State) : Nat → Nat → List UInt8 → List UInt8
  | 0, _, tail => tail
  | fuel + 1, code, tail =>
    if code < s.clearCode then UInt8.ofNat code :: tail
    else
      let (before, octet) := s.table.getD code (0, 0)
      s.expand fuel before (octet :: tail)

/-- The octets of a code. -/
def string (s : State) (code : Nat) : List UInt8 := s.expand ((1 <<< maxWidth) + 1) code []

/-- Go on after a code with its octets: they are written, the string before gains their first one,
and the table grows. -/
def accept (s : State) (code : Nat) (octets : List UInt8) : State :=
  let table := match s.last? with
    | some last => s.table.setIfInBounds s.high (last, octets.headD 0)
    | none => s.table
  let high := s.high + 1
  let s := { s with table, out := octets.foldl Array.push s.out, last? := some code, high }
  if high < 1 <<< s.width then s
  else if s.width == maxWidth then { s with last? := none, high := high - 1 }
  else { s with width := s.width + 1 }

/-- One code. -/
def step (s : State) (code : Nat) : Except Ending State :=
  if code < s.clearCode then .ok (s.accept code [UInt8.ofNat code])
  else if code == s.clearCode then
    .ok { s with width := s.literalWidth + 1, high := s.endCode, last? := none }
  else if code == s.endCode then .error .marked
  else if code > s.high then .error .invalid
  else match s.last? with
    | some last =>
      if code == s.high then
        let before := s.string last
        .ok (s.accept code (before ++ [before.headD 0]))
      else .ok (s.accept code (s.string code))
    | none => .ok (s.accept code (s.string code))

end State

/-- The code at a bit of the data, the least significant bit first. -/
def codeAt? (data : Array UInt8) (pos width : Nat) : Option Nat :=
  if pos + width > 8 * data.size then none
  else
    let first := pos / 8
    let word := (data.getD first 0).toNat + 256 * (data.getD (first + 1) 0).toNat + 65536 * (data.getD (first + 2) 0).toNat
    some (word >>> (pos % 8) % (1 <<< width))

/-- Read codes: what they stand for, what ended them, and how many octets were used. Every code takes
at least three bits. -/
def decodeAux (data : Array UInt8) : Nat → State → Nat → Array UInt8 × Ending × Nat
  | 0, s, pos => (s.out, .exhausted, (pos + 7) / 8)
  | fuel + 1, s, pos =>
    match codeAt? data pos s.width with
    | none => (s.out, .exhausted, data.size)
    | some code =>
      let next := pos + s.width
      match s.step code with
      | .ok s => decodeAux data fuel s next
      | .error e => (s.out, e, (next + 7) / 8)

/-- Read the codes of some data. -/
def decode (literalWidth : Nat) (data : Array UInt8) : Array UInt8 × Ending × Nat :=
  decodeAux data (8 * data.size + 1) (State.start literalWidth) 0

end BlitReel.Lzw
