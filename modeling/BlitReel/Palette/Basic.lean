import BlitReel.Failure
import BlitReel.Text.Quoted

/-!
# Palettes

A palette is an ordered list of named colours, each with the digit that stands for it in frames.
The order counts: among colours at the same distance the first one wins.
-/

namespace BlitReel

/-- A named colour and the digit that stands for it. -/
structure PaletteEntry where
  name : String
  digit : UInt8
  red : UInt8
  green : UInt8
  blue : UInt8
  deriving DecidableEq, Inhabited

/-- An ordered list of colours. -/
abbrev Palette := List PaletteEntry

namespace Palette

/-- The digits that a palette gives out. -/
def alphabet : Octets := Octets.ofString "0123456789abcdef"

/-- Whether an octet is a digit of the alphabet. -/
def isDigit (b : UInt8) : Bool := alphabet.contains b

/-- The sixteen colours of a terminal. -/
def standard : Palette :=
  [ ⟨"white", 0x30, 240, 240, 240⟩, ⟨"orange", 0x31, 242, 178, 51⟩,
    ⟨"magenta", 0x32, 229, 127, 216⟩, ⟨"lightBlue", 0x33, 153, 178, 242⟩,
    ⟨"yellow", 0x34, 222, 222, 108⟩, ⟨"lime", 0x35, 127, 204, 25⟩,
    ⟨"pink", 0x36, 242, 178, 204⟩, ⟨"gray", 0x37, 76, 76, 76⟩,
    ⟨"lightGray", 0x38, 153, 153, 153⟩, ⟨"cyan", 0x39, 76, 153, 178⟩,
    ⟨"purple", 0x61, 178, 102, 229⟩, ⟨"blue", 0x62, 51, 76, 178⟩,
    ⟨"brown", 0x63, 102, 76, 51⟩, ⟨"green", 0x64, 102, 127, 51⟩,
    ⟨"red", 0x65, 153, 51, 51⟩, ⟨"black", 0x66, 0, 0, 0⟩ ]

/-- The first entry with the given digit. -/
def lookup? (p : Palette) (digit : UInt8) : Option PaletteEntry := p.find? (·.digit == digit)

/-- What is wrong with a palette. -/
inductive Fault where
  | count (n : Nat)
  | digit (name : String) (digit : UInt8)
  | twice (digit : UInt8)
  deriving DecidableEq

/-- The wording of a fault. -/
def Fault.message : Fault → String
  | .count n => s!"nfp: palette must have 16 entries, has {n}"
  | .digit name d => "nfp: palette entry " ++ Quoted.text name ++ " has invalid index " ++ Quoted.octet d
  | .twice d => "nfp: palette index " ++ String.singleton (Char.ofNat d.toNat) ++ " is used twice"

/-- Every entry has a digit of the alphabet that neither `seen` nor an earlier entry has. -/
def checkDigits : Palette → Octets → Except Fault Unit
  | [], _ => .ok ()
  | e :: rest, seen =>
    if !isDigit e.digit then .error (.digit e.name e.digit)
    else if seen.contains e.digit then .error (.twice e.digit)
    else checkDigits rest (e.digit :: seen)

/-- Each digit of the alphabet belongs to exactly one entry. -/
def check (p : Palette) : Except Fault Unit :=
  if p.length ≠ alphabet.length then .error (.count p.length) else checkDigits p []

/-- The squared distance of an entry from a colour. -/
def distance (r g b : UInt8) (e : PaletteEntry) : Int :=
  let dr : Int := (r.toNat : Int) - e.red.toNat
  let dg : Int := (g.toNat : Int) - e.green.toNat
  let db : Int := (b.toNat : Int) - e.blue.toNat
  dr * dr + dg * dg + db * db

/-- The nearer of the best entry so far and the next one; the earlier one when they tie. -/
def nearer (r g b : UInt8) (best next : PaletteEntry) : PaletteEntry :=
  if distance r g b next < distance r g b best then next else best

/-- The first of the entries at the least distance from a colour; an empty palette has none. -/
def firstNearest? (p : Palette) (r g b : UInt8) : Option PaletteEntry :=
  match p with
  | [] => none
  | e :: rest => some (rest.foldl (nearer r g b) e)

/-- The digit of the nearest entry. -/
def nearest (p : Palette) (r g b : UInt8) : Except Collapse UInt8 :=
  match firstNearest? p r g b with
  | some e => .ok e.digit
  | none => .error (.index 0 0)

/-- The digits of the complete pixels of `pix`, put in front of `done` in reverse; octets left over
at the end are ignored. -/
def digitsAux (p : Palette) : Octets → Octets → Except Collapse Octets
  | r :: g :: b :: rest, done =>
    match p.nearest r g b with
    | .ok d => digitsAux p rest (d :: done)
    | .error c => .error c
  | _, done => .ok done

/-- The digit of each complete pixel. -/
def digits (p : Palette) (pix : Octets) : Except Collapse Octets :=
  (digitsAux p pix []).map List.reverse

/-- The colours in order, four octets each, fully opaque. -/
def colours (p : Palette) : Octets := p.flatMap fun e => [e.red, e.green, e.blue, 255]

end Palette

end BlitReel
