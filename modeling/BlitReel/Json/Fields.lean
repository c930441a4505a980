import BlitReel.Json.Value
import BlitReel.Number.Numeral

/-!
# Fields of documents

A record is read from the members of an object in their order: a member fills the field whose name
it matches up to case, a later member wins, and `null` leaves a field as it is. A member of the
wrong type is a mismatch; the others are still read.
-/

namespace BlitReel.Json

/-- A character up to case, where that can be an ASCII letter: the long s and the Kelvin sign are
such, too. -/
def foldChar (c : Char) : Char :=
  if c.toNat == 0x17F then 's' else if c.toNat == 0x212A then 'k' else c.toLower

/-- Whether a key names the field `name`, which is ASCII. -/
def namesField (key name : String) : Bool := key.toList.map foldChar == name.toList.map foldChar

/-- A value of the wrong type somewhere in a document. -/
inductive Mismatch where
  | mismatch
  deriving DecidableEq

/-- A record while it is filled: its value and whether something did not fit. -/
structure Filling (α : Type) where
  value : α
  sound : Bool := true

/-- Read a text over `old`. -/
def textOver (old : Octets) : Json → Option Octets
  | .string s => some (Octets.ofString s)
  | .null => some old
  | _ => none

/-- Read a truth value over `old`. -/
def boolOver (old : Bool) : Json → Option Bool
  | .bool b => some b
  | .null => some old
  | _ => none

/-- Read a whole number over `old`. -/
def intOver (old : Int64) : Json → Option Int64
  | .number literal => (Numeral.readInt (Octets.ofString literal)).toOption
  | .null => some old
  | _ => none

/-- Read a whole number of 32 bits over `old`. -/
def word32Over (old : UInt32) : Json → Option UInt32
  | .number literal =>
    match Numeral.digitsValue (Octets.ofString literal) 0 with
    | .ok n => if n < 0x100000000 then some (UInt32.ofNat n) else none
    | .error _ => none
  | .null => some old
  | _ => none

/-- Read a number over `old`. -/
def floatOver (old : Float) : Json → Option Float
  | .number literal => (Numeral.readFloat (Octets.ofString literal)).toOption
  | .null => some old
  | _ => none

/-- Read texts over the texts at the same places; a place that does not fit stays. -/
def textsOver : List Octets → List Json → List Octets × Bool
  | _, [] => ([], true)
  | old, j :: rest =>
    let (tail, sound) := textsOver old.tail rest
    match textOver (old.headD []) j with
    | some s => (s :: tail, sound)
    | none => (old.headD [] :: tail, false)

/-- Fill a record from the members of an object. `null` fills nothing, and any other value is a
mismatch. `set` gives the new record, or nothing when the member does not fit. -/
def fill {α : Type} (start : α) (set : α → String → Json → Option α) : Json → Filling α
  | .object members =>
    members.foldl (fun f (key, v) =>
      match set f.value key v with
      | some value => { f with value }
      | none => { f with sound := false }) ⟨start, true⟩
  | .null => ⟨start, true⟩
  | _ => ⟨start, false⟩

end BlitReel.Json
