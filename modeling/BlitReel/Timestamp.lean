import BlitReel.Number.Numeral
import BlitReel.Text.Blank

/-!
# Timestamps and durations

A timestamp is plain seconds with an optional unit or `[[HH:]MM:]SS[.fraction]`. It stands for a
number of nanoseconds in a 64-bit word, and so does a duration, which is printed with the units
hours, minutes and seconds.
-/

namespace BlitReel

namespace Binary64

/-- The integer part of a finite double. -/
def truncate? (x : Float) : Option Int :=
  match shape x with
  | .finite negative m e =>
    let n : Nat := if e ≥ 0 then m <<< e.toNat else m >>> (-e).toNat
    some (if negative then -(n : Int) else n)
  | _ => none

/-- The integer part of a double as a 64-bit word; the least word when it does not fit. -/
def toWord (x : Float) : Int64 :=
  match truncate? x with
  | some n => if Int64.minValue.toInt ≤ n ∧ n ≤ Int64.maxValue.toInt then Int64.ofInt n else Int64.minValue
  | none => Int64.minValue

end Binary64

namespace Timestamp

/-- Why a timestamp is refused. The text is the one that was trimmed. -/
inductive Fault where
  | empty
  | invalid (s : Octets)
  | seconds (s : Octets)
  deriving DecidableEq

/-- The wording of a fault. -/
def Fault.message : Fault → String
  | .empty => "stream: empty timestamp"
  | .invalid s => "stream: invalid timestamp " ++ Quoted.octets s
  | .seconds s => "stream: invalid seconds in timestamp " ++ Quoted.octets s

/-- The nanoseconds of a second. -/
def second : Int64 := 1000000000

/-- The nanoseconds of a minute. -/
def minute : Int64 := 60 * second

/-- The nanoseconds of an hour. -/
def hour : Int64 := 60 * minute

/-- A number of units as nanoseconds, without the fraction of one. -/
def scaled (x : Float) (unit : Float) : Int64 := Binary64.toWord (x * unit)

/-- Units that may follow plain seconds, with their nanoseconds; the first that fits counts. -/
def units : List (Octets × Float) :=
  [(Octets.ofString "ms", 1000000.0), (Octets.ofString "us", 1000.0), (Octets.ofString "s", 1000000000.0)]

/-- A number that is neither negative nor infinite. -/
def readAmount (s : Octets) : Option Float :=
  match Numeral.readFloat s with
  | .ok x => if x ≥ 0.0 && !Binary64.isInfinite x then some x else none
  | .error _ => none

/-- A whole number that is not negative. -/
def readCount (s : Octets) : Option Int64 :=
  match Numeral.readInt s with
  | .ok n => if n < 0 then none else some n
  | .error _ => none

/-- The seconds part. After a colon it is below sixty. -/
def readSeconds (alone : Bool) (s part : Octets) : Except Fault Int64 :=
  match readAmount part with
  | some x => if !alone && x ≥ 60.0 then .error (.seconds s) else .ok (scaled x 1000000000.0)
  | none => .error (.seconds s)

/-- The minutes part. After another colon it is below sixty. -/
def readMinutes (first : Bool) (s part : Octets) : Except Fault Int64 :=
  match readCount part with
  | some n => if !first && n ≥ 60 then .error (.invalid s) else .ok (n * minute)
  | none => .error (.invalid s)

/-- The hours part. -/
def readHours (s part : Octets) : Except Fault Int64 :=
  match readCount part with
  | some n => .ok (n * hour)
  | none => .error (.invalid s)

/-- The parts between colons. -/
def parseParts (s : Octets) : List Octets → Except Fault Int64
  | [sec] => readSeconds true s sec
  | [min, sec] => do
    let m ← readMinutes true s min
    let x ← readSeconds false s sec
    return m + x
  | [hr, min, sec] => do
    let h ← readHours s hr
    let m ← readMinutes false s min
    let x ← readSeconds false s sec
    return h + m + x
  | _ => .error (.invalid s)

/-- The nanoseconds of a timestamp. -/
def parse (text : Octets) : Except Fault Int64 :=
  let s := Blank.trim text
  if s.isEmpty then .error .empty
  else
    let unit? := if s.contains 0x3A then none else units.find? fun (u, _) => u.isSuffixOf s
    match unit? with
    | some (u, scale) =>
      match readAmount (s.take (s.length - u.length)) with
      | some x => .ok (scaled x scale)
      | none => .error (.invalid s)
    | none => parseParts s (Octets.splitOn 0x3A s)

end Timestamp

namespace Duration

/-- The last `places` digits of `n` as a fraction without zeros at the end. -/
def fraction (n places : Nat) : String :=
  let ds := toString (n % Nat.pow 10 places)
  let all := List.replicate (places - ds.length) '0' ++ ds.toList
  let kept := (all.reverse.dropWhile (· == '0')).reverse
  if kept.isEmpty then "" else String.ofList ('.' :: kept)

/-- A natural number of nanoseconds in units. -/
def magnitude (n : Nat) : String :=
  if n == 0 then "0s"
  else if n < 1000 then s!"{n}ns"
  else if n < 1000000 then toString (n / 1000) ++ fraction n 3 ++ "µs"
  else if n < 1000000000 then toString (n / 1000000) ++ fraction n 6 ++ "ms"
  else
    let secs := n / 1000000000
    let tail := toString (secs % 60) ++ fraction n 9 ++ "s"
    let mins := secs / 60
    if mins == 0 then tail
    else
      let tail := toString (mins % 60) ++ "m" ++ tail
      if mins / 60 == 0 then tail else toString (mins / 60) ++ "h" ++ tail

/-- Nanoseconds in units, such as `1m30.25s`. -/
def text (ns : Int64) : String :=
  let n := ns.toInt
  if n < 0 then "-" ++ magnitude n.natAbs else magnitude n.natAbs

end Duration

end BlitReel
