import BlitReel.Input.Metadata

/-!
# Reports on inputs

The prober prints a report on an input for people to read. Two things are taken from it: the clock on
the first line that starts with blanks and `Duration: `, and whether a stream is said to be video.
-/

namespace BlitReel.Report

/-- The blanks of a report. -/
def isBlank (b : UInt8) : Bool := b == 0x20 || b == 0x09 || b == 0x0A || b == 0x0C || b == 0x0D

/-- The end of a line. -/
def lineEnd : UInt8 := 0x0A

/-- The digits of a clock. -/
structure Clock where
  hours : Octets
  minutes : Octets
  seconds : Octets
  fraction : Octets
  deriving DecidableEq

namespace Clock

/-- The digits before a mark, and what follows the mark. -/
def digitsTo? (mark : UInt8) (s : Octets) : Option (Octets × Octets) :=
  match s.span Octets.isDigit with
  | (ds, b :: rest) => if b == mark then some (ds, rest) else none
  | (_, []) => none

/-- The clock at the front, which a comma ends. -/
def read? (s : Octets) : Option Clock := do
  let (hours, s) ← digitsTo? 0x3A s
  let (minutes, s) ← digitsTo? 0x3A s
  let (seconds, s) ← digitsTo? 0x2E s
  let (fraction, _) ← digitsTo? 0x2C s
  return { hours, minutes, seconds, fraction }

/-- The first three digits of a fraction, with zeros for those that are missing. -/
def thousandths (fraction : Octets) : Octets := (fraction ++ [0x30, 0x30, 0x30]).take 3

/-- What stands between the numbers of a line. -/
def space : UInt8 := 0x20

/-- The hours, minutes, seconds and thousandths in a line. -/
def line (c : Clock) : Octets :=
  [space].intercalate [c.hours, c.minutes, c.seconds, thousandths c.fraction]

/-- The number behind the spaces at the front, and what follows it. It has a digit at least, and it is a 64-bit
word. -/
def scanNumber? (s : Octets) : Option (Int64 × Octets) :=
  let (ds, rest) := (s.dropWhile (· == space)).span Octets.isDigit
  (Numeral.readInt ds).toOption.map (·, rest)

/-- The first so many numbers of a line. -/
def scanNumbers? : Nat → Octets → Option (List Int64)
  | 0, _ => some []
  | n + 1, s => do
    let (x, s) ← scanNumber? s
    let xs ← scanNumbers? n s
    return x :: xs

/-- The nanoseconds on a clock, if its line has four numbers. -/
def length? (c : Clock) : Option Int64 :=
  match scanNumbers? 4 c.line with
  | some [h, m, s, ms] => some (h * 3600000000000 + m * 60000000000 + s * 1000000000 + ms * 1000000)
  | _ => none

end Clock

/-- What stands before the clock. -/
def clockLabel : Octets := Octets.ofString "Duration: "

/-- The clock behind the blanks at the front, of which there must be one. -/
def indented? (s : Octets) : Option Clock :=
  if (s.head?.map isBlank).getD false then
    let s := s.dropWhile isBlank
    if clockLabel.isPrefixOf s then Clock.read? (s.drop clockLabel.length) else none
  else none

/-- The first clock. `fresh` says that a line starts here. -/
def clock? : (fresh : Bool) → Octets → Option Clock
  | _, [] => none
  | fresh, b :: rest =>
    match if fresh then indented? (b :: rest) else none with
    | some c => some c
    | none => clock? (b == lineEnd) rest

/-- The length that a report gives, zero when it gives none. -/
def length (s : Octets) : Int64 := ((clock? true s).bind (·.length?)).getD 0

/-- What stands before a stream. -/
def streamLabel : Octets := Octets.ofString "Stream #"

/-- What says that a stream is video. -/
def videoLabel : Octets := Octets.ofString ": Video:"

/-- Whether the line of a stream, from its number on, says that it is video. -/
def namesVideo : Octets → Bool
  | [] => false
  | b :: rest => !isBlank b && Octets.occursIn videoLabel (rest.takeWhile (· != lineEnd))

/-- Whether a report names a video stream. -/
def hasVideo : Octets → Bool
  | [] => false
  | b :: rest =>
    (streamLabel.isPrefixOf (b :: rest) && namesVideo ((b :: rest).drop streamLabel.length)) || hasVideo rest

/-- What a report says about the input of the given title (`parseFFprobe`). -/
def metadata (title report : Octets) : Metadata :=
  { title, duration := length report, hasVideo := hasVideo report }

end BlitReel.Report
