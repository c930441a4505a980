import BlitReel.Frame.Basic
import BlitReel.Number.Numeral
import BlitReel.Text.Blank

/-!
# Reading frames

A frame is read line by line: a header of two words and then rows that have the width of the header
and consist of digits. Lines end with a line feed, before which one carriage return is dropped, and
must be shorter than 2^20 octets.
-/

namespace BlitReel.Frame

/-- Lines of this length or more are not read. -/
def maxLine : Nat := 1048576

/-- What stops a reading. -/
inductive ParseFault where
  | lineTooLong
  | noHeader
  | badHeader (line : Octets)
  | badWidth (word : Octets) (f : Numeral.Fault)
  | badHeight (word : Octets) (f : Numeral.Fault)
  | rowLength (row length : Nat) (want : Int64)
  | rowDigit (row : Nat) (digit : UInt8)
  | rowCount (got : Nat) (want : Int64)
  deriving DecidableEq

/-- The wording of a refused whole number. -/
def numeralMessage (word : Octets) (f : Numeral.Fault) : String :=
  "strconv.Atoi: parsing " ++ Quoted.octets word ++ ": " ++ f.message

/-- The wording of a fault. -/
def ParseFault.message : ParseFault → String
  | .lineTooLong => "bufio.Scanner: token too long"
  | .noHeader => "nfp: ParseFrame: missing header"
  | .badHeader line => "nfp: ParseFrame: malformed header " ++ Quoted.octets line
  | .badWidth word f => "nfp: ParseFrame: bad width: " ++ numeralMessage word f
  | .badHeight word f => "nfp: ParseFrame: bad height: " ++ numeralMessage word f
  | .rowLength row length want =>
    s!"nfp: ParseFrame: row {row} has {length} columns, want {want.toInt}"
  | .rowDigit row digit => s!"nfp: ParseFrame: row {row} has invalid digit " ++ Quoted.octet digit
  | .rowCount got want => s!"nfp: ParseFrame: got {got} rows, want {want.toInt}"

/-- A line without one carriage return at its end. -/
def dropReturn (line : Octets) : Octets :=
  if line.getLast? == some 0x0D then line.dropLast else line

/-- The pieces between line feeds, without a final empty one. -/
def rawLines (data : Octets) : List Octets :=
  let parts := Octets.splitOn 0x0A data
  if parts.getLast? == some [] then parts.dropLast else parts

/-- A line as it is read, if it is short enough. -/
def readLine (line : Octets) : Except ParseFault Octets :=
  if line.length ≥ maxLine then .error .lineTooLong else .ok (dropReturn line)

/-- Width and height from the header line. -/
def parseHeader (line : Octets) : Except ParseFault (Int64 × Int64) :=
  match Blank.words line with
  | [w, h] => do
    let width ← (Numeral.readInt w).mapError (.badWidth w)
    let height ← (Numeral.readInt h).mapError (.badHeight h)
    return (width, height)
  | _ => .error (.badHeader line)

/-- A row has the width of the header and digits only. -/
def checkRow (width : Int64) (number : Nat) (row : Octets) : Except ParseFault Unit :=
  if (row.length : Int) ≠ width.toInt then .error (.rowLength number row.length width)
  else match row.find? fun b => !Palette.isDigit b with
    | some b => .error (.rowDigit number b)
    | none => .ok ()

/-- The rows of the lines after the header, put in front of `done` in reverse. -/
def parseRows (width : Int64) : List Octets → Nat → List Octets → Except ParseFault (List Octets)
  | [], _, done => .ok done
  | line :: rest, count, done =>
    match readLine line with
    | .error f => .error f
    | .ok row =>
      match checkRow width (count + 1) row with
      | .error f => .error f
      | .ok () => parseRows width rest (count + 1) (row :: done)

/-- Read a frame. -/
def parse (data : Octets) : Except ParseFault Frame := do
  match rawLines data with
  | [] => throw .noHeader
  | first :: rest =>
    let line ← readLine first
    let (width, height) ← parseHeader line
    let rows ← parseRows width rest 0 []
    if (rows.length : Int) ≠ height.toInt then throw (.rowCount rows.length height)
    return ⟨width, height, rows.reverse⟩

end BlitReel.Frame
