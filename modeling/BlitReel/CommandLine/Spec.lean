import BlitReel.CommandLine.Distance
import BlitReel.Number.Numeral
import BlitReel.Text.Quoted

/-!
# Command lines

What a program takes on its command line: flags, which have a long name and perhaps a short one, and
operands, which are told apart by their places. `CommandLine.Fault` says what can be wrong with a
command line, in words for the user.
-/

namespace BlitReel.CommandLine

/-- What a flag takes. -/
inductive ValueKind where
  /-- Nothing, or a truth value behind an equals sign. -/
  | switch
  | int
  | float
  | text
  deriving DecidableEq

/-- The word for what a flag takes. -/
def ValueKind.word : ValueKind → String
  | .switch => "bool"
  | .int => "int"
  | .float => "float"
  | .text => "string"

/-- What a flag was given. -/
inductive Value where
  | switch (b : Bool)
  | int (n : Int64)
  | float (x : Float)
  | text (s : Octets)

/-- A flag. -/
structure Flag where
  name : String
  kind : ValueKind
  short? : Option Char := none
  deriving DecidableEq

namespace Flag

/-- The long spelling of a flag. -/
def long (f : Flag) : String := "--" ++ f.name

/-- The short spelling of a flag. -/
def shortSpelling? (f : Flag) : Option String := f.short?.map fun c => "-" ++ String.singleton c

/-- The spellings of a flag. -/
def spellings (f : Flag) : List String := f.long :: f.shortSpelling?.toList

end Flag

/-- An operand. -/
structure Operand where
  name : String
  required : Bool := true
  deriving DecidableEq

/-- What a program takes. -/
structure Spec where
  flags : List Flag
  operands : List Operand := []

/-- The flag that every program takes. -/
def helpFlag : Flag := { name := "help", kind := .switch, short? := some 'h' }

/-- All flags of a program. -/
def Spec.allFlags (s : Spec) : List Flag := helpFlag :: s.flags

/-- How a program is used, in one line. -/
def Spec.usage (s : Spec) (program : String) : String :=
  let operands := s.operands.map fun o => if o.required then " <" ++ o.name ++ ">" else " [<" ++ o.name ++ ">]"
  "Usage: " ++ program ++ String.join operands ++ " [flags]"

/-- What is wrong with a command line. -/
inductive Fault where
  /-- A flag that the program does not have, and those that may have been meant. -/
  | unknownFlag (spelling : Octets) (close : List String)
  /-- One operand too many. -/
  | unexpected (argument : Octets)
  /-- A flag without its value: nothing follows, or something that looks like a flag. -/
  | noValue (flag : Flag) (found? : Option Octets)
  /-- A value that does not fit its flag. -/
  | badValue (flag : Flag) (value : Octets)
  /-- Operands that are missing. -/
  | missing (names : List String)

namespace Fault

/-- The suggestion of names that may have been meant. -/
def suggestion : List String → String
  | [] => ""
  | [name] => ", did you mean " ++ Quoted.text name ++ "?"
  | names => ", did you mean one of " ++ ", ".intercalate (names.map Quoted.text) ++ "?"

/-- What kind of flag a text looks like. -/
def flagKind (s : Octets) : String :=
  if (Octets.ofString "--").isPrefixOf s then "long flag" else "short flag"

/-- Lower case of the characters in a value. -/
def lower (s : Octets) : String := String.ofList ((Utf8.text s).toList.map Char.toLower)

/-- The wording of a fault. -/
def message : Fault → String
  | .unknownFlag spelling close => "unknown flag " ++ Utf8.text spelling ++ suggestion close
  | .unexpected argument => "unexpected argument " ++ Utf8.text argument
  | .noValue f none => f.long ++ ": expected " ++ f.kind.word ++ " value but got \"EOL\" (<EOL>)"
  | .noValue f (some s) =>
    f.long ++ ": expected " ++ f.kind.word ++ " value but got " ++ Quoted.octets s ++ " (" ++ flagKind s
      ++ "); perhaps try " ++ f.long ++ "=" ++ Quoted.octets s ++ "?"
  | .badValue f s =>
    f.long ++ ": " ++ match f.kind with
      | .switch => "bool value must be true, 1, yes, false, 0 or no but got " ++ Quoted.text (lower s)
      | .int => "expected a valid 64 bit int but got " ++ Quoted.octets s
      | .float => "expected a float but got " ++ Quoted.octets s ++ " (string)"
      | .text => "expected a string but got " ++ Quoted.octets s
  | .missing names => "expected " ++ Quoted.text (" ".intercalate (names.map fun n => "<" ++ n ++ ">"))

end Fault

/-- The value that a text is for a flag. -/
def Flag.read (f : Flag) (s : Octets) : Except Fault Value :=
  match f.kind with
  | .switch =>
    if ["true", "1", "yes"].contains (Fault.lower s) then .ok (.switch true)
    else if ["false", "0", "no"].contains (Fault.lower s) then .ok (.switch false)
    else .error (.badValue f s)
  | .int => ((Numeral.readInt s).mapError fun _ => .badValue f s).map .int
  | .float => ((Numeral.readFloat s).mapError fun _ => .badValue f s).map .float
  | .text => .ok (.text (Octets.ofString (Utf8.text s)))

end BlitReel.CommandLine
