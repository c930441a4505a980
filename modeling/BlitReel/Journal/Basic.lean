import BlitReel.Template.Basic

/-!
# The journal

What a run has to say is a list of notes. A note keeps its template and values apart, because the
template is also the key under which a wording in another language is found.
-/

namespace BlitReel

/-- How severe a note is. The last level is for listening only: no note has it. -/
inductive Level where
  | debug
  | info
  | warn
  | error
  | quiet
  deriving DecidableEq, Inhabited

namespace Level

/-- The number of a level; a greater one is more severe. -/
def number : Level → Nat
  | .debug => 0
  | .info => 1
  | .warn => 2
  | .error => 3
  | .quiet => 4

/-- All levels, by number. -/
def all : List Level := [.debug, .info, .warn, .error, .quiet]

/-- The level with a number. -/
def ofNumber? (n : Int64) : Option Level := all.find? fun l => (l.number : Int) == n.toInt

/-- The name of a level. -/
def name : Level → String
  | .debug => "debug"
  | .info => "info"
  | .warn => "warn"
  | .error => "error"
  | .quiet => "quiet"

/-- The name of the level with a number, whether there is one or not. -/
def nameOfNumber (n : Int64) : String := ((ofNumber? n).map name).getD "unknown"

/-- The level with a name; any other word means `info`. -/
def ofName (s : Octets) : Level := (all.find? fun l => Octets.ofString l.name == s).getD .info

end Level

/-- An entry of the journal. -/
structure Note where
  level : Level
  /-- The part of the program that speaks; empty when it is the program itself. -/
  component : String := ""
  template : String
  values : List Template.Value := []

namespace Note

/-- The wording of a note in English. -/
def message (n : Note) : String := Template.fill n.template n.values

/-- The same note, spoken by a component. -/
def spokenBy (component : String) (n : Note) : Note := { n with component }

end Note

/-- What was said so far, oldest first. -/
abbrev Journal := List Note

namespace Journal

/-- How many notes have a level. -/
def count (j : Journal) (l : Level) : Nat := j.countP (·.level == l)

end Journal

end BlitReel
