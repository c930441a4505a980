import BlitReel.Journal.Lexicon

/-!
# The console

A console shows the notes that are severe enough, one a line, in the reader's language. Warnings
and errors go to the error stream, everything else to the output stream.
-/

namespace BlitReel

/-- What a program has written to its two streams. -/
structure Streams where
  out : String := ""
  err : String := ""
  deriving DecidableEq, Inhabited

namespace Streams

/-- With more written after. -/
def append (a b : Streams) : Streams := ⟨a.out ++ b.out, a.err ++ b.err⟩

end Streams

/-- How notes are shown. -/
structure Console where
  /-- Notes below this level are not shown. -/
  threshold : Level
  colour : Bool := false
  language : String := "en"

namespace Console

/-- The terminal sequence that selects a rendition. -/
def rendition (code : String) : String := "\x1b[" ++ code ++ "m"

/-- The colour of a whole line. -/
def lineColour? : Level → Option String
  | .debug => some "90"
  | .warn => some "33"
  | .error => some "31"
  | _ => none

/-- A text in a colour. -/
def painted (code text : String) : String := rendition code ++ text ++ rendition "0"

/-- The line that shows a note. -/
def line (c : Console) (n : Note) : String :=
  let text := Template.fill (Lexicon.templateIn c.language n.template) n.values
  let tag := "[" ++ n.component ++ "]"
  let tag := if c.colour then painted "36" tag else tag
  let text := if n.component.isEmpty then text else tag ++ " " ++ text
  match lineColour? n.level with
  | some code => if c.colour then painted code text else text
  | none => text

/-- What a note adds to the streams. -/
def shown (c : Console) (n : Note) : Streams :=
  if n.level.number < c.threshold.number then {}
  else if n.level.number ≥ Level.warn.number then { err := c.line n ++ "\n" }
  else { out := c.line n ++ "\n" }

/-- The streams after all notes. -/
def showAll (c : Console) (j : Journal) : Streams :=
  j.foldl (fun s n => s.append (c.shown n)) {}

end Console

end BlitReel
