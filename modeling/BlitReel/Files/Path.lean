import BlitReel.Text.Octets

/-!
# Paths

A path is a text of components between slashes. `Path.clean` is its shortest equivalent: no empty
or `.` component, and `..` only where nothing is left to go back over.
-/

namespace BlitReel.Path

/-- The octet between components. -/
def slash : UInt8 := 0x2F

/-- The component for the same place. -/
def here : Octets := [0x2E]

/-- The component for the place above. -/
def up : Octets := [0x2E, 0x2E]

/-- The components of a path, empty ones included. -/
def components (p : Octets) : List Octets := Octets.splitOn slash p

/-- Components joined by slashes. -/
def joinComponents (cs : List Octets) : Octets := (cs.intersperse [slash]).flatten

/-- Whether a path starts at the root. -/
def isRooted (p : Octets) : Bool := p.head? == some slash

/-- Fold one component into a cleaned path that is kept in reverse. -/
def cleanStep (rooted : Bool) (done : List Octets) (c : Octets) : List Octets :=
  if c.isEmpty || c == here then done
  else if c == up then
    match done with
    | last :: rest => if last == up then up :: done else rest
    | [] => if rooted then [] else [up]
  else c :: done

/-- The shortest equivalent of a path; `.` when nothing is left. -/
def clean (p : Octets) : Octets :=
  let body := joinComponents ((components p).foldl (cleanStep (isRooted p)) []).reverse
  if isRooted p then slash :: body
  else if body.isEmpty then here
  else body

/-- Join paths: empty ones in front are skipped and the result is cleaned; nothing joined is
empty. -/
def join (ps : List Octets) : Octets :=
  match ps.dropWhile List.isEmpty with
  | [] => []
  | ps => clean (joinComponents ps)

/-- A path without the slashes at its end. -/
def dropSlashes (p : Octets) : Octets := (p.reverse.dropWhile (· == slash)).reverse

/-- The last component; `.` for the empty path and a slash for a path of slashes only. -/
def base (p : Octets) : Octets :=
  if p.isEmpty then here
  else match dropSlashes p with
    | [] => [slash]
    | q => (q.reverse.takeWhile (· != slash)).reverse

/-- All but the last component, cleaned. -/
def dir (p : Octets) : Octets := clean (p.reverse.dropWhile (· != slash)).reverse

/-- The end of the last component from its last dot on; empty without a dot. -/
def extension (p : Octets) : Octets :=
  let last := (p.reverse.takeWhile (· != slash))
  if last.contains 0x2E then 0x2E :: (last.takeWhile (· != 0x2E)).reverse else []

end BlitReel.Path
