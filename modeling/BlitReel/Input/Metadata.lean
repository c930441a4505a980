import BlitReel.Input.Name
import BlitReel.Timestamp

/-!
# What is known about an input

Before an input is converted its title, its length and whether it has pictures may be known. A
length of zero means that none could be read.
-/

namespace BlitReel

/-- What is known about an input. -/
structure Metadata where
  title : Octets
  /-- The length in nanoseconds. -/
  duration : Int64 := 0
  hasVideo : Bool := false
  deriving DecidableEq, Inhabited

end BlitReel
