import BlitReel.Host.Basic
import BlitReel.Journal.Console

/-!
# How a program ends

What is left when a program has run: its exit code, the host as it left it, what its console wrote and
what it complained about.
-/

namespace BlitReel

/-- How a program ended. -/
structure Exit where
  code : Nat := 0
  host : Host
  /-- What the console wrote. -/
  shown : Streams := {}
  /-- What the program itself wrote about its command line. -/
  complaint : String := ""
  /-- Whether it explained its use. -/
  usage : Bool := false
  /-- What ended the program before its time. -/
  collapse? : Option Failure := none

end BlitReel
