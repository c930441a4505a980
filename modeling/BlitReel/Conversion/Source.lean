import BlitReel.Failure

/-!
# Sources of pixels (`Source`)

A source delivers raw pixels in pieces of any size until it ends or breaks (`Read`), and says
afterwards how its producer fared (`Wait`).
-/

namespace BlitReel

/-- How a source stops. -/
inductive Ending where
  | finished
  | broken (message : String)
  deriving DecidableEq

/-- What one read gives: some octets and perhaps, together with them, the end. -/
structure Delivery where
  data : Octets
  ending? : Option Ending := none
  deriving DecidableEq

/-- A source: what each read will give, and how the producer exits. When the deliveries run out the
source is finished. -/
structure Source where
  deliveries : List Delivery := []
  exit : Except Failure Unit := .ok ()

namespace Source

/-- The most octets that one read gives. -/
def readSize : Nat := 32768

/-- Octets in pieces of at most `readSize`; no octets are one empty piece. -/
def pieces : Nat → Octets → List Octets
  | 0, s => [s]
  | fuel + 1, s => if s.length ≤ readSize then [s] else s.take readSize :: pieces fuel (s.drop readSize)

/-- Octets in the pieces in which they are read. -/
def cut (s : Octets) : List Octets := pieces (s.length / readSize) s

/-- The source of octets that are all there, read in pieces (`NewReaderSource`). -/
def ofOctets (s : Octets) (exit : Except Failure Unit := .ok ()) : Source :=
  { deliveries := (cut s).map fun data => { data }, exit }

/-- All octets that a source delivers before it ends. -/
def content (s : Source) : Octets := go s.deliveries
where
  go : List Delivery → Octets
    | [] => []
    | d :: rest => d.data ++ (if d.ending?.isSome then [] else go rest)

end Source

end BlitReel
