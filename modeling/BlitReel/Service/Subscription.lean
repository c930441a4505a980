import BlitReel.Json.Fields
import BlitReel.Json.Reader

/-!
# Subscriptions

A client of the service says with a control message which packets it wants: a set of flags. A packet
goes to the clients that have all flags it asks for, so one that asks for none goes to all.
-/

namespace BlitReel

/-- A set of kinds of packets. -/
structure Subscription where
  flags : UInt32 := 0
  deriving DecidableEq

namespace Subscription

/-- Reports of frames. -/
def progress : Subscription := ⟨1⟩

/-- Changes of the status. -/
def status : Subscription := ⟨2⟩

/-- What every client gets. -/
def everyone : Subscription := ⟨0⟩

/-- Whether `owned` contains all of `want` (`IsSubscribedTo`). -/
def covers (owned want : Subscription) : Bool := owned.flags &&& want.flags == want.flags

end Subscription

/-- A message by which a client names itself and subscribes. -/
structure ControlMessage where
  id : Octets := []
  subscription : Subscription := {}
  deriving DecidableEq

namespace ControlMessage

/-- Set the field that a member names. -/
def setField (c : ControlMessage) (key : String) (v : Json) : Option ControlMessage :=
  if Json.namesField key "id" then (Json.textOver c.id v).map fun id => { c with id }
  else if Json.namesField key "subscription" then
    (Json.word32Over c.subscription.flags v).map fun flags => { c with subscription := ⟨flags⟩ }
  else some c

/-- The message that octets spell. -/
def read? (data : Octets) : Option ControlMessage := do
  let j ← (Json.read data).toOption
  let f := Json.fill {} setField j
  if f.sound then some f.value else none

end ControlMessage

end BlitReel
