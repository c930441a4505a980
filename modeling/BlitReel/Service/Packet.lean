import BlitReel.Conversion.Run
import BlitReel.Service.Status

/-!
# Packets

What the service sends to its clients: one octet for the kind, then a document.
-/

namespace BlitReel

/-- The kinds of packets. -/
inductive PacketKind where
  | status
  | progress
  | done
  | failed
  deriving DecidableEq

/-- The octet of a kind. -/
def PacketKind.code : PacketKind → UInt8
  | .status => 1
  | .progress => 2
  | .done => 3
  | .failed => 4

/-- A packet. -/
structure Packet where
  kind : PacketKind
  body : String
  deriving DecidableEq

namespace Packet

/-- The octets of a packet, as `broadcastJSON` joins them. -/
def octets (p : Packet) : Octets := p.kind.code :: Octets.ofString p.body

/-- The packet that tells a status. -/
def ofStatus (s : Status) : Packet := ⟨.status, s.text⟩

/-- The packet that reports a frame. -/
def ofProgress (slug : Octets) (p : Progress) : Packet :=
  ⟨.progress, Json.compact (.object [
    ("frame", Json.ofInt p.frame.toInt), ("slug", .string (Utf8.text slug)), ("written", Json.ofInt p.written.toInt)])⟩

/-- The packet that tells of a failed conversion. -/
def ofFailure (slug : Octets) (f : Failure) : Packet :=
  ⟨.failed, Json.compact (.object [("error", .string f.message), ("slug", .string (Utf8.text slug))])⟩

/-- The packet that tells of a conversion that is done; a manifest may have no document. -/
def ofManifest (m : Manifest) : Except Failure Packet :=
  m.toJson.map fun j => ⟨.done, Json.compact j⟩

end Packet

end BlitReel
