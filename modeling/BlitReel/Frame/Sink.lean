import BlitReel.Frame.Basic

/-!
# Writing frames

A sink takes octets until its room is used up; the write that exceeds the room stores what fits and
fails. Frames are written through a buffer of 4096 octets, so that the sink sees few large writes.
`Frame.writeTo` also counts what it handed to the buffer.
-/

namespace BlitReel

/-- Where octets go: what has been stored, and the room that is left unless it is unlimited. -/
structure Sink where
  written : Octets := []
  room : Option Nat := none
  deriving DecidableEq

namespace Sink

/-- Store what fits. The result says how many octets were stored and whether that was all. -/
def accept (s : Sink) (p : Octets) : Sink × Nat × Bool :=
  match s.room with
  | none => ({ s with written := s.written ++ p }, p.length, true)
  | some room =>
    if p.length ≤ room then (⟨s.written ++ p, some (room - p.length)⟩, p.length, true)
    else (⟨s.written ++ p.take room, some 0⟩, room, false)

end Sink

/-- A sink behind a buffer. After the sink has failed nothing more is written. -/
structure BufferedSink where
  sink : Sink
  pending : Octets := []
  failed : Bool := false
  deriving DecidableEq

namespace BufferedSink

/-- The octets that the buffer holds. -/
def capacity : Nat := 4096

/-- Hand the buffered octets to the sink. -/
def flush (b : BufferedSink) : BufferedSink :=
  if b.failed || b.pending.isEmpty then b
  else
    let (sink, n, ok) := b.sink.accept b.pending
    if ok then ⟨sink, [], false⟩ else ⟨sink, b.pending.drop n, true⟩

/-- Take octets in when nothing is buffered: more than the buffer holds goes to the sink at once. The
result says how many were taken. -/
def takeFresh (b : BufferedSink) (p : Octets) : BufferedSink × Nat :=
  if p.length ≤ capacity then ({ b with pending := p }, p.length)
  else
    let (sink, n, ok) := b.sink.accept p
    (⟨sink, [], !ok⟩, n)

/-- Take octets in; the result says how many were taken. Octets that the buffer has no room for fill it
up first, and the rest is taken in after the buffer was handed over. -/
def write (b : BufferedSink) (p : Octets) : BufferedSink × Nat :=
  if b.failed then (b, 0)
  else if b.pending.isEmpty then b.takeFresh p
  else if b.pending.length + p.length ≤ capacity then ({ b with pending := b.pending ++ p }, p.length)
  else
    let n := capacity - b.pending.length
    let b := { b with pending := b.pending ++ p.take n }.flush
    if b.failed then (b, n)
    else
      let (b, m) := b.takeFresh (p.drop n)
      (b, n + m)

/-- Take one octet in; a full buffer is handed over before. The result says how many were taken. -/
def put (b : BufferedSink) (octet : UInt8) : BufferedSink × Nat :=
  if b.failed then (b, 0)
  else
    let b := if capacity ≤ b.pending.length then b.flush else b
    if b.failed then (b, 0) else ({ b with pending := b.pending ++ [octet] }, 1)

end BufferedSink

namespace Frame

/-- Write the rows from the second on, each after a line feed, and count on from `total`. -/
def writeRows : List Octets → BufferedSink → Nat → BufferedSink × Nat
  | [], b, total => (b, total)
  | row :: rest, b, total =>
    let (b, n) := b.put 0x0A
    if b.failed then (b, total + n)
    else
      let (b, m) := b.write row
      if b.failed then (b, total + n + m) else writeRows rest b (total + n + m)

/-- Write the header and the rows into a buffer, and count what it takes. -/
def writeParts (f : Frame) (b : BufferedSink) : BufferedSink × Nat :=
  let (b, n) := b.write f.header
  if b.failed then (b, n)
  else match f.rows with
    | [] => (b, n)
    | row :: rest =>
      let (b, m) := b.write row
      if b.failed then (b, n + m) else writeRows rest b (n + m)

/-- Write a frame to a sink: the sink afterwards, the count of octets and whether all went well. -/
def writeTo (f : Frame) (sink : Sink) : Sink × Nat × Bool :=
  let (b, total) := f.writeParts ⟨sink, [], false⟩
  let b := b.flush
  (b.sink, total, !b.failed)

/-- A frame as it arrives in a sink that takes everything. -/
def bytes (f : Frame) : Octets := (f.writeTo {}).1.written

end Frame

end BlitReel
