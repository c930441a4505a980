import BlitReel.Frame.Basic

/-!
# Frame assembler

Cuts a stream of octets that arrives in chunks of any length into frames of a fixed size. The
octets of frames already taken stay in front of the buffer until the next chunk arrives; what is
still waiting is `Assembler.pending`.
-/

namespace BlitReel

/-- A buffer whose first `consumed` octets belong to frames already taken. -/
structure Assembler where
  frameSize : Nat
  buffer : Octets := []
  consumed : Nat := 0
  emitted : Nat := 0
  deriving DecidableEq

namespace Assembler

/-- An empty assembler for frames of a positive size for which twice the room can be had. -/
def new (frameSize : Int64) : Except Collapse Assembler :=
  if frameSize ≤ 0 then .error (.words "nfp: NewAssembler: frame size must be positive")
  else if (frameSize * 2).toInt < 0 ∨ (frameSize * 2).toInt > maxAllocation then .error .capacity
  else .ok { frameSize := frameSize.toInt.toNat }

/-- The octets that wait for a frame to complete. -/
def pending (a : Assembler) : Octets := a.buffer.drop a.consumed

/-- How many octets wait. -/
def buffered (a : Assembler) : Nat := a.buffer.length - a.consumed

/-- Append a chunk, dropping consumed octets first. -/
def write (a : Assembler) (chunk : Octets) : Assembler :=
  let kept := if a.consumed > 0 then a.buffer.drop a.consumed else a.buffer
  { a with buffer := kept ++ chunk, consumed := 0 }

/-- Take the next complete frame. Frames are numbered from one. -/
def next (a : Assembler) : Option RawFrame × Assembler :=
  if a.buffer.length - a.consumed < a.frameSize then (none, a)
  else
    let pix := (a.buffer.drop a.consumed).take a.frameSize
    let consumed := a.consumed + a.frameSize
    let a' := if consumed == a.buffer.length then { a with buffer := [], consumed := 0 }
      else { a with consumed }
    (some ⟨Int64.ofNat (a.emitted + 1), pix⟩, { a' with emitted := a.emitted + 1 })

/-- Take at most `fuel` frames, put in front of `done` in reverse. -/
def takeFrames : Nat → Assembler → List RawFrame → List RawFrame × Assembler
  | 0, a, done => (done.reverse, a)
  | fuel + 1, a, done =>
    match a.next with
    | (some f, a) => takeFrames fuel a (f :: done)
    | (none, a) => (done.reverse, a)

/-- Take all complete frames. -/
def drain (a : Assembler) : List RawFrame × Assembler := takeFrames (a.buffered + 1) a []

/-- Octets at the end of a stream that are too few for a frame. -/
structure TruncatedTail where
  residual : Nat
  frameSize : Nat
  deriving DecidableEq

/-- A truncated tail as a failure. -/
def TruncatedTail.toFailure (t : TruncatedTail) : Failure :=
  ⟨.truncatedTail, s!"nfp: truncated frame at end of stream: {t.residual} of {t.frameSize} bytes"⟩

/-- End the stream. What was waiting is discarded and reported. -/
def close (a : Assembler) : Option TruncatedTail × Assembler :=
  let residual := a.buffered
  (if residual > 0 then some ⟨residual, a.frameSize⟩ else none, { a with buffer := [], consumed := 0 })

/-- What an assembler can be asked to do. -/
inductive Call where
  | write (chunk : Octets)
  | next
  | close
  deriving DecidableEq

/-- What an assembler answers. -/
inductive Answer where
  /-- So many octets were accepted. -/
  | accepted (count : Nat)
  /-- The next frame, if one is complete. -/
  | frame (raw? : Option RawFrame)
  /-- The stream is over, with what was too little for a frame. -/
  | closed (tail? : Option TruncatedTail)
  deriving DecidableEq

/-- Do what is asked. A chunk is always accepted as a whole. -/
def call (a : Assembler) : Call → Answer × Assembler
  | .write chunk => (.accepted chunk.length, a.write chunk)
  | .next => (.frame a.next.1, a.next.2)
  | .close => (.closed a.close.1, a.close.2)

end Assembler

end BlitReel
