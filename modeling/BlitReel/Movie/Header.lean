import BlitReel.Movie.Box

/-!
# Movie headers

What is read from a movie file: its header, which gives the length, and its tracks, of which those
with the handler `vide` have pictures. The header's clock counts so many ticks a second, and the length
is computed in 64-bit nanoseconds.
-/

namespace BlitReel.Movie

/-- The clock of a movie. -/
structure Header where
  /-- Ticks in a second. -/
  timescale : UInt32
  /-- The length in ticks. -/
  duration : UInt64
  deriving DecidableEq

namespace Header

/-- The header that the content of a header box spells. -/
def ofContent (content : Octets) : Header :=
  if content.headD 0 == 1 then
    ⟨UInt32.ofNat (bigEndian (slice content 20 4)), UInt64.ofNat (bigEndian (slice content 24 8))⟩
  else ⟨UInt32.ofNat (bigEndian (slice content 12 4)), UInt64.ofNat (bigEndian (slice content 16 4))⟩

/-- The length in nanoseconds; zero when the clock does not run. The product of ticks and
nanoseconds is a 64-bit word. -/
def length (h : Header) : Int64 :=
  if h.timescale == 0 then 0
  else h.duration.toInt64 * 1000000000 / Int64.ofNat h.timescale.toNat

end Header

/-- A track. -/
structure Track where
  /-- What handles its media. -/
  handler? : Option Octets
  /-- The number of entries in the table of its times, if it has one. -/
  times? : Option Nat
  deriving DecidableEq

namespace Track

/-- The track of a track box. -/
def ofBox (b : Box) : Track :=
  let media? := Box.last? "mdia" b.parts
  { handler? := do
      let media ← media?
      let handler ← Box.last? "hdlr" media.parts
      return slice handler.content 8 4
    times? := do
      let media ← media?
      let info ← Box.last? "minf" media.parts
      let samples ← Box.last? "stbl" info.parts
      let times ← Box.last? "stts" samples.parts
      return bigEndian (slice times.content 4 4) }

/-- Whether a track has pictures. -/
def hasVideo (t : Track) : Bool := t.handler? == some (Octets.ofString "vide")

end Track

end Movie

/-- What is read from a movie file. -/
structure Movie where
  header? : Option Movie.Header
  tracks : List Movie.Track
  deriving DecidableEq

namespace Movie

/-- The movie of the boxes in a movie box. -/
def ofParts (parts : List Box) : Movie where
  header? := (Box.last? "mvhd" parts).map fun b => Header.ofContent b.content
  tracks := (parts.filter (·.kind == Octets.ofString "trak")).map Track.ofBox

/-- Whether some track has pictures. -/
def hasVideo (m : Movie) : Bool := m.tracks.any (·.hasVideo)

/-- Whether the media of a movie come in fragments: the table of times of its first track is empty.
A first track without such a table cannot be told. -/
def fragmented (m : Movie) : Except Collapse Bool :=
  match m.tracks.head?.bind (·.times?) with
  | some n => .ok (n == 0)
  | none => .error .absent

/-- What has been seen of a movie file. -/
structure Survey where
  movie? : Option Movie := none
  fragmented : Bool := false
  /-- The length of the media seen last. -/
  media? : Option Nat := none
  /-- The kind of the box seen last. -/
  last : Octets := []

namespace Survey

/-- A file that is not well formed. -/
def broken : Failure := ⟨.movie, malformed⟩

/-- Take in the movie box. -/
def takeMovie (v : Survey) (h : BoxHead) (content : Octets) : Except Failure Survey :=
  match if h.width == 8 then Box.readAll content else none with
  | none => .error broken
  | some parts => do
    let m := ofParts parts
    let fragmented ← m.fragmented.mapError Collapse.toFailure
    return { v with movie? := some m, fragmented := v.fragmented || fragmented }

/-- Take in media: behind a fragment's head when they come in fragments, and otherwise only once. -/
def takeMedia (v : Survey) (length : Nat) : Except Failure Survey :=
  if v.fragmented then if v.last == Octets.ofString "moof" then .ok v else .error broken
  else if v.media?.getD 0 > 0 && length > 0 then .error broken
  else .ok { v with media? := some length }

/-- Take in a box. -/
def take (v : Survey) (h : BoxHead) (content : Octets) : Except Failure Survey := do
  let v ←
    if h.kind == Octets.ofString "moov" then v.takeMovie h content
    else if h.kind == Octets.ofString "mdat" then v.takeMedia content.length
    else if h.kind == Octets.ofString "moof" then pure { v with fragmented := true }
    else pure v
  return { v with last := h.kind }

/-- Take in the boxes that fill `s`. The fuel bounds their number. -/
def takeAll : Nat → Survey → Octets → Except Failure Survey
  | 0, _, _ => .error broken
  | fuel + 1, v, s =>
    if s.isEmpty then .ok v
    else match BoxHead.read? s with
      | none => .error broken
      | some (h, s) =>
        if (h.rest : Int) > maxAllocation then .error Collapse.length.toFailure
        else if h.rest > s.length then .error broken
        else do
          let v ← v.take h (s.take h.rest)
          takeAll fuel v (s.drop h.rest)

end Survey

/-- The movie in a file, if the file has a movie box; the last one counts. -/
def read (s : Octets) : Except Failure (Option Movie) :=
  (Survey.takeAll (s.length / 8 + 1) {} s).map (·.movie?)

end Movie

end BlitReel
