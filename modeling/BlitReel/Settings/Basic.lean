import BlitReel.Geometry
import BlitReel.Number.Layout

/-!
# Settings

What a conversion and the server are set to: grid, rate, slug, cut, workers, decoder, log, preview
and where to listen and store.
-/

namespace BlitReel

/-- The settings of a conversion and of the server. -/
structure Settings where
  width : Int64 := 26
  height : Int64 := 20
  fps : Float := 10
  slug : Octets := Octets.ofString "video"
  start : Octets := []
  duration : Octets := []
  /-- `none` stands for the number of processors. -/
  workers : Option Int64 := none
  ffmpegPath : Octets := []
  logLevel : Octets := Octets.ofString "info"
  debug : Bool := false
  preview : Bool := false
  previewScale : Int64 := 8
  listen : Octets := Octets.ofString ":9999"
  root : Octets := Octets.ofString "videos"

namespace Settings

/-- The grid. -/
def geometry (s : Settings) : Geometry := ⟨s.width, s.height⟩

/-- What is wrong with settings. -/
inductive Fault where
  | geometry (f : Geometry.Fault)
  | fps (x : Float)
  | workers (n : Int64)
  | previewScale (n : Int64)

/-- The wording of a fault. -/
def Fault.message : Fault → String
  | .geometry f => "config: " ++ f.reason
  | .fps x => "config: fps must be a positive finite number, got " ++ NumberLayout.message.write x
  | .workers n => s!"config: workers must not be negative, got {n.toInt}"
  | .previewScale n => s!"config: preview_scale must not be negative, got {n.toInt}"

/-- Whether a rate is a positive finite number. -/
def isRate (x : Float) : Bool := x > 0.0 && Binary64.isFinite x

/-- The grid and the rate are usable and no count is negative. -/
def check (s : Settings) : Except Fault Unit := do
  s.geometry.check.mapError .geometry
  if !isRate s.fps then throw (.fps s.fps)
  match s.workers with
  | some n => if n < 0 then throw (.workers n)
  | none => pure ()
  if s.previewScale < 0 then throw (.previewScale s.previewScale)

/-- `check` with a failure for its fault. -/
def validate (s : Settings) : Except Failure Unit := s.check.mapError fun f => .plain f.message

/-- Octets that a slug may contain. -/
def isSlugOctet (b : UInt8) : Bool :=
  Octets.isLetter b || Octets.isDigit b || b == 0x2E || b == 0x5F || b == 0x2D

/-- A slug names a directory: letters, digits, dots, underscores and dashes, the first of them a
letter or digit. -/
def validSlug (s : Octets) : Bool :=
  match s with
  | [] => false
  | b :: rest => (Octets.isLetter b || Octets.isDigit b) && rest.all isSlugOctet

end Settings

end BlitReel
