import BlitReel.Conversion.Source
import BlitReel.Decoder
import BlitReel.Host.Basic
import BlitReel.TailBuffer
import BlitReel.Text.Blank

/-!
# The decoder on a host

The decoder is the program that the caller names, or the environment, or the one in the search
directory, or one in a usual place. Its output is a source of pixels; when it fails, the end of what it
printed goes into the failure.
-/

namespace BlitReel.Host

/-- A decoder that cannot be had, for a reason. -/
def decoderNotFound (reason : String) : Failure := ⟨.decoderNotFound, "nfp: ffmpeg not found" ++ reason⟩

/-- Where decoders are usually installed. -/
def usualPlaces : List String :=
  ["/usr/bin/ffmpeg", "/usr/local/bin/ffmpeg", "/opt/homebrew/bin/ffmpeg", "/snap/bin/ffmpeg"]

/-- The decoder to run. A decoder that is named must exist, or none is found. -/
def findDecoder (h : Host) (custom : Octets) : Except Failure Octets :=
  let given (what : String) (path : Octets) : Except Failure Octets :=
    match h.tree.stat path with
    | .ok _ => .ok path
    | .error _ => .error (decoderNotFound (": " ++ what ++ " " ++ Utf8.text path ++ " not found"))
  if !custom.isEmpty then given "custom path" custom
  else if !h.decoderHint.isEmpty then given "FFMPEG_PATH" h.decoderHint
  else match h.search? (Octets.ofString "ffmpeg") with
    | some path => .ok path
    | none =>
      match (usualPlaces.map Octets.ofString).find? fun p => (h.tree.stat p).isOk with
      | some path => .ok path
      | none => .error (decoderNotFound "")

/-- How much of the end of the decoder's error output is kept. -/
def tailLimit : Int64 := 4096

/-- What is kept of the decoder's error output. -/
def tailOf (stderr : Octets) : Octets :=
  match ({ limit := tailLimit } : TailBuffer).write stderr with
  | .ok (_, t) => Blank.trim t.content
  | .error _ => []

/-- How a decoder fared. -/
def decoderExit (p : Program) : Except Failure Unit :=
  if p.exit == 0 then .ok () else .error (Failure.decoderExit p.exit (tailOf p.stderr))

/-- Start the decoder. -/
def startDecoder (h : Host) (o : DecoderOptions) (cancelled : Bool) : Host × Except Failure Source :=
  match do o.validate; h.findDecoder o.program with
  | .error f => (h, .error f)
  | .ok path =>
    match h.start path o.arguments cancelled with
    | (h, .error f) => (h, .error (decoderNotFound (": start: " ++ f.message)))
    | (h, .ok p) =>
      let h := if o.debug then { h with echoed := h.echoed ++ p.stderr } else h
      (h, .ok (Source.ofOctets p.stdout (decoderExit p)))

end BlitReel.Host
