import BlitReel.Conversion.Basic
import BlitReel.Host.Decoder
import BlitReel.Input.Download
import BlitReel.Input.Probe
import BlitReel.Input.Still

/-!
# Opening inputs

An input is an address, `-` for standard input, a still picture or a file that the decoder reads. All
but stills go through the decoder. Metadata are given when they can be had.
-/

namespace BlitReel.Input

/-- An open input. -/
structure Opened where
  source : Source
  metadata? : Option Metadata := none

/-- Open a file that the decoder reads. That nothing can be found out about it is no reason to fail. -/
def openFile (h : Host) (input : Octets) (o : DecoderOptions) (cancelled : Bool) : Host × Except Failure Opened :=
  match h.tree.stat input with
  | .error r => (h, .error (r.on "stat" input))
  | .ok _ =>
    let go (h : Host) (metadata? : Option Metadata) : Host × Except Failure Opened :=
      let (h, s) := h.startDecoder { o with input, fromStdin := false } cancelled
      (h, s.map fun source => { source, metadata? })
    match probe h input with
    | (h, .ok m) => go h (some m)
    | (h, .error f) => if f.cause == .collapse then (h, .error f) else go h none

/-- Open an input (`Open`). `cancelled` says that the caller has been called off. -/
def openNamed (h : Host) (input : Octets) (o : DecoderOptions) (cancelled : Bool) : Host × Except Failure Opened :=
  let piped := { o with input := [], fromStdin := true }
  if isUrl input then
    match startDownload h input cancelled with
    | (h, .error f) => (h, .error f)
    | (h, .ok m) =>
      let (h, s) := h.startDecoder piped cancelled
      (h, s.map fun source => { source, metadata? := some m })
  else if input == Octets.ofString "-" then
    let (h, s) := h.startDecoder piped cancelled
    (h, s.map fun source => { source })
  else if isStill input then
    (h, (openStill h.tree input o.geometry h.codecs).map fun source =>
      { source, metadata? := some { title := title input } })
  else openFile h input o cancelled

/-- Open an input and convert it (`ConvertInput`). -/
def convertNamed (h : Host) (c : Conditions) (input : Octets) (d : DecoderOptions) (o : ConversionOptions)
    (cancelled : Bool) : Host × Conversion.Outcome :=
  match openNamed h input d cancelled with
  | (h, .error f) => (h, { tree := h.tree, result := .error f })
  | (h, .ok opened) =>
    let out := Conversion.convert c h.tree opened.source o cancelled
    ({ h with tree := out.tree }, out)

end BlitReel.Input
