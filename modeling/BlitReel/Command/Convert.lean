import BlitReel.Command.Announcement
import BlitReel.Command.Exit
import BlitReel.CommandLine.Reading
import BlitReel.Input.Open
import BlitReel.Settings.File
import BlitReel.Settings.Options

/-!
# The converter

The program that converts one input. Its settings are the defaults, with those of a settings file over
them and those of the command line over both. What it does it writes to the console.
-/

namespace BlitReel.Command.Convert

open CommandLine (Flag Operand Spec Reading)

/-- The command line of the converter. -/
def spec : Spec where
  flags := [
    { name := "width", kind := .int }, { name := "height", kind := .int }, { name := "fps", kind := .float },
    { name := "slug", kind := .text }, { name := "start", kind := .text }, { name := "duration", kind := .text },
    { name := "config", kind := .text }, { name := "workers", kind := .int }, { name := "preview", kind := .switch },
    { name := "ffmpeg", kind := .text }, { name := "debug", kind := .switch, short? := some 'd' },
    { name := "log-level", kind := .text, short? := some 'l' },
    { name := "quiet", kind := .switch, short? := some 'q' }]
  operands := [{ name := "input" }, { name := "output" }]

/-- Settings with those of the command line over them. The debug switch sets the log level, which a
log level on the command line overrides. -/
def layer (r : Reading) (s : Settings) : Settings :=
  let debug := r.isOn "debug"
  let program := (r.text? "ffmpeg").getD []
  { s with
    width := (r.int? "width").getD s.width
    height := (r.int? "height").getD s.height
    fps := (r.float? "fps").getD s.fps
    slug := (r.text? "slug").getD s.slug
    start := (r.text? "start").getD s.start
    duration := (r.text? "duration").getD s.duration
    workers := (r.int? "workers").or s.workers
    preview := s.preview || r.isOn "preview"
    ffmpegPath := if program.isEmpty then s.ffmpegPath else program
    debug := s.debug || debug
    logLevel := (r.text? "log-level").getD (if debug then Octets.ofString "debug" else s.logLevel) }

/-- A time must be readable, unless it is empty. -/
def checkTime (s : Octets) : Except Failure Unit :=
  if s.isEmpty then .ok () else ((Timestamp.parse s).mapError fun f => Failure.plain f.message).map fun _ => ()

/-- The settings are valid and their times readable. -/
def check (s : Settings) : Except Failure Unit := do
  s.validate
  checkTime s.start
  checkTime s.duration

/-- The settings of a run, and whether they will do. -/
def settings (t : FileTree) (r : Reading) : Settings × Except Failure Unit :=
  let file := (r.text? "config").getD []
  let (base, loaded) := if file.isEmpty then ({}, .ok ()) else Settings.load t file
  match loaded with
  | .error f => (base, .error f)
  | .ok () =>
    let s := layer r base
    (s, check s)

/-- What happened when an input was converted. -/
structure Course where
  host : Host
  /-- What was noted before the conversion began. -/
  opening : Journal := []
  /-- What programs wrote meanwhile for the user to see. -/
  echoed : Octets := []
  /-- What was noted from then on. -/
  closing : Journal := []
  code : Nat := 1
  collapse? : Option Failure := none

/-- A note without a component. -/
def noteOf (level : Level) (template : String) (values : List Template.Value) : Note :=
  { level, template, values }

/-- What is noted about an input that cannot be opened. -/
def openFailure (input : Octets) (f : Failure) : Note :=
  if f.cause == .decoderNotFound then noteOf .error "ffmpeg not found in PATH. Please install ffmpeg." []
  else noteOf .error "Failed to open %s: %s" [.text (Utf8.text input), .text f.message]

/-- What is noted about a conversion that failed. -/
def conversionFailure (f : Failure) : Journal :=
  match f.cause with
  | .decoderExit code stderr =>
    noteOf .error "ffmpeg exited with code %d" [.int code]
      :: if stderr.isEmpty then [] else [noteOf .error "%s" [.text (Utf8.text stderr)]]
  | .noFrames => [noteOf .error "No frames were produced; the input may be shorter than one frame." []]
  | .cancelled => [noteOf .warn "Interrupted, shutting down..." []]
  | _ => [noteOf .error "Conversion failed: %s" [.text f.message]]

/-- What is noted about a conversion that is done. -/
def conversionSuccess (r : Conversion.Result) : Journal :=
  [noteOf .info "Done. Frames: %d. Manifest: %s" [.int r.manifest.frameCount, .text (Utf8.text r.manifestPath)],
    noteOf .debug "Mean quantization error: %.2f" [.float r.meanError]]

/-- Open an input and convert it. -/
def perform (h : Host) (c : Conditions) (input output : Octets) (s : Settings) (cancelled : Bool) : Course :=
  match Input.openNamed h input s.decoderOptions cancelled with
  | (host, .error f) =>
    if f.cause == .collapse then { host, collapse? := some f } else { host, closing := [openFailure input f] }
  | (host, .ok opened) =>
    let opening := (opened.metadata?.map fun m => announce m s).getD []
    let out := Conversion.convert c host.tree opened.source (s.conversionOptions output) cancelled
    let course : Course :=
      { host := { host with tree := out.tree }, opening, echoed := host.echoed.drop h.echoed.length
        closing := out.journal }
    match out.result with
    | .ok r => { course with closing := course.closing ++ conversionSuccess r, code := 0 }
    | .error f =>
      if f.cause == .collapse then { course with collapse? := some f }
      else { course with closing := course.closing ++ conversionFailure f }

/-- What the console shows of a course of events. -/
def Course.shown (c : Course) (console : Console) : Streams :=
  let passed : Streams := { err := Utf8.text c.echoed }
  ((console.showAll c.opening).append passed).append (console.showAll c.closing)

/-- Run the converter. -/
def run (h : Host) (c : Conditions) (language : String) (arguments : List Octets) (cancelled : Bool) : Exit :=
  let refused (message : String) : Exit := { code := 1, host := h, complaint := "nfp: " ++ message, usage := true }
  match CommandLine.read spec arguments with
  | .error f => refused f.message
  | .ok r =>
    if r.wantsHelp then { host := h, usage := true }
    else match settings h.tree r with
      | (_, .error f) => refused f.message
      | (s, .ok ()) =>
        let course := perform h c ((r.operand? 0).getD []) ((r.operand? 1).getD []) s cancelled
        let console : Console := { threshold := Level.ofName s.logLevel, language }
        let shown := if r.isOn "quiet" then { err := Utf8.text course.echoed } else course.shown console
        { code := course.code, host := course.host, shown, collapse? := course.collapse? }

end BlitReel.Command.Convert
