import Mathlib
import BlitReel.Input.Open
import BlitReel.Proofs.Conversion.Cause

/-!
# Why inputs cannot be opened

Opening an input starts programs and reads files. It fails because of what these do, and because of its options only
if they do not pass their checks: with options that do, whatever property the causes on a host have (`OnHost`), the
cause of a failure to open has it too, and so does that for which the producer of an open input may fail
(`OnHost.openNamed`).
-/

namespace BlitReel

/-- The causes that a host gives. -/
structure OnHost (Q : Cause → Prop) : Prop extends OnDisk Q where
  cancelled : Q .cancelled
  decoderNotFound : Q .decoderNotFound
  decoderExit : ∀ code stderr, Q (.decoderExit code stderr)
  picture : Q .picture
  collapse : Q .collapse

/-- What this gives, a failure or a source whose producer may fail, is of this kind. -/
structure Provides (Q : Cause → Prop) (x : Except Failure Source) : Prop where
  failure : FailsBy Q x
  producer : ∀ s, x = .ok s → FailsBy Q s.exit

/-- The same of an input and its source. -/
structure Opens (Q : Cause → Prop) (x : Except Failure Input.Opened) : Prop where
  failure : FailsBy Q x
  producer : ∀ opened, x = .ok opened → FailsBy Q opened.source.exit

section Providing

variable {Q : Cause → Prop} {f : Failure}

theorem provides_error (cause : Q f.cause) : Provides Q (.error f) := by
  refine ⟨failsBy_error cause, ?_⟩
  intro s impossible
  cases impossible

theorem opens_error (cause : Q f.cause) : Opens Q (.error f) := by
  refine ⟨failsBy_error cause, ?_⟩
  intro opened impossible
  cases impossible

theorem Provides.opens {x : Except Failure Source} (h : Provides Q x) (metadata? : Option Metadata) :
    Opens Q (x.map fun source => { source, metadata? }) := by
  refine ⟨h.failure.map _, ?_⟩
  intro opened ok
  cases x with
  | error f => cases ok
  | ok s =>
    cases ok
    exact h.producer s rfl

end Providing

namespace OnHost

variable {Q : Cause → Prop} (h : OnHost Q)

include h

theorem locate (host : Host) (name : Octets) : FailsBy Q (host.locate name) := by
  unfold Host.locate
  split
  · exact failsBy_ok name
  split
  · exact failsBy_ok _
  · exact failsBy_error h.other

theorem start (host : Host) (name : Octets) (arguments : List Octets) (cancelled : Bool) :
    FailsBy Q (host.start name arguments cancelled).2 := by
  have located := h.locate host name
  unfold Host.start
  split
  · rename_i f fails
    exact failsBy_error (located f fails)
  split
  · exact failsBy_error h.cancelled
  split
  · rename_i r _
    exact failsBy_error (h.refusal r)
  · exact failsBy_ok _

theorem findDecoder (host : Host) (custom : Octets) : FailsBy Q (host.findDecoder custom) := by
  unfold Host.findDecoder
  dsimp only
  split
  · split
    · exact failsBy_ok custom
    · exact failsBy_error h.decoderNotFound
  split
  · split
    · exact failsBy_ok host.decoderHint
    · exact failsBy_error h.decoderNotFound
  split
  · exact failsBy_ok _
  split
  · exact failsBy_ok _
  · exact failsBy_error h.decoderNotFound

/-- A decoder whose options pass their check. -/
theorem startDecoder (host : Host) {o : DecoderOptions} (valid : o.validate = .ok ()) (cancelled : Bool) :
    Provides Q (host.startDecoder o cancelled).2 := by
  have found := h.findDecoder host o.program
  unfold Host.startDecoder
  rw [valid]
  dsimp only [bind, Except.bind]
  split
  · rename_i f fails
    exact provides_error (found f fails)
  split
  · exact provides_error h.decoderNotFound
  · rename_i host' p _
    refine ⟨failsBy_ok _, ?_⟩
    intro s same
    cases same
    show FailsBy Q (Host.decoderExit p)
    unfold Host.decoderExit
    split
    · exact failsBy_ok ()
    · exact failsBy_error (h.decoderExit _ _)

theorem startDownload (host : Host) (url : Octets) (cancelled : Bool) :
    FailsBy Q (Input.startDownload host url cancelled).2 := by
  have started := h.start host (Octets.ofString "yt-dlp") (Input.downloadArguments url) cancelled
  unfold Input.startDownload
  split
  · rename_i host' f fails
    rw [fails] at started
    exact failsBy_error (started f rfl)
  split
  · exact failsBy_ok _
  · unfold Input.downloadFailure
    split
    · exact failsBy_error h.other
    · exact failsBy_error h.other

theorem load (t : FileTree) (path : Octets) (codecs : Picture.Codecs) : FailsBy Q (Picture.load t path codecs) := by
  have decoded (file : Octets) : FailsBy Q (Picture.decode file codecs) := by
    unfold Picture.decode
    split
    · exact failsBy_error h.other
    dsimp only
    split
    · exact failsBy_ok _
    · exact failsBy_error h.picture
  unfold Picture.load
  split
  · rename_i r _
    exact failsBy_error (h.refusal r)
  · exact decoded []
  · exact decoded _

theorem stillPixels (t : FileTree) (path : Octets) {g : Geometry} (valid : g.validate = .ok ())
    (codecs : Picture.Codecs) : FailsBy Q (Input.stillPixels t path g codecs) := by
  have loaded := (h.load t path codecs).within ("nfp: OpenStill: decode " ++ Utf8.text path)
  have scaled (p : Picture) : FailsBy Q ((p.toRgb g).mapError Collapse.toFailure) := by
    cases p.toRgb g with
    | error c => exact failsBy_error h.collapse
    | ok pixels => exact failsBy_ok pixels
  unfold Input.stillPixels
  rw [valid]
  dsimp only [bind, Except.bind]
  cases t.stat path with
  | error r => exact failsBy_error (h.refusal r)
  | ok node =>
    dsimp only
    cases read : (Picture.load t path codecs).mapError (·.within ("nfp: OpenStill: decode " ++ Utf8.text path)) with
    | error f => exact failsBy_error (loaded f read)
    | ok p => exact scaled p

theorem openStill (t : FileTree) (path : Octets) {g : Geometry} (valid : g.validate = .ok ())
    (codecs : Picture.Codecs) : Provides Q (Input.openStill t path g codecs) := by
  refine ⟨(h.stillPixels t path valid codecs).map _, ?_⟩
  intro s opened
  unfold Input.openStill at opened
  cases pixels : Input.stillPixels t path g codecs with
  | error f =>
    rw [pixels] at opened
    cases opened
  | ok octets =>
    rw [pixels] at opened
    cases opened
    exact failsBy_ok ()

theorem openFile (host : Host) (input : Octets) {o : DecoderOptions}
    (valid : { o with input, fromStdin := false }.validate = .ok ()) (cancelled : Bool) :
    Opens Q (Input.openFile host input o cancelled).2 := by
  unfold Input.openFile
  split
  · rename_i r _
    exact opens_error (h.refusal r)
  dsimp only
  split
  · rename_i host' m _
    exact (h.startDecoder host' valid cancelled).opens (some m)
  · rename_i host' f _
    split
    · rename_i collapse
      rw [beq_iff_eq] at collapse
      apply opens_error
      rw [collapse]
      exact h.collapse
    · exact (h.startDecoder host' valid cancelled).opens none

/-- An input whose options pass their checks, whichever way it is opened. -/
theorem openNamed (host : Host) (input : Octets) {o : DecoderOptions} (grid : o.geometry.validate = .ok ())
    (named : { o with input, fromStdin := false }.validate = .ok ())
    (piped : { o with input := [], fromStdin := true }.validate = .ok ()) (cancelled : Bool) :
    Opens Q (Input.openNamed host input o cancelled).2 := by
  unfold Input.openNamed
  dsimp only
  split
  · have downloaded := h.startDownload host input cancelled
    split
    · rename_i host' f fails
      rw [fails] at downloaded
      exact opens_error (downloaded f rfl)
    · rename_i host' m _
      exact (h.startDecoder host' piped cancelled).opens (some m)
  split
  · exact (h.startDecoder host piped cancelled).opens none
  split
  · exact (h.openStill host.tree input grid host.codecs).opens _
  · exact h.openFile host input named cancelled

section Conversion

variable (noFrames : Q .noFrames) {c : Conditions} {o : ConversionOptions} (sound : o.Sound)

include noFrames sound

/-- Converting a source with sound options, along any schedule. -/
theorem convertAlong {t : FileTree} {s : Source} {moves : List Run.Move} (outside : Outside Q c moves)
    (producer : FailsBy Q s.exit) : FailsBy Q (Conversion.convertAlong c t s o moves).result := by
  intro f fails
  rcases Conversion.convertAlong_cause sound ⟨h.toOnDisk, h.cancelled, noFrames⟩ outside producer fails with
    cause | ⟨cause, -⟩
  · exact cause
  · rw [cause]
    exact h.collapse

/-- Opening an input and converting it. -/
theorem convertNamed (host : Host) (input : Octets) {d : DecoderOptions} {cancelled : Bool}
    (opens : Opens Q (Input.openNamed host input d cancelled).2) (outside : Outside Q c []) :
    FailsBy Q (Input.convertNamed host c input d o cancelled).2.result := by
  unfold Input.convertNamed
  rcases taken : Input.openNamed host input d cancelled with ⟨host', f | opened⟩
  · rw [taken] at opens
    exact failsBy_error (opens.failure f rfl)
  · rw [taken] at opens
    dsimp only
    obtain ⟨moves, -, faultless, same⟩ := Conversion.convert_usual c host'.tree opened.source o cancelled
    rw [same]
    apply h.convertAlong noFrames sound _ (opens.producer opened rfl)
    refine ⟨outside.directory, ?_, outside.manifest⟩
    intro k w mem
    exact absurd mem (faultless k w)

end Conversion

end OnHost

end BlitReel
