import Mathlib
import BlitReel.Command.Convert
import BlitReel.Proofs.Input.Opening
import BlitReel.Proofs.Service.Admission

/-!
# Settings and the options made of them

Settings, grids, the options of the decoder and those of a conversion have a check each. The checks agree: with an
input and a place for the output, settings pass theirs exactly when the options made of them pass all others and no
count is negative (`Settings.validate_iff_ready`). So a conversion that was admitted, by the service or on the
command line, is never refused for its options.
-/

namespace BlitReel

namespace Settings

/-- A rate is a positive finite number: one that compares as greater than zero is no NaN, so only infinity is left
to exclude. -/
theorem isRate_iff {x : Float} : isRate x = true ↔ x > 0.0 ∧ Binary64.isInfinite x = false := by
  unfold isRate
  rw [Bool.and_eq_true, decide_eq_true_eq]
  constructor
  · rintro ⟨positive, finite⟩
    refine ⟨positive, ?_⟩
    unfold Binary64.isFinite at finite
    unfold Binary64.isInfinite
    cases form : Binary64.shape x with
    | infinite negative => simp [form] at finite
    | nan | finite => rfl
  · rintro ⟨positive, bounded⟩
    exact ⟨positive, Binary64.isFinite_of_gt positive bounded⟩

/-- No count is negative. -/
@[mk_iff]
structure Counts (s : Settings) : Prop where
  workers : ∀ n, s.workers = some n → 0 ≤ n
  previewScale : 0 ≤ s.previewScale

theorem validate_eq_ok_iff {s : Settings} :
    s.validate = .ok () ↔ s.geometry.Sound ∧ isRate s.fps = true ∧ s.Counts := by
  have passes : s.validate = .ok () ↔ s.check = .ok () := by
    unfold validate
    cases s.check <;> simp [Except.mapError]
  rw [passes, ← Geometry.check_eq_ok_iff]
  unfold check
  cases grid : s.geometry.check with
  | error f => simp [Except.mapError, bind, Except.bind]
  | ok u =>
    cases rate : isRate s.fps with
    | false => simp [Except.mapError, bind, Except.bind, throw, throwThe, MonadExceptOf.throw]
    | true =>
      rw [counts_iff]
      cases workers : s.workers with
      | none => simp [Except.mapError, bind, Except.bind, throw, throwThe, MonadExceptOf.throw, pure, Except.pure]
      | some n =>
        by_cases negative : n < 0
        · have none : ¬ 0 ≤ n := Int64.not_le.2 negative
          simp [Except.mapError, bind, Except.bind, throw, throwThe, MonadExceptOf.throw, negative, none]
        · have some : 0 ≤ n := Int64.not_lt.1 negative
          simp [Except.mapError, bind, Except.bind, throw, throwThe, MonadExceptOf.throw, pure, Except.pure, negative,
            some]

end Settings

theorem DecoderOptions.validate_eq_ok_iff {o : DecoderOptions} :
    o.validate = .ok () ↔ o.geometry.Sound ∧ o.fps > 0.0 ∧ (o.input ≠ [] ∨ o.fromStdin = true) := by
  rw [← Geometry.validate_eq_ok_iff]
  unfold validate
  cases grid : o.geometry.validate with
  | error f => simp [bind, Except.bind]
  | ok u =>
    by_cases positive : o.fps > 0.0
    · by_cases given : o.input = []
      · cases piped : o.fromStdin <;>
          simp [bind, Except.bind, throw, throwThe, MonadExceptOf.throw, pure, Except.pure, positive, given]
      · simp [bind, Except.bind, pure, Except.pure, positive, given]
    · simp [bind, Except.bind, throw, throwThe, MonadExceptOf.throw, positive]

theorem Palette.check_standard : Palette.standard.check = .ok () := by decide

namespace Settings

variable {base s : Settings} {input output : Octets}

/-- The options made of settings pass every check on the way from an input into a directory: that of the grid, that
of the decoder, whether it reads a file or its standard input, and that of the conversion. -/
structure Ready (s : Settings) (input output : Octets) : Prop where
  grid : s.geometry.validate = .ok ()
  named : { s.decoderOptions with input, fromStdin := false }.validate = .ok ()
  piped : { s.decoderOptions with input := [], fromStdin := true }.validate = .ok ()
  conversion : (s.conversionOptions output).validate = .ok ()

/-- The checks of the options ask for a sound grid and a positive finite rate. -/
theorem ready_iff (given : input ≠ []) (placed : output ≠ []) :
    s.Ready input output ↔ s.geometry.Sound ∧ s.fps > 0.0 ∧ Binary64.isInfinite s.fps = false := by
  constructor
  · intro ready
    have sound := ConversionOptions.validate_eq_ok_iff.1 ready.conversion
    exact ⟨sound.geometry, sound.rate_pos, sound.rate_finite⟩
  · rintro ⟨sound, positive, bounded⟩
    constructor
    · exact Geometry.validate_eq_ok_iff.2 sound
    · exact DecoderOptions.validate_eq_ok_iff.2 ⟨sound, positive, Or.inl given⟩
    · exact DecoderOptions.validate_eq_ok_iff.2 ⟨sound, positive, Or.inr rfl⟩
    · exact ConversionOptions.validate_eq_ok_iff.2 ⟨placed, sound, positive, bounded, Palette.check_standard⟩

theorem validate_iff_ready (given : input ≠ []) (placed : output ≠ []) :
    s.validate = .ok () ↔ s.Ready input output ∧ s.Counts := by
  rw [validate_eq_ok_iff, ready_iff given placed, isRate_iff]
  simp only [and_assoc]

/-- Admitted settings are ready for their input and the directory of their slug. -/
theorem Granted.ready {j : Job} (granted : base.Granted j.settings j.input) : j.settings.Ready j.input j.outputDir := by
  have slug := plain_of_validSlug granted.place.1
  obtain ⟨request, accepted, asked⟩ := granted
  obtain ⟨given, -, valid, -⟩ := Request.accept_eq_ok_iff.1 accepted
  rw [asked] at given
  have placed : j.outputDir ≠ [] := by
    rw [Job.outputDir, Path.join_text _ slug]
    simp [slug.ne_nil]
  exact ((validate_iff_ready given placed).1 valid).1

end Settings

namespace Command.Convert

theorem validate_of_check {s : Settings} (checked : check s = .ok ()) : s.validate = .ok () := by
  unfold check at checked
  cases valid : s.validate with
  | error f =>
    rw [valid] at checked
    cases checked
  | ok u => rfl

/-- The settings of the command line have passed the check of settings. -/
theorem validate_of_settings {t : FileTree} {reading : CommandLine.Reading} {s : Settings}
    (accepted : settings t reading = (s, .ok ())) : s.validate = .ok () := by
  unfold settings at accepted
  dsimp only at accepted
  split at accepted
  · cases accepted
  · obtain ⟨rfl, checked⟩ := Prod.mk.inj accepted
    exact validate_of_check checked

end Command.Convert

/-- Neither opening an input nor converting what was opened, along whatever schedule, fails for its options, as long
as the system gives no such cause of its own. -/
structure Unrefused (host : Host) (input : Octets) (d : DecoderOptions) (o : ConversionOptions) (cancelled : Bool) :
    Prop where
  opening : FailsBy (· ≠ .invalidOptions) (Input.openNamed host input d cancelled).2
  converting : ∀ host' opened c moves, Input.openNamed host input d cancelled = (host', .ok opened) →
    Outside (· ≠ .invalidOptions) c moves →
      FailsBy (· ≠ .invalidOptions) (Conversion.convertAlong c host'.tree opened.source o moves).result
  both : ∀ c, Outside (· ≠ .invalidOptions) c [] →
    FailsBy (· ≠ .invalidOptions) (Input.convertNamed host c input d o cancelled).2.result

theorem onHost_ne_invalidOptions : OnHost (· ≠ .invalidOptions) := by
  constructor
  · constructor <;> decide
  · decide
  · decide
  · intro code stderr same
    cases same
  · decide
  · decide

theorem Settings.Ready.unrefused {s : Settings} {input output : Octets} (ready : s.Ready input output) (host : Host)
    (cancelled : Bool) : Unrefused host input s.decoderOptions (s.conversionOptions output) cancelled := by
  have causes := onHost_ne_invalidOptions
  have sound := ConversionOptions.validate_eq_ok_iff.1 ready.conversion
  have same : s.decoderOptions.geometry = s.geometry := rfl
  have opens : Opens (· ≠ .invalidOptions) (Input.openNamed host input s.decoderOptions cancelled).2 := by
    apply causes.openNamed host input
    · rw [same]
      exact ready.grid
    · exact ready.named
    · exact ready.piped
  constructor
  · exact opens.failure
  · intro host' opened c moves taken outside
    have producer := opens.producer opened
    rw [taken] at producer
    exact causes.convertAlong (by decide) sound outside (producer rfl)
  · intro c outside
    exact causes.convertNamed (by decide) sound host input opens outside

/-- The checks of settings and of the options made of them agree, and ask for a sound grid and a positive finite rate.
Every conversion of a service was admitted; whatever was admitted, by a service or on the command line with an input
and a place for the output, passes all checks of options, and from then on nothing fails for its options. -/
theorem admitted_unrefused (base : Settings) :
    (∀ (s : Settings) (input output : Octets), input ≠ [] → output ≠ [] →
      (s.validate = .ok () ↔ s.Ready input output ∧ s.Counts) ∧
      (s.Ready input output ↔ s.geometry.Sound ∧ s.fps > 0.0 ∧ Binary64.isInfinite s.fps = false)) ∧
    (∀ (moves : List Manager.Move) (j : Job), j ∈ (Manager.steps { base } moves).jobs →
      base.Granted j.settings j.input) ∧
    (∀ j : Job, base.Granted j.settings j.input → j.settings.Ready j.input j.outputDir ∧
      ∀ host cancelled, Unrefused host j.input j.decoderOptions j.conversionOptions cancelled) ∧
    ∀ (t : FileTree) (reading : CommandLine.Reading) (s : Settings) (input output : Octets),
      Command.Convert.settings t reading = (s, .ok ()) → input ≠ [] → output ≠ [] → s.Ready input output ∧
        ∀ host cancelled, Unrefused host input s.decoderOptions (s.conversionOptions output) cancelled := by
  refine ⟨?_, ?_, ?_, ?_⟩
  · intro s input output given placed
    exact ⟨Settings.validate_iff_ready given placed, Settings.ready_iff given placed⟩
  · intro moves j mem
    exact Manager.granted_of_mem_jobs mem
  · intro j granted
    exact ⟨granted.ready, granted.ready.unrefused⟩
  · intro t reading s input output accepted given placed
    have valid := Command.Convert.validate_of_settings accepted
    have ready := ((Settings.validate_iff_ready given placed).1 valid).1
    exact ⟨ready, ready.unrefused⟩

/-- A request for the largest grid at a rate that is hardly more than zero, and a command line that sets nothing. -/
theorem admitted_unrefused_extreme :
    let request : Request := { input := Octets.ofString "-", width := 4096, height := 4096, fps := 5e-324 }
    let j : Job := { settings := request.apply {}, input := request.input }
    request.accept {} = .ok j.settings ∧
      j.settings.Ready j.input j.outputDir ∧ Unrefused {} j.input j.decoderOptions j.conversionOptions false ∧
      (Command.Convert.settings {} {}).1.Ready (Octets.ofString "clip.mp4") (Octets.ofString "out") := by
  intro request j
  have valid : j.settings.validate = .ok () := by decide +kernel
  have accepted : request.accept {} = .ok j.settings :=
    Request.accept_eq_ok_iff.2 ⟨by decide, rfl, valid, by decide +kernel⟩
  have started : Command.Convert.settings {} {} = ((Command.Convert.settings {} {}).1, .ok ()) :=
    Prod.ext rfl (by decide +kernel)
  obtain ⟨-, -, service, command⟩ := admitted_unrefused {}
  obtain ⟨ready, unrefused⟩ := service j ⟨request, accepted, rfl⟩
  exact ⟨accepted, ready, unrefused {} false, (command _ _ _ _ _ started (by decide) (by decide)).1⟩

end BlitReel
