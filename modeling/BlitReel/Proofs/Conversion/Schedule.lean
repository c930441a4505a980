import Mathlib
import BlitReel.Proofs.Conversion.Progress

/-!
# The outcome does not depend on the schedule

Reader and workers may take their moves in any order, and the source may cut its octets as it likes. As
long as no write fails and nobody calls the run off, a finished conversion has one outcome, which is a
function of the octets delivered: `Converted` says what it is. Every schedule can be finished.
-/

namespace BlitReel

namespace Run

/-- The move does not call the run off, and if it writes a file then that write succeeds. -/
def Smooth (r : Run) : Move → Prop
  | .cancel => False
  | .store k fault? => ∀ raw f, r.tasks[k]? = some ⟨raw, none⟩ →
      Frame.encode raw r.options.geometry r.options.palette = .ok f → (r.writeFile raw.index f fault?).2 = .ok ()
  | _ => True

/-- Moves that are smooth where they are made. -/
def SmoothAlong (r : Run) : List Move → Prop
  | [] => True
  | m :: moves => r.Smooth m ∧ (r.step m).SmoothAlong moves

section Smooth

variable {t : FileTree} {s : Source} {o : ConversionOptions} {limit : Nat} {r : Run} {log : List (Int64 × Octets)}

/-- Smooth moves cause no failure: every frame read has an encoding. -/
theorem Invariant.step_smooth (sound : o.Sound) (h : Invariant t s o limit r log) {m : Move} (smooth : r.Smooth m) :
    (r.step m).cancelled = r.cancelled ∧ (r.step m).writeFailure? = r.writeFailure? := by
  cases m with
  | cancel => exact smooth.elim
  | read =>
    rw [Run.step, read]
    split
    · exact ⟨rfl, rfl⟩
    split
    · exact ⟨rfl, rfl⟩
    · rename_i d rest next
      obtain ⟨_, rfl, received⟩ := receive_eq { r with deliveries := rest } d
      rw [received]
      exact ⟨rfl, rfl⟩
  | launch =>
    rw [Run.step, launch]
    split
    · split <;> exact ⟨rfl, rfl⟩
    · exact ⟨rfl, rfl⟩
  | report k =>
    rw [Run.step, report]
    split <;> exact ⟨rfl, rfl⟩
  | store k fault? =>
    rw [Run.step]
    rcases task : r.tasks[k]? with _ | ⟨raw, _ | stored⟩
    · simp [store, task]
    · obtain ⟨f, error, encoded, stored⟩ := store_eq (by rw [h.options]; exact sound) h.sized task fault?
      have done := smooth raw f task encoded
      rcases write : r.writeFile raw.index f fault? with ⟨tree, failure | u⟩
      · rw [write] at done
        cases done
      · rw [stored, write]
        exact ⟨rfl, rfl⟩
    · simp [store, task]

theorem Invariant.steps_smooth (sound : o.Sound) (h : Invariant t s o limit r log) {moves : List Move}
    (smooth : r.SmoothAlong moves) :
    (r.steps moves).cancelled = r.cancelled ∧ (r.steps moves).writeFailure? = r.writeFailure? := by
  induction moves generalizing r log with
  | nil => exact ⟨rfl, rfl⟩
  | cons m moves ih =>
    obtain ⟨going, intact⟩ := h.step_smooth sound smooth.1
    obtain ⟨going', intact'⟩ := ih (h.step sound m) smooth.2
    exact ⟨going'.trans going, intact'.trans intact⟩

end Smooth

end Run

namespace Conversion

variable {t : FileTree} {s : Source} {o : ConversionOptions}

/-- Along these moves nobody calls the conversion off and every file is written: those of the frames, and
in the end that of the manifest. -/
structure Undisturbed (c : Conditions) (t : FileTree) (s : Source) (o : ConversionOptions) (moves : List Run.Move) :
    Prop where
  frames : ∀ tree r, begin c t s o = (tree, .ok r) → r.SmoothAlong moves
  manifest : ∀ tree r j, begin c t s o = (tree, .ok r) → 0 < frameCount s.content o →
    (fullManifest s.content o).toJson = .ok j →
      (Manifest.storeDocument c.refuse c.unique (r.steps moves).tree o.outputDir
        (Octets.ofString j.indented)).outcome = .ok ()

/-- What a conversion of a stream makes of a tree that has the directory of the frames. -/
structure Converted (t : FileTree) (stream : Octets) (o : ConversionOptions) (out : Outcome) : Prop where
  result : ∃ meanError, out.result = .ok
    { manifest := fullManifest stream o, manifestPath := o.manifestPath
      truncated := stream.length % o.geometry.octets, meanError }
  frames : ∀ i < frameCount stream o, ∃ f, Frame.encode (frame stream o i) o.geometry o.palette = .ok f ∧
    out.tree.content (o.framePath (Int64.ofNat (i + 1))) = .ok f.text
  manifest : ∃ j, (fullManifest stream o).toJson = .ok j ∧
    out.tree.content o.manifestPath = .ok (Octets.ofString j.indented)
  others : FileTree.Touches t out.tree fun p =>
    p = o.manifestPath ∨ ∃ i < frameCount stream o, p = o.framePath (Int64.ofNat (i + 1))

/-- What a conversion without frames makes of such a tree: nothing. -/
structure Barren (t : FileTree) (out : Outcome) : Prop where
  result : out.result = .error ⟨.noFrames, "nfp: no frames produced"⟩
  nodes : Manifest.SameNodes t out.tree

/-- A run that met no failure is finished. -/
theorem conclude_calm (c : Conditions) {r : Run} (going : r.cancelled = false) (intact : r.writeFailure? = none)
    (whole : r.readFailure? = none) : conclude c (.ok ()) r = finish c r := by
  unfold conclude
  rw [going, intact, whole]
  rfl

theorem finish_barren (c : Conditions) {r : Run} (empty : r.builder.size = 0) :
    (finish c r).result = .error ⟨.noFrames, "nfp: no frames produced"⟩ ∧ (finish c r).tree = r.tree := by
  obtain ⟨builder, -, tree⟩ := noteTail_fields { r with assembler := r.assembler.close.2 } r.assembler.close.1
  unfold finish
  dsimp only
  rw [builder, if_pos (by simp [empty])]
  exact ⟨rfl, tree⟩

/-- With frames, without a preview and with a manifest that can be stored, a conversion succeeds. -/
theorem finish_succeeds (c : Conditions) {r : Run} (frames : r.builder.size ≠ 0) (plain : r.options.preview = false)
    (stored : (Manifest.store c.refuse c.unique r.tree r.options.outputDir r.builder.build).outcome = .ok ()) :
    ∃ res, (finish c r).result = .ok res := by
  obtain ⟨builder, options, tree⟩ := noteTail_fields { r with assembler := r.assembler.close.2 } r.assembler.close.1
  unfold finish
  dsimp only at builder options tree ⊢
  generalize noteTail { r with assembler := r.assembler.close.2 } r.assembler.close.1 = noted at builder options tree ⊢
  have drawn : addPreview c noted = .ok noted := by
    rw [addPreview, options, plain]
  rw [builder, if_neg (by simpa using frames), drawn]
  unfold addManifest
  simp only [builder, options, tree, stored]
  exact ⟨_, rfl⟩

section Settled

variable {limit : Nat} {r : Run} {log : List (Int64 × Octets)}

/-- A settled run without frames leaves the disk as it found it. -/
theorem barren_of_settled (c : Conditions) (h : r.Invariant t s o limit log) (settled : r.settled = true)
    (going : r.cancelled = false) (intact : r.writeFailure? = none) (ended : s.ending = .finished)
    (empty : frameCount s.content o = 0) : Barren t (conclude c (.ok ()) r) := by
  obtain ⟨manifest, seen, failure, -⟩ := h.complete settled going intact (by omega)
  rw [ended] at failure
  have none : r.builder.size = 0 := by
    rw [Manifest.Builder.size_eq, manifest]
    simp [fullManifest, empty]
  obtain ⟨result, tree⟩ := finish_barren c none
  rw [conclude_calm c going intact failure]
  refine ⟨result, ?_, fun loc => ?_⟩
  · rw [tree]
    exact h.disk.dirs.home
  · rw [tree]
    rcases h.touches.files loc with same | ⟨-, -, p, -, ⟨i, hi, -⟩, -⟩
    · exact same
    · rw [seen] at hi
      exact absurd (empty ▸ hi : i < 0) (Nat.not_lt_zero i)

/-- A settled run with frames has converted its stream, if its manifest can be stored. -/
theorem converted_of_settled {c : Conditions} (sound : o.Sound) (h : r.Invariant t s o limit log)
    (settled : r.settled = true) (going : r.cancelled = false) (intact : r.writeFailure? = none)
    (ended : s.ending = .finished) (plain : o.preview = false) (small : frameCount s.content o < 2 ^ 63)
    (frames : 0 < frameCount s.content o)
    (stored : ∀ j, (fullManifest s.content o).toJson = .ok j →
      (Manifest.storeDocument c.refuse c.unique r.tree o.outputDir (Octets.ofString j.indented)).outcome = .ok ()) :
    Converted t s.content o (conclude c (.ok ()) r) := by
  obtain ⟨manifest, seen, failure, -⟩ := h.complete settled going intact small
  rw [ended] at failure
  have size : r.builder.size ≠ 0 := by
    rw [Manifest.Builder.size_eq, manifest]
    simpa [fullManifest] using frames.ne'
  obtain ⟨j, document⟩ := toJson_ok sound s.content
  have store : (Manifest.store c.refuse c.unique r.tree r.options.outputDir r.builder.build).outcome = .ok () := by
    rw [Manifest.store, manifest, document, h.options]
    exact stored j document
  obtain ⟨res, success⟩ := finish_succeeds c size (by rw [h.options, plain]) store
  rw [← conclude_calm c going intact failure] at success
  obtain ⟨same, path, truncated, manifestFile, files⟩ := conclude_ok c (.ok ()) sound h settled small success
  refine ⟨?_, files, manifestFile, ?_⟩
  · obtain ⟨m, p, n, error⟩ := res
    dsimp only at same path truncated
    exact ⟨error, by rw [success, same, path, truncated]⟩
  · have run := h.touches
    have touches := conclude_touches c (.ok ()) r
    rw [seen] at run
    rw [h.options] at touches
    refine (run.mono fun p => Or.inr).trans (touches.mono fun p closing => ?_)
    rcases closing with ⟨preview, -⟩ | manifest
    · rw [plain] at preview
      cases preview
    · exact Or.inl manifest

end Settled

/-- Every finished conversion that nothing disturbs has the same outcome, however its source cuts the stream
and in whatever order reader and workers make their moves: all complete frames of the stream are on disk,
the manifest lists them in order, and nothing else but directories has changed; a stream without a
complete frame is refused. No schedule gets stuck, and `convert` takes one of those that finish. -/
theorem convertAlong_undisturbed (c : Conditions) (t tree : FileTree) (s : Source) (o : ConversionOptions)
    (valid : o.validate = .ok ()) (plain : o.preview = false)
    (made : t.makeAll o.framesDir c.refuseDirectory = (tree, .ok ()))
    (ended : s.ending = .finished) (exited : s.exit = .ok ()) (small : frameCount s.content o < 2 ^ 63) :
    FileTree.Grows t tree o.framesDir ∧
      (∀ moves, finishes c t s o moves = true → Undisturbed c t s o moves →
        (1 ≤ frameCount s.content o → Converted tree s.content o (convertAlong c t s o moves)) ∧
        (frameCount s.content o = 0 → Barren tree (convertAlong c t s o moves))) ∧
      (∀ moves, ∃ more, finishes c t s o (moves ++ more) = true) ∧
      ∃ moves, finishes c t s o moves = true ∧ convert c t s o = convertAlong c t s o moves := by
  have sound := ConversionOptions.validate_eq_ok_iff.1 valid
  have grows := FileTree.makeAll_grows t o.framesDir c.refuseDirectory
  have begins := begin_ok c t s sound (by rw [made])
  rw [made] at grows begins
  refine ⟨grows, fun moves finished undisturbed => ?_, fun moves => ?_, convert_eq c t s o false⟩
  · set r := start c tree s o { frameSize := o.geometry.octets }
    have h := (invariant_start c sound tree s).steps sound moves
    obtain ⟨going, intact⟩ := (invariant_start c sound tree s).steps_smooth sound (undisturbed.frames tree r begins)
    rw [finishes, begins] at finished
    rw [convertAlong, begins, exited]
    refine ⟨fun frames => ?_, barren_of_settled c h finished going intact ended⟩
    exact converted_of_settled sound h finished going intact ended plain small frames
      fun j document => undisturbed.manifest tree r j begins frames document
  · obtain ⟨more, -, finished⟩ := can_finish c t s o moves
    exact ⟨more, finished⟩

/-- A grid of one cell and two workers. -/
def cellOptions : ConversionOptions :=
  { outputDir := Octets.ofString "out", geometry := ⟨1, 1⟩, fps := 25, workers := 2 }

/-- Two frames of one cell and an octet more; the first read ends inside a frame and the second one brings the
end together with the rest. -/
def cutSource : Source := { deliveries := [⟨[255, 0], none⟩, ⟨[0, 0, 255, 0, 9], some .finished⟩] }

/-- A schedule in which the second frame overtakes the first. -/
def overtaking : List Run.Move :=
  [.read, .read, .launch, .launch, .store 1 none, .report 1, .store 0 none, .report 0]

theorem overtaking_undisturbed : Undisturbed {} {} cutSource cellOptions overtaking := by
  refine ⟨fun tree r begins => ?_, fun tree r j begins _ _ => ?_⟩
  · cases begins
    refine ⟨trivial, trivial, trivial, trivial, ?_, trivial, ?_, trivial, trivial⟩
    · intro raw f task encoded
      cases task
      cases encoded
      rfl
    · intro raw f task encoded
      cases task
      cases encoded
      rfl
  · cases begins
    rfl

theorem convertAlong_undisturbed_overtaking :
    cellOptions.validate = .ok () ∧ finishes {} {} cutSource cellOptions overtaking = true ∧
      frameCount cutSource.content cellOptions = 2 ∧
      ∃ tree, FileTree.makeAll {} cellOptions.framesDir = (tree, .ok ()) ∧
        Converted tree cutSource.content cellOptions (convertAlong {} {} cutSource cellOptions overtaking) := by
  have valid : cellOptions.validate = .ok () := by decide +kernel
  have finished : finishes {} {} cutSource cellOptions overtaking = true := by decide +kernel
  have made : FileTree.makeAll {} cellOptions.framesDir = ((FileTree.makeAll {} cellOptions.framesDir).1, .ok ()) :=
    Prod.ext rfl (by decide +kernel)
  refine ⟨valid, finished, by decide, _, made, ?_⟩
  exact ((convertAlong_undisturbed {} {} _ cutSource cellOptions valid rfl made rfl rfl (by decide)).2.1
    overtaking finished overtaking_undisturbed).1 (by decide)

end Conversion

end BlitReel
