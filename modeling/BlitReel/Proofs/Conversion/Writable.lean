import Mathlib
import BlitReel.Proofs.Conversion.Cause

/-!
# Conversions whose output can be written

Whether there is room for the output of a conversion can be seen before it starts (`Writable`): what it writes never
stands in its own way, since frames, preview and temporary file have different names. On a schedule without a
refused write and without an interruption all frames are written then (`convertAlong_frames`), and the conversion
succeeds unless the preview that it wants has no canvas (`convertAlong_cases`).
-/

namespace BlitReel

/-- A file can be written at a path: the directory above is there, and no directory stands in its place. -/
def FileTree.Free (t : FileTree) (p : Octets) : Prop := ∃ loc, t.resolve p = .ok loc ∧ t.get? loc ≠ some .directory

namespace FileTree.Free

variable {t t' : FileTree} {p : Octets}

theorem sameDirs (h : t.Free p) (dirs : SameDirs t t') : t'.Free p := by
  obtain ⟨loc, resolved, free⟩ := h
  exact ⟨loc, dirs.resolve_iff.2 resolved, fun dir => free ((dirs.dirs loc).1 dir)⟩

theorem write (h : t.Free p) (content : Octets) : (t.write p content none).2 = .ok () := by
  obtain ⟨loc, resolved, free⟩ := h
  obtain ⟨t', done⟩ := put_ok resolved free content
  simp [FileTree.write, done]

end FileTree.Free

namespace Manifest

/-- What is written under other names than that of the temporary file is not in the way of a document. -/
theorem Feasible.touches {refuse : Refusals} {unique dir : Octets} {t t' : FileTree} {paths : Octets → Prop}
    (h : Feasible refuse unique t dir) (clear : Path.slash ∉ unique) (touches : FileTree.Touches t t' paths)
    (others : ∀ p, paths p → ∃ name, (Path.components p).getLast? = some name ∧ Path.Plain name ∧
      name ≠ temporaryName unique) : Feasible refuse unique t' dir := by
  refine ⟨h.granted, ?_, ?_⟩
  · obtain ⟨loc, vacant⟩ := h.vacant
    refine ⟨loc, touches.dirs.resolve_iff.2 vacant.resolved, ?_⟩
    rw [touches.get?_of_named (getLast?_components_beside clear dir) (plain_temporaryName clear) vacant.resolved others
      (by simp), vacant.nothing]
  · exact FileTree.Free.sameDirs h.place touches.dirs

end Manifest

namespace Run

section Calm

variable {t : FileTree} {s : Source} {o : ConversionOptions} {limit : Nat} {r : Run} {log : List (Int64 × Octets)}
  (free : ∀ i < Conversion.frameCount s.content o, t.Free (o.framePath (Int64.ofNat (i + 1))))

include free

/-- Where the files of all frames can be written, calm moves are smooth. -/
theorem Invariant.smooth (h : Invariant t s o limit r log) {m : Move} (calm : m.Calm) : r.Smooth m := by
  cases m with
  | cancel => exact calm.elim
  | read | launch | report => trivial
  | store k fault? =>
    cases fault? with
    | some w => exact calm.elim
    | none =>
      intro raw f task encoded
      obtain ⟨reported, lost, ledger⟩ := h.ledger
      obtain ⟨i, inside, rfl⟩ := List.mem_map.1 (ledger.mem_frames (List.mem_of_getElem? task))
      have among : i < Conversion.frameCount s.content o := by
        rw [h.options] at inside
        exact (List.mem_range.1 inside).trans_le (Nat.div_le_div_right h.length_seen_le)
      have written := ((free i among).sameDirs h.disk.dirs).write f.text
      rw [← h.options] at written
      exact congrArg (Except.mapError _) written

theorem Invariant.smoothAlong (sound : o.Sound) (h : Invariant t s o limit r log) {moves : List Move}
    (calm : ∀ m ∈ moves, m.Calm) : r.SmoothAlong moves := by
  induction moves generalizing r log with
  | nil => trivial
  | cons m moves ih =>
    exact ⟨h.smooth free (calm m List.mem_cons_self),
      ih (h.step sound m) fun m' mem => calm m' (List.mem_cons_of_mem m mem)⟩

end Calm

end Run

namespace Conversion

variable {c : Conditions} {t : FileTree} {s : Source} {o : ConversionOptions} {moves : List Run.Move}

/-- There is room for so many frames and for the manifest: the directory of the frames can be made, and then the file
of each frame and the document can be written. -/
structure Writable (c : Conditions) (t : FileTree) (o : ConversionOptions) (count : Nat) : Prop where
  directory : (t.makeAll o.framesDir c.refuseDirectory).2 = .ok ()
  frames : ∀ i < count, (t.makeAll o.framesDir c.refuseDirectory).1.Free (o.framePath (Int64.ofNat (i + 1)))
  manifest : Manifest.Feasible c.refuse c.unique (t.makeAll o.framesDir c.refuseDirectory).1 o.outputDir

/-- A conversion takes a calm schedule by itself. -/
theorem convert_calm (c : Conditions) (t : FileTree) (s : Source) (sound : o.Sound)
    (made : (t.makeAll o.framesDir c.refuseDirectory).2 = .ok ()) :
    ∃ moves, (∀ m ∈ moves, m.Calm) ∧ finishes c t s o moves = true ∧ convert c t s o = convertAlong c t s o moves := by
  set tree := (t.makeAll o.framesDir c.refuseDirectory).1
  set r := start c tree s o { frameSize := o.geometry.octets }
  have begins : begin c t s o = (tree, .ok r) := begin_ok c t s sound made
  have settled : (r.steps (Run.usualMoves r.effort r)).settled = true := by
    rw [Run.steps_usualMoves]
    exact (invariant_start c sound tree s).drive_settled sound (o.limit_pos c.processors)
      (start_work_lt c tree s o o.geometry.octets).le
  refine ⟨Run.usualMoves r.effort r, Run.calm_usualMoves r.effort r, ?_, ?_⟩
  · rw [finishes, begins]
    exact settled
  · rw [convert, convertAlong, begins]
    dsimp only
    rw [Run.steps_usualMoves]
    rfl

/-- What the end of a run makes of its preview touches the file of the preview at most. -/
theorem Drawn.touches {r : Run} {tree : FileTree} {w : Except Failure Unit} (drawn : Drawn c r tree w) :
    FileTree.Touches r.tree tree (IsPreview r.options) := by
  cases drawn with
  | unwanted off => exact FileTree.Touches.refl _ _
  | written f _ _ wanted first drawing =>
    have added : ∃ r', addPreview c r = .ok r' ∧ r'.tree = tree := by
      rw [addPreview, wanted, first]
      dsimp only
      rw [drawing]
      cases w with
      | error e => exact ⟨_, rfl, rfl⟩
      | ok done => exact ⟨_, rfl, rfl⟩
    obtain ⟨r', ok, rfl⟩ := added
    exact (addPreview_touches (Links.hold_empty _) ok).2.2

/-- Neither frames nor the preview are named like the temporary file of a document. -/
theorem output_named (given : o.outputDir ≠ []) (unique : Octets) {p : Octets}
    (output : IsPreview o p ∨ ∃ index, p = o.framePath index) :
    ∃ name, (Path.components p).getLast? = some name ∧ Path.Plain name ∧ name ≠ Manifest.temporaryName unique := by
  have other {name : Octets} (first : name.head? ≠ some 0x2E) : name ≠ Manifest.temporaryName unique := fun same =>
    first (by rw [same, Manifest.head?_temporaryName])
  rcases output with ⟨-, rfl⟩ | ⟨index, rfl⟩
  · exact ⟨_, Path.getLast?_components_join given Preview.plain_fileName, Preview.plain_fileName, other (by decide)⟩
  · refine ⟨_, Run.getLast?_components_framePath given index, Frame.plain_fileName index, other ?_⟩
    rw [Frame.head?_fileName]
    decide

section Room

variable (sound : o.Sound) (room : Writable c t o (frameCount s.content o)) (calm : ∀ m ∈ moves, m.Calm)
  (finished : finishes c t s o moves = true)

include sound room calm

/-- With room for its output a calm conversion meets no failure of its own. -/
theorem run_writable :
    ∃ tree r log, begin c t s o = (tree, .ok (start c tree s o { frameSize := o.geometry.octets })) ∧
      (start c tree s o { frameSize := o.geometry.octets }).steps moves = r ∧
      r.Invariant tree s o (o.limit c.processors) log ∧ r.cancelled = false ∧ r.writeFailure? = none ∧
      Manifest.Feasible c.refuse c.unique tree o.outputDir := by
  have inv := invariant_start c sound (t.makeAll o.framesDir c.refuseDirectory).1 s
  obtain ⟨going, intact⟩ := inv.steps_smooth sound (inv.smoothAlong room.frames sound calm)
  exact ⟨_, _, _, begin_ok c t s sound room.directory, rfl, inv.steps sound moves, going, intact, room.manifest⟩

include finished

/-- So it has written the files of all frames when it is over, and has reported them. -/
theorem convertAlong_frames (small : frameCount s.content o < 2 ^ 63) :
    (∀ i < frameCount s.content o, ∃ f, Frame.encode (frame s.content o i) o.geometry o.palette = .ok f ∧
      (convertAlong c t s o moves).tree.content (o.framePath (Int64.ofNat (i + 1))) = .ok f.text) ∧
    (convertAlong c t s o moves).progress.length = frameCount s.content o ∧
    ((convertAlong c t s o moves).progress.map (·.frame)).Perm
      ((List.range (frameCount s.content o)).map fun i => Int64.ofNat (i + 1)) ∧
    ∀ (j : Nat) (p : Progress), (convertAlong c t s o moves).progress[j]? = some p → p.written.toInt = j + 1 := by
  obtain ⟨tree, r, log, begins, rfl, inv, going, intact, -⟩ := run_writable sound room calm
  rw [finishes, begins] at finished
  rw [convertAlong, begins]
  dsimp only
  obtain ⟨-, seen, -, files⟩ := inv.complete finished going intact small
  have kept := conclude_frame_iff c s.exit (inv.given sound)
  rw [inv.options] at kept
  rw [conclude_progress]
  obtain ⟨count, perm⟩ := inv.progress_perm finished going intact
  refine ⟨fun i inside => ?_, count, perm, fun j p => inv.written_progress (by rw [seen]; exact small)⟩
  obtain ⟨f, encoded, content⟩ := files i inside
  exact ⟨f, encoded, (kept _ _).2 content⟩

/-- And it succeeds, unless the preview that it wants has no canvas. -/
theorem convertAlong_cases (ended : s.ending = .finished) (exited : s.exit = .ok ())
    (frames : 0 < frameCount s.content o) (small : frameCount s.content o < 2 ^ 63) :
    (o.preview = true ∧ ¬ o.HasCanvas ∧ (convertAlong c t s o moves).collapsed = true) ∨
      (o.preview = false ∨ o.HasCanvas) ∧ ∃ res, (convertAlong c t s o moves).result = .ok res ∧
        res.manifest = fullManifest s.content o ∧ res.truncated = s.content.length % o.geometry.octets := by
  obtain ⟨tree, r, log, begins, rfl, inv, going, intact, feasible⟩ := run_writable sound room calm
  have written : AllWritten c t s o moves := ⟨⟨tree, _, begins, going, intact⟩, ended, exited, frames⟩
  refine (collapsed_or_decided sound finished small written).imp_right ?_
  rintro ⟨fits, tree', r, begins', drawn, w, preview, -, result, -⟩
  refine ⟨fits, ?_⟩
  cases begins.symm.trans begins'
  -- neither the frames nor the preview stand in the way of the manifest
  have previewed := preview.touches
  rw [inv.options] at previewed
  have touches : FileTree.Touches tree drawn fun p => IsPreview o p ∨ ∃ index, p = o.framePath index := by
    refine FileTree.Touches.trans (inv.touches.mono ?_) (previewed.mono fun p => Or.inl)
    rintro p ⟨i, -, rfl⟩
    exact Or.inr ⟨_, rfl⟩
  have feasible' := feasible.touches c.unique_plain touches fun p => output_named sound.outputDir c.unique
  obtain ⟨j, document⟩ := toJson_ok sound s.content
  rw [Manifest.store, document] at result
  dsimp only at result
  rw [(Manifest.storeDocument_eq_ok_iff c.unique_plain).2 feasible'] at result
  cases decided : (convertAlong c t s o moves).result with
  | error f =>
    rw [decided] at result
    cases result
  | ok res =>
    rw [finishes, begins] at finished
    rw [convertAlong, begins] at decided
    obtain ⟨manifest, -, truncated, -⟩ := conclude_ok c s.exit sound inv finished small decided
    exact ⟨res, rfl, manifest, truncated⟩

end Room

end Conversion

end BlitReel
