import Mathlib
import BlitReel.Proofs.Conversion.Schedule

/-!
# What a conversion reports

Workers finish in any order, and one after the other they report their frames. A report is made on top of
those before it: it counts one more, its frame was not reported before, and by then the frame is on disk
with its whole text and its name is recorded (`Run.Reported`). Every move adds one such report or none
(`Invariant.step_progress`), whatever fails and whenever the run is called off. When all workers are
done, the frames reported are those recorded.
-/

namespace BlitReel

namespace Run

theorem length_reports (frames : List RawFrame) : (reports frames).length = frames.length := by
  induction frames with
  | nil => rfl
  | cons raw earlier ih => simp [reports, ih]

theorem map_frame_reports (frames : List RawFrame) :
    (reports frames).map (·.frame) = (frames.map (·.index)).reverse := by
  induction frames with
  | nil => rfl
  | cons raw earlier ih => simp [reports, ih]

/-- Reports are numbered one after the other. -/
theorem written_of_mem_reports {frames : List RawFrame} {j : Nat} {p : Progress} (found : (reports frames)[j]? = some p) :
    p.written = Int64.ofNat (j + 1) := by
  induction frames with
  | nil => cases found
  | cons raw earlier ih =>
    rw [reports, List.getElem?_append] at found
    split at found
    · exact ih found
    · rename_i last
      obtain ⟨inside, rfl⟩ := List.getElem?_eq_some_iff.1 found
      rw [length_reports] at last inside
      simp only [List.length_singleton] at inside
      have index : j = earlier.length := by omega
      simp [index]

/-- What holds of a report that is made on top of a run. -/
structure Reported (s : Source) (r : Run) (p : Progress) : Prop where
  written : p.written.toInt = r.progress.length + 1
  fresh : ∀ q ∈ r.progress, q.frame ≠ p.frame
  stored : ∃ raw ∈ r.framesRead s, raw.index = p.frame ∧ ∃ f,
    Frame.encode raw r.options.geometry r.options.palette = .ok f ∧
      r.tree.content (r.options.framePath p.frame) = .ok f.text
  recorded : (p.frame, Frame.fileName p.frame) ∈ r.builder.names

/-- Along these moves every report is made on top of the run as it stands then. -/
def ReportedAlong (s : Source) (r : Run) : List Move → Prop
  | [] => True
  | m :: moves =>
    ((r.step m).progress = r.progress ∨ ∃ p, (r.step m).progress = r.progress ++ [p] ∧ Reported s r p) ∧
      (r.step m).ReportedAlong s moves

namespace Ledger

variable {r : Run} {frames reported lost : List RawFrame} {log : List (Int64 × Octets)}

theorem length_progress (h : Ledger r frames log reported lost) : r.progress.length = reported.length := by
  rw [h.announced, length_reports]

theorem map_frame_progress (h : Ledger r frames log reported lost) :
    (r.progress.map (·.frame)).Perm (reported.map (·.index)) := by
  rw [h.announced, map_frame_reports]
  exact List.reverse_perm _

theorem length_reported_le (h : Ledger r frames log reported lost) : reported.length ≤ frames.length := by
  have length := h.all.length_eq
  simp only [List.length_append] at length
  omega

theorem nodup_reported (h : Ledger r frames log reported lost) (nodup : (frames.map (·.index)).Nodup) :
    (reported.map (·.index)).Nodup := by
  have all := (h.all.map (·.index)).nodup_iff.2 nodup
  simp only [List.map_append] at all
  exact (List.Nodup.of_append_left (List.Nodup.of_append_right (List.Nodup.of_append_right all)))

/-- The frame of a task has not been reported. -/
theorem unreported (h : Ledger r frames log reported lost) {k : Nat} {raw : RawFrame}
    {stored? : Option (Frame × Float)} (task : r.tasks[k]? = some ⟨raw, stored?⟩)
    (nodup : (frames.map (·.index)).Nodup) : ∀ q ∈ r.progress, q.frame ≠ raw.index := by
  intro q mem same
  have apart := ((h.all_task task).map (·.index)).nodup_iff.2 nodup
  rw [List.map_cons, List.nodup_cons] at apart
  apply apart.1
  have among := h.map_frame_progress.subset (List.mem_map_of_mem mem)
  rw [same] at among
  simp only [List.map_append, List.mem_append]
  exact Or.inr (Or.inr (Or.inl among))

end Ledger

namespace Invariant

variable {t : FileTree} {s : Source} {o : ConversionOptions} {limit : Nat} {r : Run} {log : List (Int64 × Octets)}

theorem nodup_framesRead (h : Invariant t s o limit r log) (small : (r.seen s).length / o.geometry.octets < 2 ^ 63) :
    ((r.framesRead s).map (·.index)).Nodup := by
  rw [framesRead, h.options]
  exact Conversion.nodup_index small _ _

theorem length_framesRead (h : Invariant t s o limit r log) :
    (r.framesRead s).length = (r.seen s).length / o.geometry.octets := by
  rw [framesRead, h.options, List.length_map, List.length_range]

/-- A task that is stored can be reported. -/
theorem reported (h : Invariant t s o limit r log) (small : (r.seen s).length / o.geometry.octets < 2 ^ 63)
    {k : Nat} {raw : RawFrame} {f : Frame} {error : Float} (task : r.tasks[k]? = some ⟨raw, some (f, error)⟩) :
    Reported s r ⟨raw.index, Int64.ofNat (r.written + 1)⟩ := by
  obtain ⟨reported, lost, ledger⟩ := h.ledger
  have nodup := h.nodup_framesRead small
  have mem := List.mem_of_getElem? task
  have stored : r.Stored reported raw := Or.inr ⟨_, mem⟩
  refine ⟨?_, ledger.unreported task nodup, ⟨raw, ledger.mem_frames mem, rfl, ?_⟩, ?_⟩
  · -- One frame at least is in the hands of a worker, so the count stays below that of the frames.
    have room : reported.length < (r.framesRead s).length := by
      rw [← (ledger.all_task task).length_eq]
      simp only [List.length_cons, List.length_append]
      omega
    rw [h.length_framesRead] at room
    show (Int64.ofNat (r.written + 1)).toInt = _
    rw [ledger.length_progress, ledger.counted]
    exact Manifest.Builder.toInt_ofNat_succ small room
  · obtain ⟨f', encoded, logged⟩ := ledger.filed raw stored
    have current := h.disk.current (h.once small) _ logged
    exact ⟨f', encoded, current⟩
  · exact (ledger.named _).2 ⟨raw, stored, rfl⟩

/-- Every move makes one report that is due, or none. -/
theorem step_progress (sound : o.Sound) (h : Invariant t s o limit r log)
    (small : (r.seen s).length / o.geometry.octets < 2 ^ 63) (m : Move) :
    (r.step m).progress = r.progress ∨ ∃ p, (r.step m).progress = r.progress ++ [p] ∧ Reported s r p := by
  by_cases off : m = .cancel
  · subst off
    exact Or.inl rfl
  rcases step_cases (by rw [h.options]; exact sound) h.sized off with ⟨same, -⟩ | change
  · rw [same]
    exact Or.inl rfl
  generalize r.step m = r', r.leaves? m = left? at change ⊢
  cases change with
  | receive d rest =>
    obtain ⟨_, rfl, received⟩ := receive_eq { r with deliveries := rest } d
    rw [received]
    exact Or.inl rfl
  | report k raw f error task => exact Or.inr ⟨_, rfl, h.reported small task⟩
  | finish | launch | keep | spoil | lose => exact Or.inl rfl

theorem reportedAlong (sound : o.Sound) (h : Invariant t s o limit r log)
    (small : Conversion.frameCount s.content o < 2 ^ 63) (moves : List Move) : r.ReportedAlong s moves := by
  induction moves generalizing r log with
  | nil => trivial
  | cons m moves ih =>
    have seen : (r.seen s).length / o.geometry.octets < 2 ^ 63 :=
      (Nat.div_le_div_right h.length_seen_le).trans_lt small
    exact ⟨h.step_progress sound seen m, ih (h.step sound m)⟩

theorem written_progress (h : Invariant t s o limit r log) (small : (r.seen s).length / o.geometry.octets < 2 ^ 63)
    {j : Nat} {p : Progress} (found : r.progress[j]? = some p) : p.written.toInt = j + 1 := by
  obtain ⟨reported, lost, ledger⟩ := h.ledger
  obtain ⟨inside, -⟩ := List.getElem?_eq_some_iff.1 found
  have room := ledger.length_reported_le
  rw [h.length_framesRead] at room
  rw [ledger.length_progress] at inside
  rw [ledger.announced] at found
  rw [written_of_mem_reports found]
  exact Manifest.Builder.toInt_ofNat_succ small (by omega)

theorem nodup_progress (h : Invariant t s o limit r log) (small : (r.seen s).length / o.geometry.octets < 2 ^ 63) :
    (r.progress.map (·.frame)).Nodup := by
  obtain ⟨reported, lost, ledger⟩ := h.ledger
  exact ledger.map_frame_progress.nodup_iff.2 (ledger.nodup_reported (h.nodup_framesRead small))

/-- When no worker has a frame in hand, the frames reported are those recorded. -/
theorem progress_perm_names (h : Invariant t s o limit r log) (small : (r.seen s).length / o.geometry.octets < 2 ^ 63)
    (idle : r.tasks = []) : (r.progress.map (·.frame)).Perm (r.builder.names.map (·.1)) := by
  obtain ⟨reported, lost, ledger⟩ := h.ledger
  have names := ledger.names_perm idle (ledger.nodup_reported (h.nodup_framesRead small))
  have indices := names.map (·.1)
  rw [List.map_map] at indices
  exact ledger.map_frame_progress.trans indices.symm

/-- A run that settled without a failure has reported the frames of its source by their numbers. -/
theorem progress_perm (h : Invariant t s o limit r log) (settled : r.settled = true) (going : r.cancelled = false)
    (intact : r.writeFailure? = none) :
    r.progress.length = Conversion.frameCount s.content o ∧
      (r.progress.map (·.frame)).Perm
        ((List.range (Conversion.frameCount s.content o)).map fun i => Int64.ofNat (i + 1)) := by
  obtain ⟨reported, ledger, all, -⟩ := h.all_reported settled going intact
  constructor
  · rw [ledger.length_progress, all.length_eq, List.length_map, List.length_range]
  · have indices := all.map (·.index)
    rw [List.map_map] at indices
    exact ledger.map_frame_progress.trans indices

end Invariant

end Run

namespace Conversion

variable {c : Conditions} {t : FileTree} {s : Source} {o : ConversionOptions}

theorem addPreview_progress {r r' : Run} (h : addPreview c r = .ok r') : r'.progress = r.progress := by
  unfold addPreview at h
  split at h
  · rename_i f _ _
    cases drawn : writePreview r.tree r.options.previewPath f r.options.palette r.options.scale c.previewFault? with
    | error c => simp [drawn, bind, Except.bind] at h
    | ok written =>
      simp only [drawn, bind, Except.bind, pure, Except.pure] at h
      split at h <;> cases h <;> rfl
  · cases h
    rfl

/-- The end of a conversion adds no report. -/
theorem conclude_progress (c : Conditions) (exit : Except Failure Unit) (r : Run) :
    (conclude c exit r).progress = r.progress := by
  have tail (r : Run) (tail? : Option Assembler.TruncatedTail) : (noteTail r tail?).progress = r.progress := by
    cases tail? <;> rfl
  have manifest (r : Run) (truncated : Nat) : (addManifest c r truncated).progress = r.progress := by
    unfold addManifest
    dsimp only
    split <;> rfl
  unfold conclude
  split
  · rfl
  split
  · rfl
  · rfl
  · rfl
  · unfold finish
    dsimp only
    split
    · exact tail _ _
    · cases drawn : addPreview c (noteTail { r with assembler := r.assembler.close.2 } r.assembler.close.1) with
      | error c => exact tail _ _
      | ok r' => exact (manifest r' _).trans ((addPreview_progress drawn).trans (tail _ _))

/-- A conversion that succeeds has reported all frames of its source. -/
theorem progress_of_ok (exit : Except Failure Unit) {limit : Nat} {r : Run} {log : List (Int64 × Octets)}
    (sound : o.Sound) (h : r.Invariant t s o limit log) (settled : r.settled = true)
    (small : frameCount s.content o < 2 ^ 63) {res : Result} (success : (conclude c exit r).result = .ok res) :
    res.manifest.frameCount.toInt = r.progress.length ∧
      (r.progress.map (·.frame)).Perm ((List.range r.progress.length).map fun i => Int64.ofNat (i + 1)) := by
  obtain ⟨manifest, -⟩ := conclude_ok c exit sound h settled small success
  rcases conclude_cases c exit (Links.hold_empty r.tree) with ⟨⟨f, fails⟩, -⟩ | ⟨-, -, going, intact, -⟩
  · rw [success] at fails
    cases fails
  obtain ⟨count, perm⟩ := h.progress_perm settled going intact
  rw [count]
  refine ⟨?_, perm⟩
  rw [manifest]
  show (Int64.ofNat (frameCount s.content o)).toInt = _
  rw [Int64.toInt_ofNat_of_lt small]

/-- The frames that a conversion has recorded by these moves. -/
def recorded (c : Conditions) (t : FileTree) (s : Source) (o : ConversionOptions) (moves : List Run.Move) : List Int64 :=
  match begin c t s o with
  | (_, .error _) => []
  | (_, .ok r) => (r.steps moves).builder.names.map (·.1)

/-- The reports of a conversion are made one by one along these moves, each on top of the run as it stands then. -/
def Reports (c : Conditions) (t : FileTree) (s : Source) (o : ConversionOptions) (moves : List Run.Move)
    (progress : List Progress) : Prop :=
  match begin c t s o with
  | (_, .error _) => progress = []
  | (_, .ok r) => r.progress = [] ∧ r.ReportedAlong s moves ∧ progress = (r.steps moves).progress

/-- However the source cuts its octets, in whatever order workers finish and whatever fails, a conversion
counts its reports from one, reports no frame twice, and reports a frame of those read when the frame is
on disk with its whole text and its name is recorded. When it is over, it has reported the frames that are
recorded, and if it succeeds, these are all frames that its manifest counts. -/
theorem convertAlong_reports (c : Conditions) (t : FileTree) (s : Source) (o : ConversionOptions)
    (moves : List Run.Move) (small : frameCount s.content o < 2 ^ 63) :
    let out := convertAlong c t s o moves
    Reports c t s o moves out.progress ∧
      (∀ (j : Nat) (p : Progress), out.progress[j]? = some p → p.written.toInt = j + 1) ∧
      (out.progress.map (·.frame)).Nodup ∧
      (finishes c t s o moves = true →
        (out.progress.map (·.frame)).Perm (recorded c t s o moves) ∧
        ∀ res, out.result = .ok res → res.manifest.frameCount.toInt = out.progress.length ∧
          (out.progress.map (·.frame)).Perm ((List.range out.progress.length).map fun i => Int64.ofNat (i + 1))) := by
  rcases begin_cases c t s o with ⟨tree, f, fails, -⟩ | ⟨tree, begins, -, sound⟩
  · simp only [convertAlong, Reports, recorded, fails]
    refine ⟨trivial, ?_, List.nodup_nil, fun _ => ⟨List.Perm.refl _, ?_⟩⟩
    · intro j p found
      cases found
    · intro res success
      cases success
  · simp only [convertAlong, Reports, recorded, finishes, begins, conclude_progress]
    have h := (invariant_start c sound tree s).steps sound moves
    have seen : (((start c tree s o { frameSize := o.geometry.octets }).steps moves).seen s).length /
        o.geometry.octets < 2 ^ 63 := (Nat.div_le_div_right h.length_seen_le).trans_lt small
    refine ⟨⟨rfl, (invariant_start c sound tree s).reportedAlong sound small moves, trivial⟩, ?_, h.nodup_progress seen,
      fun settled => ⟨?_, ?_⟩⟩
    · intro j p found
      exact h.written_progress seen found
    · apply h.progress_perm_names seen
      simp only [Run.settled, Bool.and_eq_true, List.isEmpty_iff] at settled
      exact settled.2
    · intro res success
      exact progress_of_ok s.exit sound h settled small success

/-- Three frames of one cell, and two workers. -/
def threeCells : Source := { deliveries := [⟨[255, 0, 0, 0, 255, 0, 0, 0, 255], none⟩] }

/-- The second frame overtakes the first, the conversion is called off, and the disk is full when the third
frame is written. -/
def calledOff : List Run.Move :=
  [.read, .launch, .launch, .store 1 none, .report 1, .cancel, .store 0 none, .launch, .report 0,
    .store 0 (some (.after 2 (.plain "no space left on device")))]

theorem convertAlong_reports_calledOff :
    let out := convertAlong {} {} threeCells cellOptions calledOff
    frameCount threeCells.content cellOptions < 2 ^ 63 ∧ finishes {} {} threeCells cellOptions calledOff = true ∧
      out.result.isOk = false ∧ out.progress = [⟨2, 1⟩, ⟨1, 2⟩] ∧
      Reports {} {} threeCells cellOptions calledOff out.progress ∧
      (out.progress.map (·.frame)).Perm (recorded {} {} threeCells cellOptions calledOff) := by
  have small : frameCount threeCells.content cellOptions < 2 ^ 63 := by decide
  have finished : finishes {} {} threeCells cellOptions calledOff = true := by decide +kernel
  obtain ⟨due, -, -, ended⟩ := convertAlong_reports {} {} threeCells cellOptions calledOff small
  exact ⟨small, finished, by decide +kernel, by decide +kernel, due, (ended finished).1⟩

end Conversion

end BlitReel
