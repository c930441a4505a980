import Mathlib
import BlitReel.Conversion.Run
import BlitReel.Proofs.Files.Operations
import BlitReel.Proofs.Frame.Encoding

/-!
# What a move changes

`Run.Change` lists what one move can do to a run whose options passed their check, together with what
it leaves in a frame file, and `step_cases` says that every move does one of these things or nothing,
unless it calls the run off. All invariants of runs are derived from this list.
-/

namespace BlitReel

namespace ConversionOptions

/-- A place is given, the grid is sound, the rate is positive and finite and the palette passes its check. -/
structure Sound (o : ConversionOptions) : Prop where
  outputDir : o.outputDir ≠ []
  geometry : o.geometry.Sound
  rate_pos : o.fps > 0.0
  rate_finite : Binary64.isInfinite o.fps = false
  palette : o.palette.check = .ok ()

/-- The check of the options is exactly soundness. -/
theorem validate_eq_ok_iff {o : ConversionOptions} : o.validate = .ok () ↔ o.Sound := by
  simp only [validate, bind, Except.bind, throw, throwThe, MonadExceptOf.throw]
  constructor
  · intro h
    split at h <;> rename_i dir
    · cases h
    split at h <;> rename_i grid
    · cases h
    split at h <;> rename_i rate
    · cases h
    simp only [Bool.or_eq_true, Bool.not_eq_true', decide_eq_false_iff_not, not_or, not_not, Bool.not_eq_true] at rate
    refine ⟨by simpa using dir, Geometry.validate_eq_ok_iff.1 grid, rate.1, rate.2, ?_⟩
    cases colours : o.palette.check with
    | error f => simp [colours, Except.mapError] at h
    | ok u => rfl
  · intro h
    have pos : decide (o.fps > 0.0) = true := by simpa using h.rate_pos
    rw [if_neg (by simpa using h.outputDir), Geometry.validate_eq_ok_iff.2 h.geometry, pos, h.rate_finite, h.palette]
    rfl

end ConversionOptions

namespace Run

/-- What a move leaves in the file of a frame: the index of the frame and the octets. -/
def leaves? (r : Run) : Move → Option (Int64 × Octets)
  | .store k fault? =>
    match r.tasks[k]? with
    | some ⟨raw, none⟩ =>
      match Frame.encode raw r.options.geometry r.options.palette with
      | .ok f => (r.tree.kept? (r.options.framePath raw.index) f.text fault?).map fun kept => (raw.index, kept)
      | .error _ => none
    | _ => none
  | _ => none

/-- What moves leave in the files of frames, one after the other. -/
def log (r : Run) : List Move → List (Int64 × Octets)
  | [] => []
  | m :: moves => (r.leaves? m).toList ++ (r.step m).log moves

/-- A task whose frame is written. -/
def keep (r : Run) (tree : FileTree) (k : Nat) (raw : RawFrame) (f : Frame) (error : Float) : Run :=
  { r with
    tree, builder := r.builder.set raw.index (Frame.fileName raw.index)
    tasks := r.tasks.set k ⟨raw, some (f, error)⟩ }.note .debug "Frame %d written, mean error %.2f"
      [.int raw.index, .float error]

/-- A task whose frame is counted and reported. -/
def count (r : Run) (k : Nat) (raw : RawFrame) (f : Frame) (error : Float) : Run :=
  { r with
    tasks := r.tasks.eraseIdx k, written := r.written + 1, errorSum := r.errorSum + error
    first? := if raw.index == 1 then some f else r.first?
    progress := r.progress ++ [⟨raw.index, Int64.ofNat (r.written + 1)⟩] }

/-- What a move of the reader or of a worker does to a run, and what it leaves in the file of a frame. -/
inductive Change (r : Run) : Option (Int64 × Octets) → Run → Prop
  | finish (running : r.ended = false) (out : r.deliveries = []) : Change r none { r with ended := true }
  | receive (d : Delivery) (rest : List Delivery) (running : r.ended = false) (handed : r.waiting = [])
      (next : r.deliveries = d :: rest) : Change r none ({ r with deliveries := rest }.receive d)
  | launch (raw : RawFrame) (rest : List RawFrame) (next : r.waiting = raw :: rest)
      (room : r.tasks.length < r.limit) :
      Change r none { r with waiting := rest, tasks := r.tasks ++ [{ raw }] }
  | keep (k : Nat) (raw : RawFrame) (f : Frame) (error : Float) (loc : Location) (tree : FileTree)
      (task : r.tasks[k]? = some ⟨raw, none⟩)
      (encoded : Frame.encode raw r.options.geometry r.options.palette = .ok f)
      (resolved : r.tree.resolve (r.options.framePath raw.index) = .ok loc)
      (puts : FileTree.Puts r.tree tree loc f.text) : Change r (some (raw.index, f.text)) (r.keep tree k raw f error)
  | spoil (k : Nat) (raw : RawFrame) (kept : Octets) (loc : Location) (tree : FileTree) (failure : Failure)
      (task : r.tasks[k]? = some ⟨raw, none⟩)
      (resolved : r.tree.resolve (r.options.framePath raw.index) = .ok loc)
      (puts : FileTree.Puts r.tree tree loc kept) :
      Change r (some (raw.index, kept)) ({ r with tree }.fail k failure)
  | lose (k : Nat) (raw : RawFrame) (failure : Failure) (task : r.tasks[k]? = some ⟨raw, none⟩) :
      Change r none (r.fail k failure)
  | report (k : Nat) (raw : RawFrame) (f : Frame) (error : Float) (task : r.tasks[k]? = some ⟨raw, some (f, error)⟩) :
      Change r none (r.count k raw f error)

/-- Every task has a frame of the right size. -/
def Sized (r : Run) : Prop := ∀ task ∈ r.tasks, task.raw.pix.length = r.options.geometry.octets

theorem read_change {r : Run} (running : r.ended = false) (going : r.interrupted = false) (handed : r.waiting = []) :
    Change r none r.read := by
  rw [read, if_neg (by simp [running, going, handed])]
  split
  · rename_i out
    exact .finish running out
  · rename_i d rest next
    exact .receive d rest running handed next

theorem launch_change {r : Run} {raw : RawFrame} {rest : List RawFrame} (next : r.waiting = raw :: rest)
    (room : r.tasks.length < r.limit) : Change r none r.launch := by
  rw [launch, next]
  simp only [room, ↓reduceIte]
  exact .launch raw rest next room

theorem report_change {r : Run} {k : Nat} {raw : RawFrame} {f : Frame} {error : Float}
    (task : r.tasks[k]? = some ⟨raw, some (f, error)⟩) : Change r none (r.report k) := by
  rw [report, task]
  exact .report k raw f error task

/-- A frame of the right size can be encoded and measured, so storing it is a matter of writing its file. -/
theorem store_eq {r : Run} (sound : r.options.Sound) (sized : r.Sized) {k : Nat} {raw : RawFrame}
    (task : r.tasks[k]? = some ⟨raw, none⟩) (fault? : Option WriteFault) :
    ∃ f error, Frame.encode raw r.options.geometry r.options.palette = .ok f ∧
      r.store k fault? = match r.writeFile raw.index f fault? with
        | (tree, .error e) => { r with tree }.fail k e
        | (tree, .ok ()) => r.keep tree k raw f error := by
  have length := sized _ (List.mem_of_getElem? task)
  obtain ⟨f, encoded, shaped, -⟩ := Frame.encode_ok sound.geometry (Palette.ne_nil_of_check sound.palette) length
  obtain ⟨error, mean⟩ := Frame.meanError_ok (Frame.fits_of_sound sound.geometry length) shaped r.options.palette
  refine ⟨f, error, encoded, ?_⟩
  simp only [store, task, encoded, mean]
  rcases r.writeFile raw.index f fault? with ⟨tree, failure | done⟩
  · rfl
  · rfl

/-- Storing a frame either keeps it, spoils its file or does not touch it. -/
theorem store_change {r : Run} (sound : r.options.Sound) (sized : r.Sized) {k : Nat} {raw : RawFrame}
    (task : r.tasks[k]? = some ⟨raw, none⟩) (fault? : Option WriteFault) :
    Change r (r.leaves? (.store k fault?)) (r.store k fault?) := by
  obtain ⟨f, error, encoded, stored⟩ := store_eq sound sized task fault?
  rw [stored]
  simp only [leaves?, task, encoded, writeFile]
  cases kept : r.tree.kept? (r.options.framePath raw.index) f.text fault? with
  | none =>
    obtain ⟨failure, write⟩ := FileTree.write_of_kept?_eq_none kept
    rw [write]
    exact .lose k raw _ task
  | some octets =>
    obtain ⟨loc, resolved, puts, whole⟩ := FileTree.write_of_kept?_eq_some kept
    rcases write : r.tree.write (r.options.framePath raw.index) f.text fault? with ⟨tree, failure | done⟩
    · rw [write] at puts
      exact .spoil k raw octets loc tree _ task resolved puts
    · rw [write] at puts whole
      obtain rfl := whole rfl
      exact .keep k raw f error loc tree task encoded resolved puts

/-- Every move does nothing or is one of the changes, but for the one that calls the run off. -/
theorem step_cases {r : Run} (sound : r.options.Sound) (sized : r.Sized) {m : Move} (going : m ≠ .cancel) :
    r.step m = r ∧ r.leaves? m = none ∨ Change r (r.leaves? m) (r.step m) := by
  cases m with
  | read =>
    by_cases idle : (r.ended || r.interrupted || !r.waiting.isEmpty) = true
    · exact Or.inl ⟨by rw [step, read, if_pos idle], rfl⟩
    · simp only [Bool.or_eq_true, not_or, Bool.not_eq_true, Bool.not_eq_true', Bool.not_eq_false,
        List.isEmpty_iff] at idle
      exact Or.inr (read_change idle.1.1 idle.1.2 idle.2)
  | launch =>
    cases next : r.waiting with
    | nil => exact Or.inl ⟨by rw [step, launch, next], rfl⟩
    | cons raw rest =>
      by_cases room : r.tasks.length < r.limit
      · exact Or.inr (launch_change next room)
      · exact Or.inl ⟨by rw [step, launch, next]; simp [room], rfl⟩
  | store k fault? =>
    cases task : r.tasks[k]? with
    | none => exact Or.inl ⟨by rw [step, store, task], by rw [leaves?, task]⟩
    | some t =>
      obtain ⟨raw, _ | stored⟩ := t
      · exact Or.inr (store_change sound sized task fault?)
      · exact Or.inl ⟨by rw [step, store, task], by rw [leaves?, task]⟩
  | report k =>
    cases task : r.tasks[k]? with
    | none => exact Or.inl ⟨by rw [step, report, task], rfl⟩
    | some t =>
      obtain ⟨raw, _ | stored⟩ := t
      · exact Or.inl ⟨by rw [step, report, task], rfl⟩
      · exact Or.inr (report_change task)
  | cancel => exact absurd rfl going

end Run

end BlitReel
