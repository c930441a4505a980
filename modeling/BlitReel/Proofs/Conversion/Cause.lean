import Mathlib
import BlitReel.Proofs.Conversion.Preview

/-!
# Why conversions fail

A failure keeps its cause on its way up. So the causes for which a conversion can fail are those of its own (it was
called off, there were no frames), those of the disk, those that the system and the producer bring in from
outside, and the collapse of a preview. Whatever property the others have (`Own`, `Outside`), the cause of a
failed conversion has it too, unless it is the preview that collapsed (`convertAlong_cause`). With the property of
not being a collapse this says that nothing else can collapse.
-/

namespace BlitReel

/-- If this is a failure, its cause is of this kind. -/
def FailsBy (Q : Cause → Prop) {α : Type} (x : Except Failure α) : Prop := ∀ f, x = .error f → Q f.cause

section FailsBy

variable {Q : Cause → Prop} {α β : Type}

theorem failsBy_ok (a : α) : FailsBy Q (.ok a) := by
  intro f fails
  cases fails

theorem failsBy_error {f : Failure} (cause : Q f.cause) : FailsBy Q (.error f : Except Failure α) := by
  intro g same
  cases same
  exact cause

theorem FailsBy.map {x : Except Failure α} (h : FailsBy Q x) (g : α → β) : FailsBy Q (x.map g) := by
  cases x with
  | error f => exact failsBy_error (h f rfl)
  | ok a => exact failsBy_ok (g a)

/-- Words before a failure do not change its cause. -/
theorem FailsBy.within {x : Except Failure α} (h : FailsBy Q x) (context : String) :
    FailsBy Q (x.mapError (·.within context)) := by
  cases x with
  | error f => exact failsBy_error (h f rfl)
  | ok a => exact failsBy_ok a

end FailsBy

/-- The causes that the disk gives. -/
structure OnDisk (Q : Cause → Prop) : Prop where
  notExist : Q .notExist
  other : Q .other

/-- The failure of a write that the system refuses. -/
def WriteFault.failure : WriteFault → Failure
  | .unopened f => f
  | .after _ f => f

namespace OnDisk

variable {Q : Cause → Prop} (h : OnDisk Q)

include h

theorem refusal (r : Refusal) : Q r.cause := by
  cases r with
  | noEntry => exact h.notExist
  | notDirectory | isDirectory | «exists» | permission | invalid | nameTooLong => exact h.other

theorem write (t : FileTree) (p content : Octets) {fault? : Option WriteFault}
    (fault : ∀ w, fault? = some w → Q w.failure.cause) : FailsBy Q (t.write p content fault?).2 := by
  unfold FileTree.write
  dsimp only
  cases fault? with
  | none =>
    cases t.put p content with
    | ok t' => exact failsBy_ok ()
    | error r => exact failsBy_error (h.refusal r)
  | some w =>
    have refused := fault w rfl
    cases w with
    | unopened f => exact failsBy_error refused
    | after count f =>
      dsimp only
      cases t.put p (content.take count) with
      | ok t' => exact failsBy_error refused
      | error r => exact failsBy_error (h.refusal r)

theorem makeDirs {refuse : Octets → Option Failure} (refused : ∀ p f, refuse p = some f → Q f.cause) (depth : Nat)
    (t : FileTree) (p : Octets) : FailsBy Q (FileTree.makeDirs refuse depth t p).2 := by
  induction depth generalizing t p with
  | zero => exact failsBy_error h.notExist
  | succ depth ih =>
    rw [FileTree.makeDirs]
    split
    · exact failsBy_ok ()
    · exact failsBy_error h.other
    split
    rename_i above made pair
    have led : FailsBy Q made := by
      split at pair
      · rename_i q _
        have below := ih t q
        rw [pair] at below
        exact below
      · cases pair
        exact failsBy_ok ()
    split
    · rename_i f
      exact failsBy_error (led f rfl)
    split
    · rename_i f said
      exact failsBy_error (refused p f said)
    · exact failsBy_ok ()
    · rename_i r _ _
      dsimp only
      split
      · exact failsBy_ok ()
      · exact failsBy_error (h.refusal r)

section Manifest

variable {refuse : Manifest.Refusals} (refused : ∀ stage f, refuse stage = some f → Q f.cause)

include refused

theorem createTemporary (unique : Octets) (t : FileTree) (dir : Octets) :
    FailsBy Q (Manifest.createTemporary refuse unique t dir) := by
  unfold Manifest.createTemporary
  dsimp only
  split
  · rename_i f said
    exact failsBy_error (refused .create f said)
  · exact failsBy_error h.other
  · cases t.put (Manifest.beside dir (Manifest.temporaryName unique)) [] with
    | ok t' => exact failsBy_ok t'
    | error r => exact failsBy_error (h.refusal r)

theorem fillAndMove (t : FileTree) (temp target content : Octets) :
    FailsBy Q (Manifest.fillAndMove refuse t temp target content).outcome := by
  unfold Manifest.fillAndMove
  dsimp only
  split
  · rename_i f said
    split
    · rename_i r _
      exact failsBy_error (h.refusal r)
    · exact failsBy_error (refused .write f said)
  split
  · rename_i r _
    exact failsBy_error (h.refusal r)
  split
  · rename_i f said
    exact failsBy_error (refused .close f said)
  · rename_i f _ said
    exact failsBy_error (refused .permit f said)
  · rename_i f _ _ said
    exact failsBy_error (refused .rename f said)
  split
  · rename_i r _
    exact failsBy_error (h.refusal r)
  · exact failsBy_ok ()

theorem store (unique : Octets) (t : FileTree) (dir : Octets) (m : Manifest) :
    FailsBy Q (Manifest.store refuse unique t dir m).outcome := by
  unfold Manifest.store Manifest.toJson
  split
  · rename_i f said
    split at said
    · cases said
      exact failsBy_error h.other
    · cases said
  · unfold Manifest.storeDocument
    have created := h.createTemporary refused unique t dir
    split
    · rename_i f fails
      exact failsBy_error (created f fails)
    · exact h.fillAndMove refused _ _ _ _

end Manifest

end OnDisk

/-- The causes that a conversion and the disk give by themselves. -/
structure Own (Q : Cause → Prop) : Prop extends OnDisk Q where
  cancelled : Q .cancelled
  noFrames : Q .noFrames

/-- What the system refuses along these moves is of this kind. -/
structure Outside (Q : Cause → Prop) (c : Conditions) (moves : List Run.Move) : Prop where
  directory : ∀ p f, c.refuseDirectory p = some f → Q f.cause
  frames : ∀ k w, .store k (some w) ∈ moves → Q w.failure.cause
  manifest : ∀ stage f, c.refuse stage = some f → Q f.cause

namespace Run

variable {Q : Cause → Prop} {t : FileTree} {s : Source} {o : ConversionOptions} {limit : Nat} {r : Run}
  {log : List (Int64 × Octets)}

/-- The failures that a run has met are of this kind. -/
structure Blames (Q : Cause → Prop) (r : Run) : Prop where
  writing : ∀ f, r.writeFailure? = some f → Q f.cause
  reading : ∀ f, r.readFailure? = some f → Q f.cause

/-- The first failure of a task is kept. -/
theorem Blames.fail (h : r.Blames Q) {f : Failure} (cause : Q f.cause) (tree : FileTree) (k : Nat) :
    ({ r with tree }.fail k f).Blames Q := by
  refine ⟨?_, h.reading⟩
  intro g kept
  change r.writeFailure?.or (some f) = some g at kept
  cases earlier : r.writeFailure? with
  | none =>
    rw [earlier] at kept
    cases kept
    exact cause
  | some e =>
    rw [earlier] at kept
    cases kept
    exact h.writing g earlier

/-- A move meets failures of the disk, of its own write and of the source only. -/
theorem Invariant.step_blames (sound : o.Sound) (inv : Invariant t s o limit r log) (disk : OnDisk Q) (h : r.Blames Q)
    (m : Move) (fault : ∀ k w, m = .store k (some w) → Q w.failure.cause) : (r.step m).Blames Q := by
  cases m with
  | read =>
    rw [Run.step, read]
    split
    · exact h
    split
    · exact ⟨h.writing, h.reading⟩
    · rename_i d rest next
      obtain ⟨_, rfl, received⟩ := receive_eq { r with deliveries := rest } d
      rw [received]
      refine ⟨h.writing, ?_⟩
      intro f said
      dsimp only at said
      split at said
      · cases said
        exact disk.other
      · exact h.reading f said
  | launch =>
    rw [Run.step, launch]
    split
    · split
      · exact ⟨h.writing, h.reading⟩
      · exact h
    · exact h
  | store k fault? =>
    rw [Run.step]
    rcases task : r.tasks[k]? with _ | ⟨raw, _ | stored⟩
    · simpa [store, task] using h
    · obtain ⟨f, error, -, stored⟩ := store_eq (by rw [inv.options]; exact sound) inv.sized task fault?
      have written : FailsBy Q (r.writeFile raw.index f fault?).2 := by
        apply FailsBy.within
        apply disk.write
        rintro w rfl
        exact fault k w rfl
      rw [stored]
      rcases write : r.writeFile raw.index f fault? with ⟨tree, failure | done⟩
      · rw [write] at written
        exact h.fail (written failure rfl) tree k
      · exact ⟨h.writing, h.reading⟩
    · simpa [store, task] using h
  | report k =>
    rw [Run.step, report]
    split
    · exact ⟨h.writing, h.reading⟩
    · exact h
  | cancel => exact ⟨h.writing, h.reading⟩

theorem Invariant.steps_blames (sound : o.Sound) (inv : Invariant t s o limit r log) (disk : OnDisk Q)
    (h : r.Blames Q) (moves : List Move) (faults : ∀ k w, .store k (some w) ∈ moves → Q w.failure.cause) :
    (r.steps moves).Blames Q := by
  induction moves generalizing r log with
  | nil => exact h
  | cons m moves ih =>
    have next : (r.step m).Blames Q := by
      apply inv.step_blames sound disk h m
      rintro k w rfl
      exact faults k w List.mem_cons_self
    exact ih (inv.step sound m) next fun k w mem => faults k w (List.mem_cons_of_mem m mem)

end Run

theorem Ending.failure?_eq_none_iff {e : Ending} : e.failure? = none ↔ e = .finished := by
  cases e <;> simp [failure?]

namespace Conversion

variable {Q : Cause → Prop} {c : Conditions} {t : FileTree} {s : Source} {o : ConversionOptions}
  {moves : List Run.Move}

/-- All frames of the source are read and written, and its producer is done: what is left is the preview and the
manifest. -/
def AllWritten (c : Conditions) (t : FileTree) (s : Source) (o : ConversionOptions) (moves : List Run.Move) : Prop :=
  (∃ tree r, begin c t s o = (tree, .ok r) ∧ (r.steps moves).cancelled = false ∧
    (r.steps moves).writeFailure? = none) ∧
    s.ending = .finished ∧ s.exit = .ok () ∧ 0 < frameCount s.content o

theorem begin_failsBy (sound : o.Sound) (disk : OnDisk Q) (refused : ∀ p f, c.refuseDirectory p = some f → Q f.cause) :
    FailsBy Q (begin c t s o).2 := by
  have made : FailsBy Q (t.makeAll o.framesDir c.refuseDirectory).2 := disk.makeDirs refused _ t o.framesDir
  rw [begin, ConversionOptions.validate_eq_ok_iff.2 sound]
  dsimp only
  rcases makes : t.makeAll o.framesDir c.refuseDirectory with ⟨tree, f | done⟩
  · rw [makes] at made
    exact failsBy_error (made f rfl)
  · simp only [Assembler.new_ok sound.geometry]
    exact failsBy_ok _

theorem run_of_begin {tree : FileTree} {r : Run} (begins : begin c t s o = (tree, .ok r)) :
    r = start c tree s o { frameSize := o.geometry.octets } := by
  rcases begin_cases c t s o with ⟨tree', f, refused, -⟩ | ⟨tree', begins', -, -⟩
  · rw [refused] at begins
    cases begins
  · rw [begins'] at begins
    cases begins
    rfl

theorem blames_start (Q : Cause → Prop) (c : Conditions) (tree : FileTree) (s : Source) (o : ConversionOptions)
    (a : Assembler) : (start c tree s o a).Blames Q := by
  constructor
  · intro f met
    cases met
  · intro f met
    cases met

/-- A run is judged by the first thing that went wrong with it, or finished when nothing did. -/
theorem conclude_judged (c : Conditions) (exit : Except Failure Unit) (r : Run) :
    (∃ f, (conclude c exit r).result = .error f ∧
      (f = .cancelled ∨ r.writeFailure? = some f ∨ r.readFailure? = some f ∨ exit = .error f)) ∨
    (r.cancelled = false ∧ r.writeFailure? = none ∧ r.readFailure? = none ∧ exit = .ok () ∧
      conclude c exit r = finish c r) := by
  unfold conclude
  split
  · exact Or.inl ⟨_, rfl, Or.inl rfl⟩
  rename_i going
  split
  · rename_i f met
    exact Or.inl ⟨f, rfl, Or.inr (Or.inl met)⟩
  · rename_i f _ met
    exact Or.inl ⟨f, rfl, Or.inr (Or.inr (Or.inl met))⟩
  · rename_i f _ _
    exact Or.inl ⟨f, rfl, Or.inr (Or.inr (Or.inr rfl))⟩
  · rename_i intact whole
    exact Or.inr ⟨by simpa using going, intact, whole, rfl, rfl⟩

/-- Nothing went wrong with a run, it has frames, and the preview that it wants has no canvas. -/
structure Undrawn (exit : Except Failure Unit) (r : Run) : Prop where
  going : r.cancelled = false
  intact : r.writeFailure? = none
  whole : r.readFailure? = none
  exited : exit = .ok ()
  frames : r.builder.size ≠ 0
  wanted : r.options.preview = true
  canvas : ∃ e front, r.first? = some front ∧ Preview.render front r.options.palette r.options.scale = .error e

/-- A run fails for a cause that it has met, or its preview collapses. -/
theorem conclude_cause (own : Own Q) (outside : Outside Q c moves) {exit : Except Failure Unit} (producer : FailsBy Q exit)
    {r : Run} (blames : r.Blames Q) {f : Failure} (fails : (conclude c exit r).result = .error f) :
    Q f.cause ∨ f.cause = .collapse ∧ Undrawn exit r := by
  rcases conclude_judged c exit r with ⟨g, result, met⟩ | ⟨going, intact, whole, exited, finishes⟩
  · obtain rfl : f = g := Except.error.inj (fails.symm.trans result)
    left
    rcases met with rfl | met | met | met
    · exact own.cancelled
    · exact blames.writing f met
    · exact blames.reading f met
    · exact producer f met
  rw [finishes] at fails
  by_cases empty : r.builder.size = 0
  · rw [(finish_barren c empty).1] at fails
    cases fails
    exact Or.inl own.noFrames
  cases finish_result c empty with
  | collapsed e front wanted first undrawn result =>
    obtain rfl : f = e.toFailure := Except.error.inj (fails.symm.trans result)
    exact Or.inr ⟨rfl, going, intact, whole, exited, empty, wanted, e, front, first, undrawn⟩
  | stored tree w drawn noted result disk =>
    rw [fails] at result
    exact Or.inl (own.store outside.manifest _ _ _ _ f result.symm)

/-- Whatever the schedule, a conversion with sound options fails for a cause of its own, of the disk or from outside,
or its preview collapses. -/
theorem convertAlong_cause (sound : o.Sound) (own : Own Q) (outside : Outside Q c moves) (producer : FailsBy Q s.exit)
    {f : Failure} (fails : (convertAlong c t s o moves).result = .error f) :
    Q f.cause ∨ f.cause = .collapse ∧ ∃ tree,
      begin c t s o = (tree, .ok (start c tree s o { frameSize := o.geometry.octets })) ∧
        Undrawn s.exit ((start c tree s o { frameSize := o.geometry.octets }).steps moves) := by
  rcases begin_cases c t s o with ⟨tree, g, refused, -⟩ | ⟨tree, begins, -, -⟩
  · have early := @begin_failsBy Q c t s o sound own.toOnDisk outside.directory
    rw [refused] at early
    rw [convertAlong, refused] at fails
    cases fails
    exact Or.inl (early f rfl)
  · have inv := invariant_start c sound tree s
    have blames := inv.steps_blames sound own.toOnDisk (blames_start Q c tree s o _) moves outside.frames
    rw [convertAlong, begins] at fails
    refine (conclude_cause own outside producer blames fails).imp_right ?_
    rintro ⟨cause, undrawn⟩
    exact ⟨cause, tree, begins, undrawn⟩

section Settled

variable {limit : Nat} {r : Run} {log : List (Int64 × Octets)}

/-- A settled run gets to its preview when it was not called off, nothing failed and there were frames. -/
theorem conclude_settled (c : Conditions) (inv : r.Invariant t s o limit log) (settled : r.settled = true)
    (small : frameCount s.content o < 2 ^ 63) (going : r.cancelled = false) (intact : r.writeFailure? = none)
    (ended : s.ending = .finished) (exited : s.exit = .ok ()) (frames : 0 < frameCount s.content o) :
    r.builder.build = fullManifest s.content o ∧ Finished c r (conclude c s.exit r) := by
  obtain ⟨manifest, -, failure, -⟩ := inv.complete settled going intact small
  refine ⟨manifest, ?_⟩
  rw [exited, conclude_calm c going intact (failure.trans (Ending.failure?_eq_none_iff.2 ended))]
  apply finish_result
  rw [Manifest.Builder.size_eq, manifest]
  simpa [fullManifest] using frames.ne'

/-- With all frames written, there is something to draw, so a preview cannot be drawn exactly for want of a canvas. -/
theorem undrawn_iff (sound : o.Sound) (inv : r.Invariant t s o limit log) (fronted : r.Fronted s)
    (settled : r.settled = true) (small : frameCount s.content o < 2 ^ 63) (going : r.cancelled = false)
    (intact : r.writeFailure? = none) (frames : 0 < frameCount s.content o) :
    (∃ e front, r.first? = some front ∧ Preview.render front r.options.palette r.options.scale = .error e) ↔
      ¬ o.HasCanvas := by
  obtain ⟨f, first, -, shaped⟩ := fronted.first_frame sound inv settled going intact small frames
  rw [inv.options, ← undrawable_iff shaped]
  constructor
  · rintro ⟨e, front, kept, undrawn⟩
    obtain rfl : f = front := Option.some.inj (first.symm.trans kept)
    exact ⟨e, undrawn⟩
  · rintro ⟨e, undrawn⟩
    exact ⟨e, f, first, undrawn⟩

end Settled

/-- Where nothing else can collapse, a finished conversion that does has written all frames, and its preview has no
canvas. -/
theorem convertAlong_collapse (sound : o.Sound) (outside : Outside (· ≠ .collapse) c moves)
    (producer : FailsBy (· ≠ .collapse) s.exit) (finished : finishes c t s o moves = true)
    (small : frameCount s.content o < 2 ^ 63) {f : Failure} (fails : (convertAlong c t s o moves).result = .error f)
    (cause : f.cause = .collapse) : AllWritten c t s o moves ∧ o.preview = true ∧ ¬ o.HasCanvas := by
  have own : Own (· ≠ .collapse) := ⟨⟨by decide, by decide⟩, by decide, by decide⟩
  rcases convertAlong_cause sound own outside producer fails with other | ⟨-, tree, begins, undrawn⟩
  · exact absurd cause other
  have inv := (invariant_start c sound tree s).steps sound moves
  have fronted := (fronted_start c tree s o _).steps sound (invariant_start c sound tree s) moves
  rw [finishes, begins] at finished
  obtain ⟨manifest, -, failure, -⟩ := inv.complete finished undrawn.going undrawn.intact small
  have ended := Ending.failure?_eq_none_iff.1 (failure.symm.trans undrawn.whole)
  have frames : 0 < frameCount s.content o := by
    have size := undrawn.frames
    rw [Manifest.Builder.size_eq, manifest] at size
    simpa [fullManifest, Nat.pos_iff_ne_zero] using size
  have wanted := undrawn.wanted
  rw [inv.options] at wanted
  refine ⟨⟨⟨tree, _, begins, undrawn.going, undrawn.intact⟩, ended, undrawn.exited, frames⟩, wanted, ?_⟩
  exact (undrawn_iff sound inv fronted finished small undrawn.going undrawn.intact frames).1 undrawn.canvas

/-- Whether a conversion has no result at all. -/
def Outcome.collapsed (out : Outcome) : Bool :=
  match out.result with
  | .error f => f.cause == .collapse
  | .ok _ => false

theorem Outcome.collapsed_iff {out : Outcome} : out.collapsed = true ↔ ∃ f, out.result = .error f ∧ f.cause = .collapse := by
  unfold collapsed
  cases out.result <;> simp

/-- The manifest of all frames is stored after the preview is done with, and the outcome is what becomes of that; what
went wrong with the preview is noted. -/
def ManifestDecides (c : Conditions) (t : FileTree) (s : Source) (o : ConversionOptions) (moves : List Run.Move) : Prop :=
  let out := convertAlong c t s o moves
  ∃ tree r, begin c t s o = (tree, .ok r) ∧ ∃ drawn w, Drawn c (r.steps moves) drawn w ∧
    (∀ f, w = .error f → previewWarning f ∈ out.journal) ∧
    let storing := Manifest.store c.refuse c.unique drawn o.outputDir (fullManifest s.content o)
    out.result.map (fun _ => ()) = storing.outcome ∧ out.tree = storing.final drawn

section Collapse

variable (sound : o.Sound) (finished : finishes c t s o moves = true) (small : frameCount s.content o < 2 ^ 63)
  (written : AllWritten c t s o moves)

include sound finished small written

/-- With all frames written a conversion collapses for want of a canvas, or its manifest decides. -/
theorem collapsed_or_decided :
    (o.preview = true ∧ ¬ o.HasCanvas ∧ (convertAlong c t s o moves).collapsed = true) ∨
      (o.preview = false ∨ o.HasCanvas) ∧ ManifestDecides c t s o moves := by
  obtain ⟨⟨tree, r, begins, going, intact⟩, ended, exited, frames⟩ := written
  obtain rfl := run_of_begin begins
  have inv := (invariant_start c sound tree s).steps sound moves
  have fronted := (fronted_start c tree s o _).steps sound (invariant_start c sound tree s) moves
  rw [finishes, begins] at finished
  have undrawn := undrawn_iff sound inv fronted finished small going intact frames
  obtain ⟨manifest, ending⟩ := conclude_settled c inv finished small going intact ended exited frames
  have along : convertAlong c t s o moves =
      conclude c s.exit ((start c tree s o { frameSize := o.geometry.octets }).steps moves) := by
    rw [convertAlong, begins]
  unfold ManifestDecides
  rw [along]
  cases ending with
  | collapsed e front wanted first fails result =>
    left
    rw [inv.options] at wanted
    refine ⟨wanted, undrawn.1 ⟨e, front, first, fails⟩, ?_⟩
    exact Outcome.collapsed_iff.2 ⟨_, result, rfl⟩
  | stored drawn w preview noted result disk =>
    right
    rw [inv.options, manifest] at result disk
    refine ⟨?_, tree, _, begins, drawn, w, preview, noted, result, disk⟩
    obtain ⟨f, first, -, shaped⟩ := fronted.first_frame sound inv finished going intact small frames
    cases preview with
    | unwanted off =>
      rw [inv.options, first] at off
      exact Or.inl (by simpa using off)
    | written f' _ _ wanted first' drawing =>
      right
      by_contra large
      obtain ⟨e, fails⟩ := (undrawable_iff shaped).2 large
      obtain rfl : f = f' := Option.some.inj (first.symm.trans first')
      rw [inv.options, writePreview, fails] at drawing
      cases drawing

end Collapse

/-- A system that refuses nothing. -/
theorem outside_calm (Q : Cause → Prop) {moves : List Run.Move} (faultless : ∀ k w, .store k (some w) ∉ moves) :
    Outside Q {} moves := by
  constructor
  · intro p f refused
    cases refused
  · intro k w mem
    exact absurd mem (faultless k w)
  · intro stage f refused
    cases refused

/-- A grid of four by four cells with a preview whose sides wrap to nothing. -/
def wrappedPreview : ConversionOptions :=
  { outputDir := Octets.ofString "out", geometry := ⟨4, 4⟩, fps := 10, workers := 1, preview := true
    previewScale := 4611686018427387904 }

/-- One black frame for that grid. -/
def blackFrame : Source := { deliveries := [⟨List.replicate 48 0, none⟩] }

def oneFrame : List Run.Move := [.read, .launch, .store 0 none, .report 0, .read]

theorem allWritten_wrappedPreview : AllWritten {} {} blackFrame wrappedPreview oneFrame := by
  have sound := ConversionOptions.validate_eq_ok_iff.1 (show wrappedPreview.validate = .ok () by decide +kernel)
  have begins := begin_ok {} {} blackFrame sound (by decide +kernel)
  refine ⟨⟨_, _, begins, ?_, ?_⟩, rfl, rfl, ?_⟩
  · decide +kernel
  · decide +kernel
  · decide +kernel

end Conversion

end BlitReel
