import Mathlib
import BlitReel.Proofs.Conversion.Report
import BlitReel.Proofs.Picture.Canvas

/-!
# The preview at the end of a conversion

Whether a preview can be drawn is a matter of its canvas alone, whose sides are words of 64 bits that may wrap
(`undrawable_iff`). A run keeps the encoding of the first frame of its source (`Fronted`), so that at its end
there is something to draw. `finish_result` says what becomes of a run that went well: a canvas that cannot be
had ends it, and a preview that cannot be written is noted and the manifest is stored all the same.
-/

namespace BlitReel

namespace ConversionOptions

variable {o : ConversionOptions}

/-- The preview can be drawn: its sides, as 64 bits count them, make a canvas that can be had. -/
def HasCanvas (o : ConversionOptions) : Prop :=
  Preview.HasCanvas (o.geometry.width * o.scale) (o.geometry.height * o.scale)

instance (o : ConversionOptions) : Decidable o.HasCanvas :=
  inferInstanceAs (Decidable (Preview.HasCanvas (o.geometry.width * o.scale) (o.geometry.height * o.scale)))

-- The width wraps to zero, but two rows of cells with sides of 2 ^ 62 have no index.
example : ¬ HasCanvas { outputDir := [], geometry := ⟨4, 2⟩, fps := 1, previewScale := 2 ^ 62 } := by decide +kernel

theorem scale_pos (o : ConversionOptions) : 0 < o.scale.toInt := by
  unfold scale
  split
  · decide
  · rename_i positive
    rw [Int64.le_iff_toInt_le] at positive
    have zero : (0 : Int64).toInt = 0 := by decide
    omega

/-- A product of small words does not wrap. -/
theorem toInt_mul_scale {side : Int64} (pos : 0 < side.toInt) (small : side.toInt ≤ 2 ^ 24)
    (modest : o.scale.toInt ≤ 2 ^ 11) : (side * o.scale).toInt = side.toInt * o.scale.toInt := by
  have scale := o.scale_pos
  have product : side.toInt * o.scale.toInt ≤ 2 ^ 24 * 2 ^ 11 := Int.mul_le_mul small modest (by omega) (by omega)
  have positive : 0 < side.toInt * o.scale.toInt := Int.mul_pos pos scale
  rw [Int64.toInt_mul]
  apply Int.bmod_eq_of_le <;> omega

theorem side_scale (o : ConversionOptions) : Preview.side o.scale = o.scale := by
  have one : (1 : Int64).toInt = 1 := by decide
  have pos := o.scale_pos
  rw [Preview.side, if_neg]
  rw [Int64.lt_iff_toInt_lt]
  omega

/-- A scale of up to 2048 suits every grid. -/
theorem hasCanvas_of_le (sound : o.Sound) (modest : o.scale.toInt ≤ 2 ^ 11) : o.HasCanvas := by
  have wide := sound.geometry.width_pos
  have high := sound.geometry.height_pos
  have narrow : o.geometry.width.toInt ≤ 2 ^ 24 := sound.geometry.width_le.trans (by decide)
  have low : o.geometry.height.toInt ≤ 2 ^ 24 := sound.geometry.height_le.trans (by decide)
  have scale := o.scale_pos
  have bound {size : Int} (pos : 0 < size) (le : size ≤ 2 ^ 24) :
      0 < size * o.scale.toInt ∧ size * o.scale.toInt ≤ 2 ^ 24 * 2 ^ 11 :=
    ⟨Int.mul_pos pos scale, Int.mul_le_mul le modest scale.le (by decide)⟩
  obtain ⟨wide', narrow'⟩ := bound wide narrow
  obtain ⟨high', low'⟩ := bound high low
  have area : (o.geometry.width.toInt * o.geometry.height.toInt) * (o.scale.toInt * o.scale.toInt) ≤
      2 ^ 24 * (2 ^ 11 * 2 ^ 11) := by
    apply Int.mul_le_mul
    · exact sound.geometry.cells.trans (by decide)
    · exact Int.mul_le_mul modest modest scale.le (by decide)
    · exact (Int.mul_pos scale scale).le
    · decide
  have octets : (o.geometry.width.toInt * o.scale.toInt).natAbs * (o.geometry.height.toInt * o.scale.toInt).natAbs ≤
      2 ^ 46 := by
    apply Int.ofNat_le.1
    rw [Int.natCast_mul, Int.natAbs_of_nonneg wide'.le, Int.natAbs_of_nonneg high'.le]
    calc o.geometry.width.toInt * o.scale.toInt * (o.geometry.height.toInt * o.scale.toInt)
        = (o.geometry.width.toInt * o.geometry.height.toInt) * (o.scale.toInt * o.scale.toInt) := by ring
      _ ≤ 2 ^ 24 * (2 ^ 11 * 2 ^ 11) := area
      _ = (2 ^ 46 : Nat) := by decide
  unfold HasCanvas
  constructor
  · rw [toInt_mul_scale wide narrow modest]
    omega
  · rw [toInt_mul_scale high low modest]
    omega
  · rw [toInt_mul_scale wide narrow modest, toInt_mul_scale high low modest, Nat.mul_assoc]
    omega

end ConversionOptions

namespace Run

variable {t : FileTree} {s : Source} {o : ConversionOptions} {limit : Nat} {r r' : Run} {log : List (Int64 × Octets)}
  {left? : Option (Int64 × Octets)}

/-- The frame is what a raw frame is encoded to. -/
def Encodes (r : Run) (raw : RawFrame) (f : Frame) : Prop :=
  Frame.encode raw r.options.geometry r.options.palette = .ok f

/-- Stored tasks hold the encodings of their frames, and the first frame is kept when it is reported. -/
structure Fronted (s : Source) (r : Run) : Prop where
  stored : ∀ raw f error, ⟨raw, some (f, error)⟩ ∈ r.tasks → r.Encodes raw f
  first : ∀ f, r.first? = some f → ∃ raw ∈ r.framesRead s, raw.index = 1 ∧ r.Encodes raw f
  shown : ∀ p ∈ r.progress, p.frame = 1 → r.first?.isSome = true

namespace Fronted

theorem count (h : Fronted s r) (inv : Invariant t s o limit r log) {k : Nat} {raw : RawFrame} {f : Frame}
    {error : Float} (task : r.tasks[k]? = some ⟨raw, some (f, error)⟩) : Fronted s (r.count k raw f error) := by
  have mem := List.mem_of_getElem? task
  obtain ⟨reported, lost, ledger⟩ := inv.ledger
  have first? : (r.count k raw f error).first? = if raw.index == 1 then some f else r.first? := rfl
  constructor
  · intro raw f error mem
    exact h.stored raw f error (List.mem_of_mem_eraseIdx mem)
  · intro f' kept
    rw [first?] at kept
    split at kept
    · rename_i index
      cases kept
      exact ⟨raw, ledger.mem_frames mem, by simpa using index, h.stored raw f error mem⟩
    · exact h.first f' kept
  · intro p mem index
    rw [first?]
    split
    · rfl
    rename_i other
    rcases List.mem_append.1 mem with mem | mem
    · exact h.shown p mem index
    · rw [List.mem_singleton.1 mem] at index
      exact absurd index (by simpa using other)

theorem change (h : Fronted s r) (inv : Invariant t s o limit r log) (change : Change r left? r') : Fronted s r' := by
  cases change with
  | finish => exact ⟨h.stored, h.first, h.shown⟩
  | receive d rest running handed next =>
    have frames := (inv.reader.receive running next).2
    obtain ⟨_, rfl, received⟩ := receive_eq { r with deliveries := rest } d
    constructor
    · rw [received]
      exact h.stored
    · intro f kept
      obtain ⟨raw, mem, front⟩ := h.first f (by rw [received] at kept; exact kept)
      refine ⟨raw, ?_, ?_⟩
      · rw [frames]
        exact List.mem_append_left _ mem
      · rw [received]
        exact front
    · rw [received]
      exact h.shown
  | launch raw rest =>
    refine ⟨?_, h.first, h.shown⟩
    intro raw' f error mem
    rcases List.mem_append.1 mem with mem | mem
    · exact h.stored raw' f error mem
    · cases List.mem_singleton.1 mem
  | keep k raw f error loc tree task encoded =>
    refine ⟨?_, h.first, h.shown⟩
    intro raw' f' error' mem
    rcases List.mem_or_eq_of_mem_set mem with mem | same
    · exact h.stored raw' f' error' mem
    · cases same
      exact encoded
  | spoil | lose =>
    refine ⟨?_, h.first, h.shown⟩
    intro raw f error mem
    exact h.stored raw f error (List.mem_of_mem_eraseIdx mem)
  | report k raw f error task => exact h.count inv task

theorem step (h : Fronted s r) (sound : o.Sound) (inv : Invariant t s o limit r log) (m : Move) :
    Fronted s (r.step m) := by
  by_cases off : m = .cancel
  · subst off
    exact ⟨h.stored, h.first, h.shown⟩
  rcases step_cases (by rw [inv.options]; exact sound) inv.sized off with ⟨same, -⟩ | change
  · rw [same]
    exact h
  · exact h.change inv change

theorem steps (h : Fronted s r) (sound : o.Sound) (inv : Invariant t s o limit r log) (moves : List Move) :
    Fronted s (r.steps moves) := by
  induction moves generalizing r log with
  | nil => exact h
  | cons m moves ih => exact ih (h.step sound inv m) (inv.step sound m)

/-- A run that settled without a failure and had a frame keeps the encoding of the first one. -/
theorem first_frame (h : Fronted s r) (sound : o.Sound) (inv : Invariant t s o limit r log) (settled : r.settled = true)
    (going : r.cancelled = false) (intact : r.writeFailure? = none)
    (small : Conversion.frameCount s.content o < 2 ^ 63) (frames : 0 < Conversion.frameCount s.content o) :
    ∃ f, r.first? = some f ∧ Frame.encode (Conversion.frame s.content o 0) o.geometry o.palette = .ok f ∧
      f.Shaped o.geometry := by
  obtain ⟨-, perm⟩ := inv.progress_perm settled going intact
  obtain ⟨-, -, -, -, seen, -⟩ := inv.all_reported settled going intact
  have one : (1 : Int64) ∈ r.progress.map (·.frame) := by
    apply perm.symm.subset
    exact List.mem_map.2 ⟨0, List.mem_range.2 frames, rfl⟩
  obtain ⟨p, mem, index⟩ := List.mem_map.1 one
  obtain ⟨f, kept⟩ := Option.isSome_iff_exists.1 (h.shown p mem index)
  refine ⟨f, kept, ?_⟩
  obtain ⟨raw, read, number, encoded⟩ := h.first f kept
  rw [framesRead, inv.options, seen] at read
  obtain ⟨i, inside, rfl⟩ := List.mem_map.1 read
  -- Of the frames of the source only the one at the start has this number.
  obtain rfl : i = 0 := by
    have value := congrArg Int64.toInt number
    have first : (1 : Int64).toInt = 1 := by decide
    simp only [RawFrame.ofStream, Manifest.Builder.toInt_ofNat_succ small (List.mem_range.1 inside), first] at value
    omega
  rw [Encodes, inv.options] at encoded
  obtain ⟨f', encoded', shaped, -⟩ := Frame.encode_ok sound.geometry (Palette.ne_nil_of_check sound.palette)
    (RawFrame.length_ofStream frames)
  obtain rfl : f = f' := Except.ok.inj (encoded.symm.trans encoded')
  exact ⟨encoded, shaped⟩

end Fronted

end Run

namespace Conversion

variable {c : Conditions} {t : FileTree} {s : Source} {o : ConversionOptions}

theorem fronted_start (c : Conditions) (tree : FileTree) (s : Source) (o : ConversionOptions) (a : Assembler) :
    (start c tree s o a).Fronted s := by
  constructor
  · intro raw f error mem
    cases mem
  · intro f kept
    cases kept
  · intro p mem
    cases mem

/-- The preview of a frame cannot be drawn exactly when its canvas cannot be had. -/
theorem undrawable_iff {f : Frame} (shaped : f.Shaped o.geometry) :
    (∃ e, Preview.render f o.palette o.scale = .error e) ↔ ¬ o.HasCanvas := by
  rw [Preview.render_eq_error_iff, shaped.width, shaped.height, o.side_scale]
  rfl

/-- What the end of a run makes of its preview: the tree, and how the writing went. -/
inductive Drawn (c : Conditions) (r : Run) : FileTree → Except Failure Unit → Prop
  | unwanted (off : r.options.preview = false ∨ r.first? = none) : Drawn c r r.tree (.ok ())
  | written (f : Frame) (tree : FileTree) (w : Except Failure Unit) (wanted : r.options.preview = true)
      (first : r.first? = some f)
      (drawn : writePreview r.tree r.options.previewPath f r.options.palette r.options.scale c.previewFault? =
        .ok (tree, w)) : Drawn c r tree w

/-- The note about a preview that cannot be written. -/
def previewWarning (f : Failure) : Note :=
  { level := .warn, component := Run.component, template := "Failed to write preview: %s", values := [.text f.message] }

/-- What is noted about the writing of a preview. -/
def previewNotes : Except Failure Unit → Journal
  | .ok () => []
  | .error f => [previewWarning f]

/-- A preview is drawn, or there is none to draw, or it has no canvas. -/
theorem addPreview_cases (c : Conditions) (r : Run) :
    (∃ e f, addPreview c r = .error e ∧ r.options.preview = true ∧ r.first? = some f ∧
      Preview.render f r.options.palette r.options.scale = .error e) ∨
    ∃ r' tree w, addPreview c r = .ok r' ∧ Drawn c r tree w ∧ r'.tree = tree ∧
      r'.journal = r.journal ++ previewNotes w := by
  unfold addPreview
  split
  · rename_i f wanted first
    cases drawn : writePreview r.tree r.options.previewPath f r.options.palette r.options.scale c.previewFault? with
    | error e =>
      refine Or.inl ⟨e, f, rfl, wanted, first, ?_⟩
      unfold writePreview at drawn
      cases rendered : Preview.render f r.options.palette r.options.scale with
      | error e' =>
        rw [rendered] at drawn
        cases drawn
        rfl
      | ok g => simp [rendered, bind, Except.bind, pure, Except.pure] at drawn
    | ok outcome =>
      obtain ⟨tree, failure | done⟩ := outcome
      · exact Or.inr ⟨_, tree, .error failure, rfl, .written f tree _ wanted first drawn, rfl, rfl⟩
      · refine Or.inr ⟨_, tree, .ok (), rfl, .written f tree _ wanted first drawn, rfl, ?_⟩
        exact (List.append_nil _).symm
  · rename_i off
    refine Or.inr ⟨r, r.tree, .ok (), rfl, .unwanted ?_, rfl, (List.append_nil _).symm⟩
    cases wanted : r.options.preview with
    | false => exact Or.inl rfl
    | true =>
      refine Or.inr ?_
      cases first : r.first? with
      | none => rfl
      | some f => exact (off f wanted first).elim

/-- The end of a run that went well and has recorded frames: there is no canvas for its preview, or the preview is
done with, noted if it could not be written, and all depends on the manifest. -/
inductive Finished (c : Conditions) (r : Run) (out : Outcome) : Prop
  | collapsed (e : Collapse) (f : Frame) (wanted : r.options.preview = true) (first : r.first? = some f)
      (undrawn : Preview.render f r.options.palette r.options.scale = .error e) (result : out.result = .error e.toFailure)
  | stored (tree : FileTree) (w : Except Failure Unit) (drawn : Drawn c r tree w)
      (noted : ∀ f, w = .error f → previewWarning f ∈ out.journal)
      (result : out.result.map (fun _ => ()) =
        (Manifest.store c.refuse c.unique tree r.options.outputDir r.builder.build).outcome)
      (disk : out.tree = (Manifest.store c.refuse c.unique tree r.options.outputDir r.builder.build).final tree)

/-- What becomes of the manifest is the outcome, on the disk too. -/
theorem addManifest_result (c : Conditions) (r : Run) (truncated : Nat) :
    let storing := Manifest.store c.refuse c.unique r.tree r.options.outputDir r.builder.build
    (addManifest c r truncated).result.map (fun _ => ()) = storing.outcome ∧
      (addManifest c r truncated).tree = storing.final r.tree := by
  unfold addManifest
  dsimp only
  split
  · rename_i outcome
    rw [outcome]
    exact ⟨rfl, rfl⟩
  · rename_i outcome
    rw [outcome]
    exact ⟨rfl, rfl⟩

theorem addManifest_journal (c : Conditions) (r : Run) (truncated : Nat) {n : Note} (mem : n ∈ r.journal) :
    n ∈ (addManifest c r truncated).journal := by
  unfold addManifest
  dsimp only
  split
  · exact mem
  · exact List.mem_append_left _ mem

theorem finish_result (c : Conditions) {r : Run} (frames : r.builder.size ≠ 0) : Finished c r (finish c r) := by
  obtain ⟨builder, options, tree⟩ := noteTail_fields { r with assembler := r.assembler.close.2 } r.assembler.close.1
  have first : (noteTail { r with assembler := r.assembler.close.2 } r.assembler.close.1).first? = r.first? := by
    cases r.assembler.close.1 <;> rfl
  unfold finish
  dsimp only at builder options tree ⊢
  generalize noteTail { r with assembler := r.assembler.close.2 } r.assembler.close.1 = noted at builder options tree first ⊢
  rw [if_neg (by rw [builder]; simpa using frames)]
  rcases addPreview_cases c noted with ⟨e, f, fails, wanted, front, undrawn⟩ | ⟨r', tree', w, ok, drawn, tree_eq, journal⟩
  · rw [fails]
    rw [options] at wanted undrawn
    exact .collapsed e f wanted (first ▸ front) undrawn rfl
  · obtain ⟨builder', options', -⟩ := addPreview_touches (Links.hold_empty _) ok
    obtain ⟨result, disk⟩ := addManifest_result c r' ((r.assembler.close.1.map (·.residual)).getD 0)
    rw [builder', options', builder, options, tree_eq] at result disk
    rw [ok]
    refine .stored tree' w ?_ ?_ result disk
    · cases drawn with
      | unwanted off =>
        rw [tree]
        exact .unwanted (by rw [← options, ← first]; exact off)
      | written f _ _ wanted front written =>
        rw [options] at wanted
        rw [tree, options] at written
        exact .written f _ _ wanted (first ▸ front) written
    · rintro f rfl
      apply addManifest_journal
      rw [journal]
      exact List.mem_append_right _ (List.mem_singleton.2 rfl)

end Conversion

end BlitReel
