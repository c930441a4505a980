import Mathlib
import BlitReel.Conversion.Basic
import BlitReel.Proofs.Conversion.Invariant
import BlitReel.Proofs.Manifest.Storage
import BlitReel.Proofs.Number.Binary64

/-!
# How conversions begin and end

A conversion begins on a tree to which only directories were added (`begin_cases`) and its run satisfies
the invariant. At its end the run is judged (`conclude_cases`): a failed conversion leaves the disk of
the run but for a preview, and a successful one adds the manifest. A run that settled without a failure
has written all frames of its source and recorded them in order (`Invariant.complete`).
-/

namespace BlitReel

theorem Preview.plain_fileName : Path.Plain Preview.fileName := ⟨by decide, by decide, by decide, by decide⟩

namespace Manifest.Builder

theorem toInt_ofNat_succ {i n : Nat} (small : n < 2 ^ 63) (hi : i < n) : (Int64.ofNat (i + 1)).toInt = i + 1 := by
  rw [Int64.toInt_ofNat_of_lt (by omega)]
  simp

/-- Names recorded in any order come out in the order of their indices. -/
theorem ordered_eq {b : Builder} {n : Nat} (small : n < 2 ^ 63) {name : Int64 → Octets}
    (names : b.names.Perm ((List.range n).map fun i => (Int64.ofNat (i + 1), name (Int64.ofNat (i + 1))))) :
    b.ordered = (List.range n).map fun i => name (Int64.ofNat (i + 1)) := by
  have ascending : ((List.range n).map fun i => (Int64.ofNat (i + 1), name (Int64.ofNat (i + 1)))).Pairwise
      fun x y => x.1.toInt < y.1.toInt := by
    rw [List.pairwise_map]
    refine List.Pairwise.imp_of_mem ?_ List.pairwise_lt_range
    intro i j hi hj lt
    rw [List.mem_range] at hi hj
    rw [toInt_ofNat_succ small hi, toInt_ofNat_succ small hj]
    omega
  rw [ordered_eq_map, sorted_eq names ascending, List.map_map]
  rfl

end Manifest.Builder

namespace Conversion

/-- The number of complete frames in a stream. -/
def frameCount (stream : Octets) (o : ConversionOptions) : Nat := stream.length / o.geometry.octets

/-- The frame number `i` of a stream, counted from zero. -/
def frame (stream : Octets) (o : ConversionOptions) (i : Nat) : RawFrame :=
  RawFrame.ofStream o.geometry.octets stream i

/-- The manifest that lists all frames of a stream. -/
def fullManifest (stream : Octets) (o : ConversionOptions) : Manifest where
  format := Manifest.formatName
  width := o.geometry.width
  height := o.geometry.height
  fps := o.fps
  frameCount := Int64.ofNat (frameCount stream o)
  slug := o.slug
  framesBasePath := Manifest.framesDir
  frames := (List.range (frameCount stream o)).map fun i => Frame.fileName (Int64.ofNat (i + 1))
  listed := true

theorem toJson_ok {o : ConversionOptions} (sound : o.Sound) (stream : Octets) :
    ∃ j, (fullManifest stream o).toJson = .ok j := by
  have finite : Binary64.isFinite o.fps = true := Binary64.isFinite_of_gt sound.rate_pos sound.rate_finite
  rw [Manifest.toJson, if_neg (by simp [fullManifest, finite])]
  exact ⟨_, rfl⟩

/-- Frames of one stream have different indices, as far as 64 bits count them. -/
theorem nodup_index {n : Nat} (small : n < 2 ^ 63) (size : Nat) (stream : Octets) :
    (((List.range n).map (RawFrame.ofStream size stream)).map (·.index)).Nodup := by
  rw [List.map_map]
  refine List.Nodup.map_on ?_ List.nodup_range
  intro i hi j hj same
  rw [List.mem_range] at hi hj
  have value := congrArg Int64.toInt same
  simp only [Function.comp_apply, RawFrame.ofStream, Manifest.Builder.toInt_ofNat_succ small hi,
    Manifest.Builder.toInt_ofNat_succ small hj] at value
  omega

end Conversion

/-- Without tasks the names recorded are those of the frames reported. -/
theorem Run.Ledger.names_perm {r : Run} {frames reported lost : List RawFrame} {log : List (Int64 × Octets)}
    (h : Ledger r frames log reported lost) (idle : r.tasks = []) (distinct : (reported.map (·.index)).Nodup) :
    r.builder.names.Perm (reported.map fun raw => (raw.index, Frame.fileName raw.index)) := by
  refine (List.perm_ext_iff_of_nodup (List.Nodup.of_map _ h.distinct) ?_).2 fun x => ?_
  · refine List.Nodup.of_map (·.1) ?_
    rw [List.map_map]
    exact distinct
  · rw [h.named, List.mem_map]
    constructor
    · rintro ⟨raw, mem | ⟨stored, mem⟩, rfl⟩
      · exact ⟨raw, mem, rfl⟩
      · rw [idle] at mem
        cases mem
    · rintro ⟨raw, mem, rfl⟩
      exact ⟨raw, Or.inl mem, rfl⟩

/-- What is logged belongs to frames that were read. -/
theorem Run.Account.logged {s : Source} {o : ConversionOptions} {limit : Nat} {r : Run} {log : List (Int64 × Octets)}
    (h : Account s o limit r log) {e : Int64 × Octets} (mem : e ∈ log) :
    ∃ i < (r.seen s).length / o.geometry.octets, e.1 = Int64.ofNat (i + 1) := by
  obtain ⟨reported, lost, ledger⟩ := h.ledger
  obtain ⟨raw, place, index⟩ := ledger.logged e mem
  have read : raw ∈ r.framesRead s := by
    rcases place with (mem | ⟨stored, mem⟩) | mem
    · exact ledger.all.subset (by simp [mem])
    · exact ledger.mem_frames mem
    · exact ledger.all.subset (by simp [mem])
  obtain ⟨i, hi, rfl⟩ := List.mem_map.1 read
  rw [h.options] at hi
  exact ⟨i, List.mem_range.1 hi, index.symm⟩

namespace Run.Invariant

variable {t : FileTree} {s : Source} {o : ConversionOptions} {limit : Nat} {r : Run} {log : List (Int64 × Octets)}

/-- Each frame file is written at most once. -/
theorem once (h : Invariant t s o limit r log) (small : (r.seen s).length / o.geometry.octets < 2 ^ 63) :
    (log.map (·.1)).Nodup := by
  obtain ⟨reported, lost, ledger⟩ := h.ledger
  refine ledger.once ?_
  rw [framesRead, h.options]
  exact Conversion.nodup_index small _ _

theorem length_seen_le (h : Invariant t s o limit r log) : (r.seen s).length ≤ s.content.length := by
  cases ended : r.ended with
  | true => rw [(h.reader.exhausted ended).1]
  | false =>
    rw [(h.reader.running ended).1, List.length_append]
    omega

/-- Of the disk only the files of frames that were read are written. -/
theorem touches (h : Invariant t s o limit r log) :
    FileTree.Touches t r.tree fun p =>
      ∃ i < (r.seen s).length / o.geometry.octets, p = o.framePath (Int64.ofNat (i + 1)) := by
  refine ⟨h.disk.dirs, fun loc => (h.disk.changed loc).imp_right ?_⟩
  rintro ⟨e, mem, resolved, notDir, executable, file⟩
  obtain ⟨i, hi, index⟩ := h.logged mem
  rw [h.options, index] at resolved
  have written : FileTree.Written t r.tree (o.framePath (Int64.ofNat (i + 1))) loc :=
    ⟨h.disk.dirs.resolve_iff.2 resolved, notDir, e.2, executable, file⟩
  exact ⟨notDir, written.file, _, loc, ⟨i, hi, rfl⟩, written, Links.mem_names.2 (Or.inl rfl)⟩

/-- A run that settled without a failure has read its source to the end and reported every frame of it. -/
theorem all_reported (h : Invariant t s o limit r log) (settled : r.settled = true) (going : r.cancelled = false)
    (intact : r.writeFailure? = none) :
    ∃ reported, Ledger r (r.framesRead s) log reported [] ∧
      reported.Perm ((List.range (Conversion.frameCount s.content o)).map (Conversion.frame s.content o)) ∧
      r.tasks = [] ∧ r.seen s = s.content ∧ r.readFailure? = s.ending.failure? := by
  simp only [Run.settled, interrupted, going, intact, Option.isSome_none, Bool.or_false, Bool.and_eq_true,
    List.isEmpty_iff] at settled
  obtain ⟨⟨ended, noneWaiting⟩, noTasks⟩ := settled
  obtain ⟨content, failure⟩ := h.reader.exhausted ended
  obtain ⟨reported, lost, ledger⟩ := h.ledger
  obtain rfl := ledger.intact.1 intact
  refine ⟨reported, ledger, ?_, noTasks, content.symm, failure⟩
  have frames : r.framesRead s =
      (List.range (Conversion.frameCount s.content o)).map (Conversion.frame s.content o) := by
    rw [framesRead, h.options, ← content]
    rfl
  have all := ledger.all
  rwa [noneWaiting, noTasks, frames, List.map_nil, List.nil_append, List.nil_append, List.append_nil] at all

/-- A run that settled without a failure has read and written everything. -/
theorem complete (h : Invariant t s o limit r log) (settled : r.settled = true) (going : r.cancelled = false)
    (intact : r.writeFailure? = none) (small : Conversion.frameCount s.content o < 2 ^ 63) :
    r.builder.build = Conversion.fullManifest s.content o ∧ r.seen s = s.content ∧ r.readFailure? = s.ending.failure? ∧
      ∀ i < Conversion.frameCount s.content o, ∃ f,
        Frame.encode (Conversion.frame s.content o i) o.geometry o.palette = .ok f ∧
          r.tree.content (o.framePath (Int64.ofNat (i + 1))) = .ok f.text := by
  obtain ⟨reported, ledger, all, noTasks, content, failure⟩ := h.all_reported settled going intact
  have distinct : (reported.map (·.index)).Nodup :=
    (all.map _).nodup_iff.2 (Conversion.nodup_index small o.geometry.octets s.content)
  refine ⟨?_, content, failure, fun i hi => ?_⟩
  · have names := (ledger.names_perm noTasks distinct).trans (all.map _)
    rw [List.map_map] at names
    have count : r.builder.size = Conversion.frameCount s.content o := by
      rw [Manifest.Builder.size, names.length_eq, List.length_map, List.length_range]
    rw [Manifest.Builder.build, Conversion.fullManifest, h.geometry, h.fps, h.slug, count,
      Manifest.Builder.ordered_eq small names]
  · have mem : Conversion.frame s.content o i ∈ reported :=
      all.symm.subset (List.mem_map_of_mem (List.mem_range.2 hi))
    obtain ⟨f, encoded, logged⟩ := ledger.filed _ (Or.inl mem)
    rw [h.options] at encoded
    refine ⟨f, encoded, ?_⟩
    have current := h.disk.current (h.once (by rw [content]; exact small)) _ logged
    rwa [h.options] at current

end Run.Invariant

namespace Conversion

variable {c : Conditions} {t : FileTree} {s : Source} {o : ConversionOptions}

/-- A run that has just started. -/
theorem invariant_start (c : Conditions) (sound : o.Sound) (tree : FileTree) (s : Source) :
    (start c tree s o { frameSize := o.geometry.octets }).Invariant tree s o (o.limit c.processors) [] := by
  have seen : (start c tree s o { frameSize := o.geometry.octets }).seen s = [] := by
    simp [Run.seen, start, Run.note]
  have frames : (start c tree s o { frameSize := o.geometry.octets }).framesRead s = [] := by
    simp [Run.framesRead, seen]
  have reader : (start c tree s o { frameSize := o.geometry.octets }).Reader s := by
    refine ⟨rfl, List.suffix_refl _, ?_, ?_, fun _ => ⟨?_, rfl, rfl⟩, by simp [start, Run.note]⟩
    · rw [seen]
      exact Assembler.seen_nil sound.geometry.octets_pos
    · rw [seen]
      simp [start, Run.note]
    · rw [seen]
      rfl
  refine ⟨⟨rfl, rfl, rfl, rfl, rfl, reader, [], [], ?_⟩, FileTree.SameDirs.refl tree, fun _ => Or.inl rfl, by simp⟩
  rw [frames]
  refine ⟨List.Perm.refl _, ?_, List.nodup_nil, rfl, rfl, by simp [start, Run.note], ?_, by simp,
    fun _ => List.nodup_nil⟩
  · simp [Run.Stored, start, Run.note]
  · simp [Run.Stored, start, Run.note]

/-- Options that fail their check, or a directory that cannot be made, end a conversion before it has read
anything; only directories were added. -/
theorem begin_cases (c : Conditions) (t : FileTree) (s : Source) (o : ConversionOptions) :
    (∃ tree f, begin c t s o = (tree, .error f) ∧ FileTree.Grows t tree o.framesDir ∧ (tree = t ∨ o.Sound)) ∨
      ∃ tree, begin c t s o = (tree, .ok (start c tree s o { frameSize := o.geometry.octets })) ∧
        FileTree.Grows t tree o.framesDir ∧ o.Sound := by
  have grows := FileTree.makeAll_grows t o.framesDir c.refuseDirectory
  rw [begin]
  cases checked : o.validate with
  | error f => exact Or.inl ⟨t, f, rfl, FileTree.Grows.refl t o.framesDir, Or.inl rfl⟩
  | ok u =>
    have sound := ConversionOptions.validate_eq_ok_iff.1 checked
    rcases made : t.makeAll o.framesDir c.refuseDirectory with ⟨tree, f | u⟩
    · rw [made] at grows
      exact Or.inl ⟨tree, _, rfl, grows, Or.inr sound⟩
    · rw [made] at grows
      simp only [Assembler.new_ok sound.geometry]
      exact Or.inr ⟨tree, rfl, grows, sound⟩

/-- Valid options and a directory for the frames get a conversion going. -/
theorem begin_ok (c : Conditions) (t : FileTree) (s : Source) (sound : o.Sound)
    (made : (t.makeAll o.framesDir c.refuseDirectory).2 = .ok ()) :
    begin c t s o = ((t.makeAll o.framesDir c.refuseDirectory).1,
      .ok (start c (t.makeAll o.framesDir c.refuseDirectory).1 s o { frameSize := o.geometry.octets })) := by
  rw [begin, ConversionOptions.validate_eq_ok_iff.2 sound]
  simp only [made, Assembler.new_ok sound.geometry]

/-- A preview is wanted and this is its place. -/
def IsPreview (o : ConversionOptions) (p : Octets) : Prop := o.preview = true ∧ p = o.previewPath

/-- Drawing the preview changes nothing of a run but its disk and its notes, and of the disk only the file
of the preview, if one is wanted. -/
theorem addPreview_touches {links : Links} {r r' : Run} (held : links.Hold r.tree)
    (h : addPreview c r links = .ok r') :
    r'.builder = r.builder ∧ r'.options = r.options ∧
      FileTree.Touches r.tree r'.tree (IsPreview r.options) links := by
  rw [addPreview] at h
  split at h
  · rename_i f wanted first
    rw [writePreview] at h
    cases drawn : Preview.render f r.options.palette r.options.scale with
    | error c => simp [drawn, bind, Except.bind] at h
    | ok g =>
      simp only [drawn, bind, Except.bind, pure, Except.pure, writeDrawing] at h
      have touches : FileTree.Touches r.tree
          (r.tree.write r.options.previewPath ((previewFile g).toOption.getD []) c.previewFault? links).1
          (IsPreview r.options) links :=
        (FileTree.Touches.of_write held _ _ _).mono fun p same => ⟨wanted, same⟩
      split at h
      · rename_i tree split
        cases h
        rw [show _ = tree from congrArg Prod.fst split] at touches
        exact ⟨rfl, rfl, touches⟩
      · rename_i tree failure split
        cases h
        rw [show _ = tree from congrArg Prod.fst split] at touches
        exact ⟨rfl, rfl, touches⟩
  · cases h
    exact ⟨rfl, rfl, FileTree.Touches.refl _ _⟩

/-- The manifest is stored after the preview was drawn, or the conversion fails with all else as it was. -/
theorem addManifest_cases (c : Conditions) (r : Run) (truncated : Nat) :
    ((∃ f, (addManifest c r truncated).result = .error f) ∧
        Manifest.SameNodes r.tree (addManifest c r truncated).tree) ∨
      ∃ res, (addManifest c r truncated).result = .ok res ∧ res.manifest = r.builder.build ∧
        res.manifestPath = r.options.manifestPath ∧ res.truncated = truncated ∧
        ∃ j place, r.builder.build.toJson = .ok j ∧ r.tree.resolve r.options.manifestPath = .ok place ∧
          FileTree.Puts r.tree (addManifest c r truncated).tree place (Octets.ofString j.indented) := by
  unfold addManifest
  dsimp only
  rcases Manifest.store_cases c.refuse c.unique_plain r.tree r.options.outputDir r.builder.build with
    ⟨⟨f, outcome⟩, same⟩ | ⟨outcome, j, place, document, aim, puts⟩
  · rw [outcome]
    exact Or.inl ⟨⟨f, rfl⟩, same⟩
  · rw [outcome]
    exact Or.inr ⟨_, rfl, rfl, rfl, rfl, j, place, document, aim, puts⟩

theorem noteTail_fields (r : Run) (tail? : Option Assembler.TruncatedTail) :
    (noteTail r tail?).builder = r.builder ∧ (noteTail r tail?).options = r.options ∧
      (noteTail r tail?).tree = r.tree := by
  cases tail? with
  | none => exact ⟨rfl, rfl, rfl⟩
  | some t => exact ⟨rfl, rfl, rfl⟩

/-- A run that went well fails when it has no frames or the preview or the manifest cannot be made, and
succeeds with the manifest stored. -/
theorem finish_cases (c : Conditions) {links : Links} {r : Run} (held : links.Hold r.tree) :
    ((∃ f, (finish c r links).result = .error f) ∧
        FileTree.Touches r.tree (finish c r links).tree (IsPreview r.options) links) ∨
      ∃ res, (finish c r links).result = .ok res ∧ r.builder.size ≠ 0 ∧ res.manifest = r.builder.build ∧
        res.manifestPath = r.options.manifestPath ∧
        res.truncated = (r.assembler.close.1.map (·.residual)).getD 0 ∧
        ∃ tree j place, FileTree.Touches r.tree tree (IsPreview r.options) links ∧ r.builder.build.toJson = .ok j ∧
          tree.resolve r.options.manifestPath = .ok place ∧
          FileTree.Puts tree (finish c r links).tree place (Octets.ofString j.indented) := by
  unfold finish
  dsimp only
  obtain ⟨builder, options, tree⟩ := noteTail_fields { r with assembler := r.assembler.close.2 } r.assembler.close.1
  dsimp only at builder options tree
  generalize noteTail { r with assembler := r.assembler.close.2 } r.assembler.close.1 = noted at builder options tree
  rw [← builder, ← options, ← tree]
  rw [← tree] at held
  have untouched : FileTree.Touches noted.tree noted.tree (IsPreview noted.options) links :=
    FileTree.Touches.refl _ _
  split
  · exact Or.inl ⟨⟨_, rfl⟩, untouched⟩
  rename_i frames
  cases drawn : addPreview c noted links with
  | error c => exact Or.inl ⟨⟨_, rfl⟩, untouched⟩
  | ok r' =>
    obtain ⟨builder', options', touches⟩ := addPreview_touches held drawn
    rcases addManifest_cases c r' ((r.assembler.close.1.map (·.residual)).getD 0) with
      ⟨error, same⟩ | ⟨res, ok, manifest, path, truncated, j, place, document, aim, puts⟩
    · exact Or.inl ⟨error, touches.trans (same.touches _)⟩
    · refine Or.inr ⟨res, ok, by simpa using frames, ?_, ?_, truncated, r'.tree, j, place, touches, ?_, ?_, puts⟩
      · rw [manifest, builder']
      · rw [path, options']
      · rw [← builder', document]
      · rw [← options', aim]

/-- How a run that has settled is judged. -/
theorem conclude_cases (c : Conditions) (exit : Except Failure Unit) {links : Links} {r : Run}
    (held : links.Hold r.tree) :
    ((∃ f, (conclude c exit r links).result = .error f) ∧
        FileTree.Touches r.tree (conclude c exit r links).tree (IsPreview r.options) links) ∨
      ∃ res, (conclude c exit r links).result = .ok res ∧
        r.cancelled = false ∧ r.writeFailure? = none ∧ r.readFailure? = none ∧ exit = .ok () ∧ r.builder.size ≠ 0 ∧
        res.manifest = r.builder.build ∧ res.manifestPath = r.options.manifestPath ∧
        res.truncated = (r.assembler.close.1.map (·.residual)).getD 0 ∧
        ∃ tree j place, FileTree.Touches r.tree tree (IsPreview r.options) links ∧ r.builder.build.toJson = .ok j ∧
          tree.resolve r.options.manifestPath = .ok place ∧
          FileTree.Puts tree (conclude c exit r links).tree place (Octets.ofString j.indented) := by
  have untouched : FileTree.Touches r.tree r.tree (IsPreview r.options) links := FileTree.Touches.refl _ _
  unfold conclude
  split
  · exact Or.inl ⟨⟨_, rfl⟩, untouched⟩
  rename_i going
  split
  · exact Or.inl ⟨⟨_, rfl⟩, untouched⟩
  · exact Or.inl ⟨⟨_, rfl⟩, untouched⟩
  · exact Or.inl ⟨⟨_, rfl⟩, untouched⟩
  · rename_i intact whole
    refine (finish_cases c held).imp_right ?_
    rintro ⟨res, ok, frames, rest⟩
    exact ⟨res, ok, by simpa using going, intact, whole, rfl, frames, rest⟩

/-- What the end of a conversion writes is not named like a frame. -/
theorem closing_named (given : o.outputDir ≠ []) (index : Int64) {p : Octets}
    (closing : IsPreview o p ∨ p = o.manifestPath) :
    ∃ name, (Path.components p).getLast? = some name ∧ Path.Plain name ∧ name ≠ Frame.fileName index := by
  have other {name : Octets} (first : name.head? ≠ some 0x66) : name ≠ Frame.fileName index := fun same =>
    first (by rw [same, Frame.head?_fileName])
  rcases closing with ⟨-, rfl⟩ | rfl
  · exact ⟨_, Path.getLast?_components_join given Preview.plain_fileName, Preview.plain_fileName, other (by decide)⟩
  · exact ⟨_, Path.getLast?_components_join given Manifest.plain_fileName, Manifest.plain_fileName, other (by decide)⟩

/-- The end of a conversion writes the preview and the manifest at most. -/
theorem conclude_touches (c : Conditions) (exit : Except Failure Unit) (r : Run) :
    FileTree.Touches r.tree (conclude c exit r).tree fun p => IsPreview r.options p ∨ p = r.options.manifestPath := by
  rcases conclude_cases c exit (Links.hold_empty r.tree) with
    ⟨-, touches⟩ | ⟨res, -, -, -, -, -, -, -, -, -, tree, j, place, touches, -, aim, puts⟩
  · exact touches.mono fun p => Or.inl
  · refine (touches.mono fun p => Or.inl).trans ?_
    exact (FileTree.Touches.of_puts aim puts).mono fun p => Or.inr

/-- The end of a conversion leaves the files of the frames as they are. -/
theorem conclude_frame_iff (c : Conditions) (exit : Except Failure Unit) {r : Run} (given : r.options.outputDir ≠ [])
    (index : Int64) (data : Octets) :
    (conclude c exit r).tree.content (r.options.framePath index) = .ok data ↔
      r.tree.content (r.options.framePath index) = .ok data :=
  (conclude_touches c exit r).content_iff_of_named (Run.getLast?_components_framePath given index)
    (Frame.plain_fileName index) (fun _ closing => closing_named given index closing) (by simp)

/-- A conversion that succeeds reports the manifest of all frames of its source, and leaves it with the frames. -/
theorem conclude_ok (c : Conditions) (exit : Except Failure Unit) (sound : o.Sound) {limit : Nat} {r : Run}
    {log : List (Int64 × Octets)} (h : r.Invariant t s o limit log) (settled : r.settled = true)
    (small : frameCount s.content o < 2 ^ 63) {res : Result} (success : (conclude c exit r).result = .ok res) :
    res.manifest = fullManifest s.content o ∧ res.manifestPath = o.manifestPath ∧
      res.truncated = s.content.length % o.geometry.octets ∧
      (∃ j, (fullManifest s.content o).toJson = .ok j ∧
        (conclude c exit r).tree.content o.manifestPath = .ok (Octets.ofString j.indented)) ∧
      ∀ i < frameCount s.content o, ∃ f, Frame.encode (frame s.content o i) o.geometry o.palette = .ok f ∧
        (conclude c exit r).tree.content (o.framePath (Int64.ofNat (i + 1))) = .ok f.text := by
  have kept := conclude_frame_iff c exit (h.given sound)
  rw [h.options] at kept
  rcases conclude_cases c exit (Links.hold_empty r.tree) with ⟨⟨f, fails⟩, -⟩ |
    ⟨res', success', going, intact, -, -, -, manifest', path, truncated, tree, j, place, -, document, aim, puts⟩
  · rw [success] at fails
    cases fails
  obtain rfl : res = res' := by simpa [success] using success'
  obtain ⟨manifest, seen, -, frames⟩ := h.complete settled going intact small
  rw [h.options] at path aim
  rw [manifest] at manifest' document
  rw [h.reader.arrived.close_eq (by rw [h.reader.size]; exact h.reader.drained), h.reader.size, seen, h.options]
    at truncated
  refine ⟨manifest', path, truncated, ⟨j, document, puts.content_eq aim⟩, fun i hi => ?_⟩
  obtain ⟨f, encoded, content⟩ := frames i hi
  exact ⟨f, encoded, (kept _ _).2 content⟩

end Conversion

end BlitReel
