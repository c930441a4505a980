import Mathlib
import BlitReel.Proofs.Conversion.Outcome
import BlitReel.Proofs.Except

/-!
# What a conversion leaves behind

However a conversion goes, it makes directories that lead to its frames and writes the files of frames
that it has read and the preview; the manifest is written by a conversion that succeeds, and by no other.
The temporary file is gone in the end. A file that has other names is written under all of them: a
conversion that fails spares every manifest but one that is also a frame or the preview by another name.
-/

namespace BlitReel

namespace Run

variable {s : Source} {o : ConversionOptions} {limit : Nat} {r : Run} {log : List (Int64 × Octets)} {links : Links}

/-- The names of files make no difference to a run but for what is on the disk. -/
theorem step_eq (r : Run) (m : Move) (links : Links) :
    r.step m links = { r.step m with tree := (r.step m links).tree } := by
  cases m with
  | store k fault? =>
    simp only [step, store]
    split
    · rename_i raw task
      split
      · rfl
      rename_i f encoded
      simp only [writeFile, FileTree.write_result _ _ _ fault? links]
      cases (r.tree.write (r.options.framePath raw.index) f.text fault?).2 with
      | error e => rfl
      | ok u => cases Frame.meanError raw.pix (some f) r.options.palette <;> rfl
    · rfl
  | read => rfl
  | launch => rfl
  | report k => rfl
  | cancel => rfl

/-- What a worker writes for its frame. -/
theorem store_tree {k : Nat} {raw : RawFrame} (task : r.tasks[k]? = some ⟨raw, none⟩) {f : Frame}
    (encoded : Frame.encode raw r.options.geometry r.options.palette = .ok f) (fault? : Option WriteFault)
    (links : Links) :
    (r.store k fault? links).tree = (r.tree.write (r.options.framePath raw.index) f.text fault? links).1 := by
  simp only [store, task, encoded, writeFile]
  cases (r.tree.write (r.options.framePath raw.index) f.text fault? links).2 with
  | error e => rfl
  | ok u => cases Frame.meanError raw.pix (some f) r.options.palette <;> rfl

theorem step_tree_eq (sound : r.options.Sound) (sized : r.Sized) {m : Move} (nothing : r.leaves? m = none) :
    (r.step m).tree = r.tree := by
  by_cases off : m = .cancel
  · subst off
    rfl
  rcases step_cases sound sized off with ⟨same, -⟩ | change
  · rw [same]
  · rw [nothing] at change
    exact change.tree_eq

/-- A move writes the file of the frame for which it leaves something, under all its names. -/
theorem step_touches (sound : r.options.Sound) (sized : r.Sized) (held : links.Hold r.tree) (m : Move) :
    FileTree.Touches r.tree (r.step m links).tree
      (fun p => ∃ e ∈ (r.leaves? m).toList, p = r.options.framePath e.1) links := by
  have idle {m : Move} (plain : r.step m links = r.step m) (nothing : r.leaves? m = none) :
      FileTree.Touches r.tree (r.step m links).tree
        (fun p => ∃ e ∈ (r.leaves? m).toList, p = r.options.framePath e.1) links := by
    rw [plain, step_tree_eq sound sized nothing]
    exact FileTree.Touches.refl _ _
  cases m with
  | store k fault? =>
    cases task : r.tasks[k]? with
    | none => exact idle (by simp only [step, store, task]) (by rw [leaves?, task])
    | some t =>
      obtain ⟨raw, _ | stored⟩ := t
      · obtain ⟨f, -, encoded, -⟩ := store_eq sound sized task fault?
        have tree : (r.step (.store k fault?) links).tree =
            (r.tree.write (r.options.framePath raw.index) f.text fault? links).1 := store_tree task encoded fault? links
        rw [tree]
        cases kept : r.tree.kept? (r.options.framePath raw.index) f.text fault? with
        | none =>
          obtain ⟨failure, write⟩ := FileTree.write_of_kept?_eq_none kept links
          rw [write]
          exact FileTree.Touches.refl _ _
        | some octets =>
          refine (FileTree.Touches.of_write held _ _ _).mono fun p same => ⟨(raw.index, octets), ?_, same⟩
          simp [leaves?, task, encoded, kept]
      · exact idle (by simp only [step, store, task]) (by rw [leaves?, task])
  | read => exact idle rfl rfl
  | launch => exact idle rfl rfl
  | report k => exact idle rfl rfl
  | cancel => exact idle rfl rfl

/-- The files of the frames that a log names. -/
def LoggedPath (o : ConversionOptions) (log : List (Int64 × Octets)) (p : Octets) : Prop :=
  ∃ e ∈ log, p = o.framePath e.1

/-- Whatever names files have, any moves in any order keep account of the frames and write files that they log. -/
theorem Account.steps_touches {tree : FileTree} (sound : o.Sound) (held : links.Hold tree)
    (h : Account s o limit r log) (touches : FileTree.Touches tree r.tree (LoggedPath o log) links)
    (moves : List Move) :
    ∃ log', Account s o limit (r.steps moves links) log' ∧
      FileTree.Touches tree (r.steps moves links).tree (LoggedPath o log') links := by
  induction moves generalizing r log with
  | nil => exact ⟨log, h, touches⟩
  | cons m moves ih =>
    have account : Account s o limit (r.step m links) (log ++ (r.leaves? m).toList) := by
      rw [step_eq]
      exact (h.step sound m).transfer (r.step m).cancelled _
    have next := step_touches (h.options ▸ sound) h.sized (touches.hold held) m
    rw [h.options] at next
    refine ih account ((touches.mono ?_).trans (next.mono ?_))
    · rintro p ⟨e, mem, path⟩
      exact ⟨e, List.mem_append_left _ mem, path⟩
    · rintro p ⟨e, mem, path⟩
      exact ⟨e, List.mem_append_right _ mem, path⟩

end Run

namespace Conversion

variable {c : Conditions} {t : FileTree} {s : Source} {o : ConversionOptions} {links : Links}

/-- The number of frames that a conversion has read by these moves. -/
def framesTaken (c : Conditions) (t : FileTree) (s : Source) (o : ConversionOptions) (moves : List Run.Move)
    (links : Links := {}) : Nat :=
  match begin c t s o with
  | (_, .error _) => 0
  | (_, .ok r) => ((r.steps moves links).framesRead s).length

/-- A frame that was read or the preview was written to a location. -/
inductive Opened (t : FileTree) (o : ConversionOptions) (taken : Nat) (out : Outcome) (loc : Location) : Prop
  | frame (i : Nat) (among : i < taken)
      (written : FileTree.Written t out.tree (o.framePath (Int64.ofNat (i + 1))) loc)
  | preview (wanted : o.preview = true) (written : FileTree.Written t out.tree o.previewPath loc)

/-- The location is another name of a frame or of the preview. -/
def Shared (t : FileTree) (links : Links) (o : ConversionOptions) (taken : Nat) (out : Outcome) (loc : Location) :
    Prop :=
  ∃ origin, Opened t o taken out origin ∧ loc ∈ links.others origin

/-- What a conversion that has taken so many frames may have done to a location. -/
inductive Changed (t : FileTree) (links : Links) (o : ConversionOptions) (taken : Nat) (out : Outcome)
    (loc : Location) : Prop
  | directory (q : Octets) (leads : FileTree.Leads q o.framesDir) (resolved : out.tree.resolve q = .ok loc)
      (empty : t.get? loc = none) (made : out.tree.get? loc = some .directory)
  | file (opened : Opened t o taken out loc)
  | shared (shared : Shared t links o taken out loc)
  | manifest (res : Result) (success : out.result = .ok res) (written : FileTree.Written t out.tree o.manifestPath loc)

/-- The paths that a conversion may open for writing. -/
def MayOpen (o : ConversionOptions) (taken : Nat) (p : Octets) : Prop :=
  (∃ i < taken, p = o.framePath (Int64.ofNat (i + 1))) ∨ IsPreview o p

/-- The names of what may be opened. -/
theorem MayOpen.named {taken : Nat} {p : Octets} (given : o.outputDir ≠ []) (h : MayOpen o taken p) :
    ∃ name, (Path.components p).getLast? = some name ∧ Path.Plain name ∧
      (name.head? = some 0x66 ∨ name = Preview.fileName) := by
  rcases h with ⟨i, -, rfl⟩ | ⟨-, rfl⟩
  · exact ⟨_, Run.getLast?_components_framePath given _, Frame.plain_fileName _, Or.inl (Frame.head?_fileName _)⟩
  · exact ⟨_, Path.getLast?_components_join given Preview.plain_fileName, Preview.plain_fileName, Or.inr rfl⟩

/-- How a conversion comes from one tree to the other: it adds directories, opens files, which have all their names,
and then puts the manifest in its place if it succeeds. -/
structure Leaving (t : FileTree) (links : Links) (o : ConversionOptions) (taken : Nat) (out : Outcome)
    (made opened : FileTree) : Prop where
  grows : FileTree.Grows t made o.framesDir
  opens : FileTree.Touches made opened (MayOpen o taken) links
  places : FileTree.Touches opened out.tree fun p => (∃ res, out.result = .ok res) ∧ p = o.manifestPath

theorem convertAlong_leaving (c : Conditions) (t : FileTree) (s : Source) (o : ConversionOptions)
    (moves : List Run.Move) (held : links.Hold t) :
    (∃ made opened, Leaving t links o (framesTaken c t s o moves links) (convertAlong c t s o moves links)
      made opened) ∧ ((convertAlong c t s o moves links).tree = t ∨ o.Sound) := by
  rcases begin_cases c t s o with ⟨tree, f, fails, grows, same⟩ | ⟨tree, begins, grows, sound⟩
  · rw [convertAlong, fails]
    exact ⟨⟨tree, tree, grows, FileTree.Touches.refl _ _, FileTree.Touches.refl _ _⟩, same⟩
  · refine ⟨?_, Or.inr sound⟩
    rw [convertAlong, framesTaken, begins]
    dsimp only
    have held' := grows.hold held
    obtain ⟨log, h, touches⟩ := (invariant_start c sound tree s).toAccount.steps_touches sound held'
      (FileTree.Touches.refl _ _) moves
    set r := (start c tree s o { frameSize := o.geometry.octets }).steps moves links
    have taken : (r.framesRead s).length = (r.seen s).length / o.geometry.octets := by
      rw [Run.framesRead, h.options, List.length_map, List.length_range]
    have frames : FileTree.Touches tree r.tree (MayOpen o (r.framesRead s).length) links := by
      refine touches.mono ?_
      rintro p ⟨e, mem, rfl⟩
      obtain ⟨i, hi, index⟩ := h.logged mem
      exact Or.inl ⟨i, taken ▸ hi, by rw [index]⟩
    rcases conclude_cases c s.exit (touches.hold held') with
      ⟨-, preview⟩ | ⟨res, ok, -, -, -, -, -, -, -, -, between, j, place, preview, -, aim, puts⟩
    · rw [h.options] at preview
      exact ⟨tree, _, grows, frames.trans (preview.mono fun p => Or.inr), FileTree.Touches.refl _ _⟩
    · rw [h.options] at preview aim
      refine ⟨tree, between, grows, frames.trans (preview.mono fun p => Or.inr), ?_⟩
      exact (FileTree.Touches.of_puts aim puts).mono fun p manifest => ⟨⟨res, ok⟩, manifest⟩

namespace Leaving

variable {taken : Nat} {out : Outcome} {made opened : FileTree} (h : Leaving t links o taken out made opened)

include h

theorem dirs : FileTree.SameDirs made out.tree := h.opens.dirs.trans h.places.dirs

/-- What was opened is a frame that was read or the preview. -/
theorem written {p : Octets} {loc : Location} (may : MayOpen o taken p) (written : FileTree.Written made opened p loc) :
    Opened t o taken out loc := by
  obtain ⟨resolved, free, content, executable, file⟩ := written
  have all : FileTree.Written t out.tree p loc :=
    ⟨h.places.dirs.resolve_iff.2 resolved, fun dir => free (h.grows.dirs loc dir), h.places.file file⟩
  rcases may with ⟨i, hi, rfl⟩ | ⟨wanted, rfl⟩
  · exact .frame i hi all
  · exact .preview wanted all

/-- Every location is as before or changed in one of the ways listed. -/
theorem changed (loc : Location) : out.tree.get? loc = t.get? loc ∨ Changed t links o taken out loc := by
  rcases h.places.files loc with same | ⟨notDir, file, p, origin, ⟨⟨res, success⟩, rfl⟩, written, named⟩
  · rcases h.opens.files loc with same' | ⟨-, -, p, origin, may, written, named⟩
    · rcases h.grows.made loc with old | ⟨empty, made, q, leads, resolved⟩
      · exact Or.inl (same.trans (same'.trans old))
      · exact Or.inr (.directory q leads (h.dirs.resolve_iff.2 resolved) empty (same.trans (same'.trans made)))
    · have opened := h.written may written
      refine Or.inr ?_
      rcases Links.mem_names.1 named with rfl | other
      · exact .file opened
      · exact .shared ⟨origin, opened, other⟩
  · rw [Links.names_empty, List.mem_singleton] at named
    subst named
    have free : t.get? loc ≠ some .directory := fun dir =>
      notDir ((h.opens.dirs.dirs loc).2 (h.grows.dirs loc dir))
    exact Or.inr (.manifest res success ⟨written.resolved, free, file⟩)

/-- What has the name of neither a frame nor the preview, and not that of the manifest if the conversion succeeds,
is as it was, unless it is one of them by another name. -/
theorem get?_eq (sound : o.Sound) {q name : Octets} {loc : Location}
    (last : (Path.components q).getLast? = some name) (plain : Path.Plain name) (resolved : made.resolve q = .ok loc)
    (notFrame : name.head? ≠ some 0x66) (notPreview : name ≠ Preview.fileName)
    (notManifest : (∃ res, out.result = .ok res) → name ≠ Manifest.fileName)
    (sole : ¬ Shared t links o taken out loc) : out.tree.get? loc = made.get? loc := by
  have placed : out.tree.get? loc = opened.get? loc := by
    refine h.places.get?_of_named last plain (h.opens.dirs.resolve_iff.2 resolved) ?_ (by simp)
    rintro p ⟨success, rfl⟩
    exact ⟨_, Path.getLast?_components_join sound.outputDir Manifest.plain_fileName, Manifest.plain_fileName,
      (notManifest success).symm⟩
  rw [placed]
  refine h.opens.get?_of_named last plain resolved (fun p may => ?_) fun p origin may written other => ?_
  · obtain ⟨name', last', plain', which⟩ := may.named sound.outputDir
    refine ⟨name', last', plain', ?_⟩
    rintro rfl
    exact which.elim notFrame notPreview
  · exact sole ⟨origin, h.written may written, other⟩

end Leaving

theorem convertAlong_closed (closed : t.Closed) (moves : List Run.Move) : (convertAlong c t s o moves).tree.Closed := by
  obtain ⟨⟨made, opened, h⟩, -⟩ := convertAlong_leaving c t s o moves (Links.hold_empty t)
  exact h.places.closed (h.opens.closed (h.grows.closed closed))

/-- A conversion that fails leaves the manifest as it was, unless it is a frame or the preview by another name. -/
theorem convertAlong_manifest_iff (closed : t.Closed) (held : links.Hold t) {moves : List Run.Move}
    (failure : ∃ f, (convertAlong c t s o moves links).result = .error f)
    (sole : ∀ loc, (convertAlong c t s o moves links).tree.resolve o.manifestPath = .ok loc →
      ¬ Shared t links o (framesTaken c t s o moves links) (convertAlong c t s o moves links) loc)
    (content : Octets) :
    (convertAlong c t s o moves links).tree.content o.manifestPath = .ok content ↔
      t.content o.manifestPath = .ok content := by
  obtain ⟨⟨made, opened, h⟩, same | sound⟩ := convertAlong_leaving c t s o moves held
  · rw [same]
  have last := Path.getLast?_components_join sound.outputDir Manifest.plain_fileName
  have kept : (convertAlong c t s o moves links).tree.content o.manifestPath = .ok content ↔
      made.content o.manifestPath = .ok content := by
    refine h.dirs.content_iff fun loc resolved => ?_
    apply h.get?_eq sound last Manifest.plain_fileName resolved (by decide) (by decide) ?_
      (sole loc (h.dirs.resolve_iff.2 resolved))
    rintro ⟨res, success⟩
    obtain ⟨f, fails⟩ := failure
    rw [success] at fails
    cases fails
  rw [kept]
  exact h.grows.content_iff closed (FileTree.straight_join sound.outputDir Manifest.plain_fileName)

/-- A conversion changes nothing but directories that lead to its frames, the files of frames that it has read and
the preview, under all their names, and, if it succeeds, the manifest. A file that stands in the place of its
temporary file stood there before and is what it was, and if it fails then the manifest is what it was, unless they
are frames or the preview by another name. -/
theorem convertAlong_footprint (c : Conditions) (t : FileTree) (s : Source) (o : ConversionOptions)
    (moves : List Run.Move) (links : Links) (closed : t.Closed) (held : links.Hold t) :
    (∀ loc, (convertAlong c t s o moves links).tree.get? loc = t.get? loc ∨
        Changed t links o (framesTaken c t s o moves links) (convertAlong c t s o moves links) loc) ∧
      (∀ loc content executable,
        (convertAlong c t s o moves links).tree.resolve
            (Manifest.beside o.outputDir (Manifest.temporaryName c.unique)) = .ok loc →
          (convertAlong c t s o moves links).tree.get? loc = some (.file content executable) →
            t.get? loc ≠ none ∧
              (¬ Shared t links o (framesTaken c t s o moves links) (convertAlong c t s o moves links) loc →
                t.get? loc = some (.file content executable))) ∧
      ((∃ f, (convertAlong c t s o moves links).result = .error f) →
        (∀ loc, (convertAlong c t s o moves links).tree.resolve o.manifestPath = .ok loc →
          ¬ Shared t links o (framesTaken c t s o moves links) (convertAlong c t s o moves links) loc) →
        ∀ content, (convertAlong c t s o moves links).tree.content o.manifestPath = .ok content ↔
          t.content o.manifestPath = .ok content) := by
  obtain ⟨⟨made, opened, h⟩, sound⟩ := convertAlong_leaving c t s o moves held
  refine ⟨h.changed, fun loc content executable resolved file => ?_, convertAlong_manifest_iff closed held⟩
  have old (sole : ¬ Shared t links o (framesTaken c t s o moves links) (convertAlong c t s o moves links) loc) :
      t.get? loc = some (.file content executable) := by
    rcases sound with same | sound
    · rwa [same] at file
    have first := Manifest.head?_temporaryName c.unique
    have other {name : Octets} (apart : name.head? ≠ some 0x2E) : Manifest.temporaryName c.unique ≠ name := by
      rintro rfl
      exact apart first
    rw [h.get?_eq sound (Manifest.getLast?_components_beside c.unique_plain o.outputDir)
      (Manifest.plain_temporaryName c.unique_plain) (h.dirs.resolve_iff.1 resolved) (by rw [first]; decide)
      (other (by decide)) (fun _ => other (by decide)) sole] at file
    exact h.grows.file_iff.1 file
  refine ⟨?_, old⟩
  by_cases shared : Shared t links o (framesTaken c t s o moves links) (convertAlong c t s o moves links) loc
  · obtain ⟨origin, -, other⟩ := shared
    exact (held.others other).1
  · rw [old shared]
    simp

/-- Conditions under which the system refuses nothing. -/
def calm : Conditions := {}

/-- The place of the manifest in the directory `out`. -/
def manifestPlace : Location := [Octets.ofString "out", Manifest.fileName]

/-- The place of the first frame in the directory `out`. -/
def framePlace : Location := [Octets.ofString "out", Manifest.framesDir, Frame.fileName 1]

/-- A tree with a manifest, a frame and another file in it. -/
def listedTree : FileTree where
  entries := [([Octets.ofString "out"], .directory), (manifestPlace, .file (Octets.ofString "kept") false),
    ([Octets.ofString "out", Manifest.framesDir], .directory), (framePlace, .file (Octets.ofString "kept") false),
    ([Octets.ofString "copy"], .file (Octets.ofString "kept") false)]

/-- A grid of one cell, to be written beside that manifest. -/
def besideOptions : ConversionOptions := { outputDir := Octets.ofString "out", geometry := ⟨1, 1⟩, fps := 25 }

/-- A conversion that breaks off in the second frame, when the first one is written. -/
def brokenConversion (links : Links) : Outcome :=
  convertAlong calm listedTree { deliveries := [⟨[255, 0, 0], none⟩, ⟨[7], some (.broken "gone")⟩] } besideOptions
    [.read, .launch, .store 0 none, .read, .report 0] links

/-- The frame is the other file by another name. -/
def frameCopied : Links := ⟨[[framePlace, [Octets.ofString "copy"]]]⟩

/-- The frame is the manifest by another name. -/
def frameIsManifest : Links := ⟨[[framePlace, manifestPlace]]⟩

theorem closed_listedTree : listedTree.Closed := FileTree.closed_of_entries (by decide)

theorem convertAlong_footprint_broken :
    frameCopied.Hold listedTree ∧ (brokenConversion frameCopied).result.isOk = false ∧
      (brokenConversion frameCopied).tree.content (besideOptions.framePath 1) = .ok (Octets.ofString "1 1\ne") ∧
      (brokenConversion frameCopied).tree.content (Octets.ofString "copy") = .ok (Octets.ofString "1 1\ne") ∧
      (brokenConversion frameCopied).tree.content besideOptions.manifestPath = .ok (Octets.ofString "kept") := by
  have held : frameCopied.Hold listedTree := by decide
  have fails : (brokenConversion frameCopied).result.isOk = false := by decide +kernel
  refine ⟨held, fails, by decide +kernel, by decide +kernel, ?_⟩
  refine ((convertAlong_footprint calm listedTree _ besideOptions _ frameCopied closed_listedTree held).2.2
    (Except.exists_of_not_isOk fails) ?_ _).2 (by decide +kernel)
  rintro loc resolved ⟨origin, -, other⟩
  have place : (brokenConversion frameCopied).tree.resolve besideOptions.manifestPath = .ok manifestPlace := by
    decide +kernel
  obtain rfl : manifestPlace = loc := Except.ok.inj (place.symm.trans resolved)
  obtain ⟨file, listed, named⟩ := Links.listed_of_mem_others other
  have apart : ∀ file ∈ frameCopied.files, manifestPlace ∉ file := by decide
  exact apart file listed named

/-- A conversion that fails rewrites a manifest that is the first frame by another name. -/
theorem manifest_rewritten_as_frame :
    frameIsManifest.Hold listedTree ∧ (brokenConversion frameIsManifest).result.isOk = false ∧
      listedTree.content besideOptions.manifestPath = .ok (Octets.ofString "kept") ∧
      (brokenConversion frameIsManifest).tree.content besideOptions.manifestPath = .ok (Octets.ofString "1 1\ne") :=
  ⟨by decide, by decide +kernel, by decide +kernel, by decide +kernel⟩

end Conversion

end BlitReel
