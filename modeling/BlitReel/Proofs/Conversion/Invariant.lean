import Mathlib
import BlitReel.Proofs.Conversion.Reader
import BlitReel.Proofs.Frame.FileName
import BlitReel.Proofs.Manifest.Builder

/-!
# What every schedule keeps

The frames read are waiting, in the hands of a worker, reported or lost, each once (`Ledger`), and the
disk differs from the one before only in the files of frames, which hold what the log of writes says
(`Disk`). Both are kept by every change, so they hold after any moves in any order (`Invariant.steps`).
What does not depend on the disk is an `Account`.
-/

namespace BlitReel.Run

variable {s : Source} {r r' : Run} {left? : Option (Int64 × Octets)}

/-- The frame is written: it was reported, or a worker is about to report it. -/
def Stored (r : Run) (reported : List RawFrame) (raw : RawFrame) : Prop :=
  raw ∈ reported ∨ ∃ stored, ⟨raw, some stored⟩ ∈ r.tasks

/-- The reports of frames, of which the last one stands first. -/
def reports : List RawFrame → List Progress
  | [] => []
  | raw :: earlier => reports earlier ++ [⟨raw.index, Int64.ofNat (earlier.length + 1)⟩]

/-- Where the frames are: every frame is in one place, and the written ones are named and logged. -/
structure Ledger (r : Run) (frames : List RawFrame) (log : List (Int64 × Octets)) (reported lost : List RawFrame) :
    Prop where
  all : (r.waiting ++ (r.tasks.map (·.raw) ++ (reported ++ lost))).Perm frames
  named : ∀ x, x ∈ r.builder.names ↔ ∃ raw, r.Stored reported raw ∧ x = (raw.index, Frame.fileName raw.index)
  distinct : (r.builder.names.map (·.1)).Nodup
  counted : r.written = reported.length
  announced : r.progress = reports reported
  intact : r.writeFailure? = none ↔ lost = []
  filed : ∀ raw, r.Stored reported raw →
    ∃ f, Frame.encode raw r.options.geometry r.options.palette = .ok f ∧ (raw.index, f.text) ∈ log
  logged : ∀ e ∈ log, ∃ raw, (r.Stored reported raw ∨ raw ∈ lost) ∧ raw.index = e.1
  once : (frames.map (·.index)).Nodup → (log.map (·.1)).Nodup

namespace Ledger

variable {frames reported lost : List RawFrame} {log : List (Int64 × Octets)} {k : Nat} {raw : RawFrame}

/-- A task apart from the others. -/
theorem perm_task {tasks : List Task} {task : Task} (at_k : tasks[k]? = some task) :
    tasks.Perm (task :: tasks.eraseIdx k) := by
  obtain ⟨inside, rfl⟩ := List.getElem?_eq_some_iff.1 at_k
  exact (List.getElem_cons_eraseIdx_perm inside).symm

/-- The frames with that of one task in front. -/
theorem all_task (h : Ledger r frames log reported lost) {stored? : Option (Frame × Float)}
    (task : r.tasks[k]? = some ⟨raw, stored?⟩) :
    (raw :: (r.waiting ++ ((r.tasks.eraseIdx k).map (·.raw) ++ (reported ++ lost)))).Perm frames := by
  refine List.Perm.trans ?_ h.all
  refine (List.perm_middle.symm).trans (List.Perm.append_left r.waiting ?_)
  rw [← List.cons_append]
  exact ((perm_task task).map (·.raw)).symm.append_right _

theorem mem_frames (h : Ledger r frames log reported lost) {task : Task} (mem : task ∈ r.tasks) :
    task.raw ∈ frames := by
  refine h.all.subset ?_
  simp only [List.mem_append, List.mem_map]
  exact Or.inr (Or.inl ⟨task, mem, rfl⟩)

/-- No write of a frame is logged before its task was stored. -/
theorem fresh (h : Ledger r frames log reported lost) (task : r.tasks[k]? = some ⟨raw, none⟩)
    (nodup : (frames.map (·.index)).Nodup) : ∀ e ∈ log, e.1 ≠ raw.index := by
  intro e mem same
  obtain ⟨other, place, index⟩ := h.logged e mem
  have apart := (((h.all_task task).map (·.index)).nodup_iff.2 nodup)
  rw [List.map_cons, List.nodup_cons] at apart
  refine apart.1 (List.mem_map.2 ⟨other, ?_, index.trans same⟩)
  simp only [List.mem_append, List.mem_map]
  rcases place with (reported | ⟨stored, mem⟩) | lost
  · exact Or.inr (Or.inr (Or.inl reported))
  · -- a stored task is not the one at hand
    rcases List.mem_cons.1 ((perm_task task).subset mem) with same | mem
    · cases same
    · exact Or.inr (Or.inl ⟨_, mem, rfl⟩)
  · exact Or.inr (Or.inr (Or.inr lost))

theorem once_snoc (h : Ledger r frames log reported lost) (task : r.tasks[k]? = some ⟨raw, none⟩) (octets : Octets)
    (nodup : (frames.map (·.index)).Nodup) : ((log ++ [(raw.index, octets)]).map (·.1)).Nodup := by
  rw [List.map_append, List.nodup_append]
  refine ⟨h.once nodup, by simp, fun a ha b hb => ?_⟩
  obtain ⟨e, mem, rfl⟩ := List.mem_map.1 ha
  obtain rfl : b = raw.index := by simpa using hb
  exact h.fresh task nodup e mem

/-- Taking a task that is not stored away leaves the stored ones. -/
theorem stored_eraseIdx (task : r.tasks[k]? = some ⟨raw, none⟩) {r' : Run} (tasks : r'.tasks = r.tasks.eraseIdx k)
    (x : RawFrame) : r'.Stored reported x ↔ r.Stored reported x := by
  simp only [Stored, tasks]
  refine or_congr Iff.rfl (exists_congr fun stored => ?_)
  constructor
  · exact fun mem => List.mem_of_mem_eraseIdx mem
  · intro mem
    rcases List.mem_cons.1 ((perm_task task).subset mem) with same | mem
    · cases same
    · exact mem

theorem receive (reader : Reader s r) (h : Ledger r (r.framesRead s) log reported lost) {d : Delivery}
    {rest : List Delivery} (running : r.ended = false) (handed : r.waiting = []) (next : r.deliveries = d :: rest) :
    Ledger ({ r with deliveries := rest }.receive d) (Run.framesRead s ({ r with deliveries := rest }.receive d))
      log reported lost := by
  have frames := (reader.receive running next).2
  obtain ⟨_, rfl, received⟩ := receive_eq { r with deliveries := rest } d
  have all := h.all
  rw [handed, List.nil_append] at all
  refine ⟨?_, ?_, ?_, ?_, ?_, ?_, ?_, ?_, ?_⟩
  · rw [frames, received]
    exact List.perm_append_comm.trans (all.append_right _)
  · rw [received]
    exact h.named
  · rw [received]
    exact h.distinct
  · rw [received]
    exact h.counted
  · rw [received]
    exact h.announced
  · rw [received]
    exact h.intact
  · rw [received]
    exact h.filed
  · rw [received]
    exact h.logged
  · rw [frames, List.map_append, List.nodup_append]
    exact fun nodup => h.once nodup.1

theorem launch (h : Ledger r frames log reported lost) {rest : List RawFrame} (next : r.waiting = raw :: rest) :
    Ledger { r with waiting := rest, tasks := r.tasks ++ [{ raw }] } frames log reported lost := by
  have same (x : RawFrame) : Stored { r with waiting := rest, tasks := r.tasks ++ [{ raw }] } reported x ↔
      r.Stored reported x := by
    simp [Stored]
  refine ⟨?_, ?_, h.distinct, h.counted, h.announced, h.intact, ?_, ?_, h.once⟩
  · refine List.Perm.trans ?_ h.all
    change (rest ++ ((r.tasks ++ [Task.mk raw none]).map Task.raw ++ (reported ++ lost))).Perm _
    rw [next, List.map_append, List.append_assoc]
    exact (List.Perm.append_left rest List.perm_middle).trans List.perm_middle
  · simpa only [same] using h.named
  · simpa only [same] using h.filed
  · simpa only [same] using h.logged

/-- Storing a task adds its frame to the stored ones. -/
theorem stored_set (task : r.tasks[k]? = some ⟨raw, none⟩) {stored : Frame × Float} {r' : Run}
    (tasks : r'.tasks = r.tasks.set k ⟨raw, some stored⟩) (x : RawFrame) :
    r'.Stored reported x ↔ r.Stored reported x ∨ x = raw := by
  obtain ⟨inside, at_k⟩ := List.getElem?_eq_some_iff.1 task
  simp only [Stored, tasks]
  constructor
  · rintro (mem | ⟨stored', mem⟩)
    · exact Or.inl (Or.inl mem)
    · rcases List.mem_or_eq_of_mem_set mem with mem | same
      · exact Or.inl (Or.inr ⟨stored', mem⟩)
      · cases same
        exact Or.inr rfl
  · rintro ((mem | ⟨stored', mem⟩) | rfl)
    · exact Or.inl mem
    · obtain ⟨j, hj, at_j⟩ := List.mem_iff_getElem.1 mem
      refine Or.inr ⟨stored', List.mem_iff_getElem.2 ⟨j, by simpa using hj, ?_⟩⟩
      have ne : k ≠ j := by
        rintro rfl
        rw [at_j] at at_k
        cases at_k
      rw [List.getElem_set_ne ne, at_j]
    · exact Or.inr ⟨_, List.mem_set inside _⟩

/-- Storing a task leaves it at its frame. -/
theorem map_raw_set {tasks : List Task} {stored? stored?' : Option (Frame × Float)}
    (task : tasks[k]? = some ⟨raw, stored?⟩) : (tasks.set k ⟨raw, stored?'⟩).map (·.raw) = tasks.map (·.raw) := by
  obtain ⟨inside, at_k⟩ := List.getElem?_eq_some_iff.1 task
  have self := @List.set_getElem_self _ (tasks.map (·.raw)) k (by simpa using inside)
  rw [List.getElem_map, at_k] at self
  rw [List.map_set, self]

theorem keep (h : Ledger r frames log reported lost) (task : r.tasks[k]? = some ⟨raw, none⟩) {f : Frame}
    (encoded : Frame.encode raw r.options.geometry r.options.palette = .ok f) (error : Float) (tree : FileTree) :
    Ledger (r.keep tree k raw f error) frames (log ++ [(raw.index, f.text)]) reported lost := by
  have same (x : RawFrame) : (r.keep tree k raw f error).Stored reported x ↔ r.Stored reported x ∨ x = raw :=
    stored_set task rfl x
  have names : (r.keep tree k raw f error).builder.names =
      (raw.index, Frame.fileName raw.index) :: r.builder.names.filter (·.1 != raw.index) := rfl
  refine ⟨?_, ?_, ?_, h.counted, h.announced, h.intact, ?_, ?_, ?_⟩
  · change (r.waiting ++ ((r.tasks.set k ⟨raw, some (f, error)⟩).map (·.raw) ++ (reported ++ lost))).Perm frames
    rw [map_raw_set task]
    exact h.all
  · intro x
    simp only [same, names, List.mem_cons, List.mem_filter, h.named, bne_iff_ne]
    constructor
    · rintro (rfl | ⟨⟨other, stored, rfl⟩, -⟩)
      · exact ⟨raw, Or.inr rfl, rfl⟩
      · exact ⟨other, Or.inl stored, rfl⟩
    · rintro ⟨other, stored | rfl, rfl⟩
      · by_cases index : other.index = raw.index
        · exact Or.inl (by rw [index])
        · exact Or.inr ⟨⟨other, stored, rfl⟩, index⟩
      · exact Or.inl rfl
  · exact Manifest.Builder.Distinct.set h.distinct raw.index (Frame.fileName raw.index)
  · intro x stored
    rcases (same x).1 stored with stored | rfl
    · obtain ⟨f', encoded', mem⟩ := h.filed x stored
      exact ⟨f', encoded', by simp [mem]⟩
    · exact ⟨f, encoded, by simp⟩
  · intro e mem
    rcases List.mem_append.1 mem with mem | mem
    · obtain ⟨x, place, index⟩ := h.logged e mem
      exact ⟨x, place.imp_left fun stored => (same x).2 (Or.inl stored), index⟩
    · obtain rfl : e = (raw.index, f.text) := by simpa using mem
      exact ⟨raw, Or.inl ((same raw).2 (Or.inr rfl)), rfl⟩
  · exact h.once_snoc task f.text

/-- A task that fails is lost, whether or not it has left something in its file. -/
theorem fail (h : Ledger r frames log reported lost) (task : r.tasks[k]? = some ⟨raw, none⟩) (tree : FileTree)
    (failure : Failure) {left? : Option (Int64 × Octets)} (entry : ∀ e ∈ left?, e.1 = raw.index) :
    Ledger ({ r with tree }.fail k failure) frames (log ++ left?.toList) reported (raw :: lost) := by
  have same (x : RawFrame) : ({ r with tree }.fail k failure).Stored reported x ↔ r.Stored reported x :=
    stored_eraseIdx task rfl x
  refine ⟨?_, ?_, h.distinct, h.counted, h.announced, ?_, ?_, ?_, ?_⟩
  · refine List.Perm.trans ?_ (h.all_task task)
    change (r.waiting ++ ((r.tasks.eraseIdx k).map (·.raw) ++ (reported ++ raw :: lost))).Perm _
    have behind : ((r.tasks.eraseIdx k).map (·.raw) ++ (reported ++ raw :: lost)).Perm
        (raw :: ((r.tasks.eraseIdx k).map (·.raw) ++ (reported ++ lost))) :=
      (List.Perm.append_left _ List.perm_middle).trans List.perm_middle
    exact (List.Perm.append_left _ behind).trans List.perm_middle
  · intro x
    simp only [same]
    exact h.named x
  · change r.writeFailure?.or (some failure) = none ↔ raw :: lost = []
    cases r.writeFailure? <;> simp
  · intro x stored
    obtain ⟨f, encoded, mem⟩ := h.filed x ((same x).1 stored)
    exact ⟨f, encoded, by simp [mem]⟩
  · intro e mem
    rcases List.mem_append.1 mem with mem | mem
    · obtain ⟨x, place, index⟩ := h.logged e mem
      refine ⟨x, ?_, index⟩
      rcases place with stored | lost
      · exact Or.inl ((same x).2 stored)
      · exact Or.inr (List.mem_cons_of_mem _ lost)
    · exact ⟨raw, Or.inr (by simp), (entry e (Option.mem_toList.1 mem)).symm⟩
  · intro nodup
    cases left? with
    | none => simpa using h.once nodup
    | some e =>
      have index : e = (raw.index, e.2) := Prod.ext (entry e rfl) rfl
      rw [index]
      exact h.once_snoc task e.2 nodup

theorem count (h : Ledger r frames log reported lost) {f : Frame} {error : Float}
    (task : r.tasks[k]? = some ⟨raw, some (f, error)⟩) :
    Ledger (r.count k raw f error) frames log (raw :: reported) lost := by
  have tasks : (r.count k raw f error).tasks = r.tasks.eraseIdx k := rfl
  have same (x : RawFrame) : (r.count k raw f error).Stored (raw :: reported) x ↔ r.Stored reported x := by
    simp only [Stored, tasks, List.mem_cons]
    constructor
    · rintro ((rfl | mem) | ⟨stored, mem⟩)
      · exact Or.inr ⟨_, List.mem_of_getElem? task⟩
      · exact Or.inl mem
      · exact Or.inr ⟨stored, List.mem_of_mem_eraseIdx mem⟩
    · rintro (mem | ⟨stored, mem⟩)
      · exact Or.inl (Or.inr mem)
      · rcases List.mem_cons.1 ((perm_task task).subset mem) with same | mem
        · cases same
          exact Or.inl (Or.inl rfl)
        · exact Or.inr ⟨stored, mem⟩
  refine ⟨?_, ?_, h.distinct, ?_, ?_, h.intact, ?_, ?_, h.once⟩
  · refine List.Perm.trans ?_ (h.all_task task)
    change (r.waiting ++ ((r.tasks.eraseIdx k).map (·.raw) ++ (raw :: reported ++ lost))).Perm _
    rw [List.cons_append]
    exact (List.Perm.append_left _ List.perm_middle).trans List.perm_middle
  · intro x
    simp only [same]
    exact h.named x
  · change r.written + 1 = (raw :: reported).length
    rw [h.counted, List.length_cons]
  · change r.progress ++ [⟨raw.index, Int64.ofNat (r.written + 1)⟩] = reports (raw :: reported)
    rw [h.announced, h.counted]
    rfl
  · intro x stored
    exact h.filed x ((same x).1 stored)
  · simpa only [same] using h.logged

/-- The frames stay accounted for, whatever the move. -/
theorem change (reader : Reader s r) (h : Ledger r (r.framesRead s) log reported lost) (change : Change r left? r') :
    ∃ reported' lost', Ledger r' (r'.framesRead s) (log ++ left?.toList) reported' lost' := by
  cases change with
  | finish =>
    rw [Option.toList_none, List.append_nil]
    exact ⟨reported, lost, h.all, h.named, h.distinct, h.counted, h.announced, h.intact, h.filed, h.logged, h.once⟩
  | receive d rest running handed next =>
    rw [Option.toList_none, List.append_nil]
    exact ⟨reported, lost, h.receive reader running handed next⟩
  | launch raw rest next =>
    rw [Option.toList_none, List.append_nil]
    exact ⟨reported, lost, h.launch next⟩
  | keep k raw f error loc tree task encoded => exact ⟨reported, lost, h.keep task encoded error tree⟩
  | spoil k raw kept loc tree failure task =>
    exact ⟨reported, raw :: lost, h.fail task tree failure (by simp)⟩
  | lose k raw failure task => exact ⟨reported, raw :: lost, h.fail task r.tree failure (by simp)⟩
  | report k raw f error task =>
    rw [Option.toList_none, List.append_nil]
    exact ⟨raw :: reported, lost, h.count task⟩

end Ledger

/-- The options, the limit and what the builder was told at the start stay as they are. -/
theorem Change.fixed (change : Change r left? r') :
    r'.options = r.options ∧ r'.limit = r.limit ∧ r'.builder.geometry = r.builder.geometry ∧
      r'.builder.fps = r.builder.fps ∧ r'.builder.slug = r.builder.slug := by
  cases change with
  | receive d rest =>
    obtain ⟨_, rfl, received⟩ := receive_eq { r with deliveries := rest } d
    rw [received]
    exact ⟨rfl, rfl, rfl, rfl, rfl⟩
  | finish => exact ⟨rfl, rfl, rfl, rfl, rfl⟩
  | launch => exact ⟨rfl, rfl, rfl, rfl, rfl⟩
  | keep => exact ⟨rfl, rfl, rfl, rfl, rfl⟩
  | spoil => exact ⟨rfl, rfl, rfl, rfl, rfl⟩
  | lose => exact ⟨rfl, rfl, rfl, rfl, rfl⟩
  | report => exact ⟨rfl, rfl, rfl, rfl, rfl⟩

/-- A move that leaves nothing in a file leaves the disk alone. -/
theorem Change.tree_eq (change : Change r none r') : r'.tree = r.tree := by
  cases change with
  | receive d rest =>
    obtain ⟨_, rfl, received⟩ := receive_eq { r with deliveries := rest } d
    rw [received]
  | finish => rfl
  | launch => rfl
  | lose => rfl
  | report => rfl

/-- A move that leaves something does so in the file of its frame only. -/
theorem Change.puts {e : Int64 × Octets} (change : Change r (some e) r') :
    ∃ loc, r.tree.resolve (r.options.framePath e.1) = .ok loc ∧ FileTree.Puts r.tree r'.tree loc e.2 := by
  cases change with
  | keep k raw f error loc tree _ _ resolved puts => exact ⟨loc, resolved, puts⟩
  | spoil k raw kept loc tree _ _ resolved puts => exact ⟨loc, resolved, puts⟩

/-- How the disk differs from the one at the start: by what the log says. -/
structure Disk (t : FileTree) (r : Run) (log : List (Int64 × Octets)) : Prop where
  dirs : FileTree.SameDirs t r.tree
  changed : ∀ loc, r.tree.get? loc = t.get? loc ∨ ∃ e ∈ log,
    t.resolve (r.options.framePath e.1) = .ok loc ∧ t.get? loc ≠ some .directory ∧
      ∃ executable, r.tree.get? loc = some (.file e.2 executable)
  current : (log.map (·.1)).Nodup → ∀ e ∈ log, r.tree.content (r.options.framePath e.1) = .ok e.2

theorem framesDir_ne_nil {o : ConversionOptions} (given : o.outputDir ≠ []) : o.framesDir ≠ [] := by
  have one : ∀ c ∈ [Manifest.framesDir], Path.Plain c := by
    simpa using (⟨by decide, by decide, by decide, by decide⟩ : Path.Plain Manifest.framesDir)
  rw [ConversionOptions.framesDir]
  exact Path.join_ne_nil given one

theorem getLast?_components_framePath {o : ConversionOptions} (given : o.outputDir ≠ []) (index : Int64) :
    (Path.components (o.framePath index)).getLast? = some (Frame.fileName index) := by
  rw [ConversionOptions.framePath]
  exact Path.getLast?_components_join (framesDir_ne_nil given) (Frame.plain_fileName index)

/-- Files of frames with different indices stand at different locations. -/
theorem framePath_apart {t t' : FileTree} {o : ConversionOptions} (given : o.outputDir ≠ []) {i j : Int64} (ne : i ≠ j)
    {loc loc' : Location} (resolved : t.resolve (o.framePath i) = .ok loc) (free : FileTree.isGiven loc = false)
    (resolved' : t'.resolve (o.framePath j) = .ok loc') : loc ≠ loc' := by
  exact FileTree.resolve_apart (getLast?_components_framePath given i) (Frame.plain_fileName i)
    (getLast?_components_framePath given j) (Frame.plain_fileName j) (fun same => ne (Frame.fileName_inj same))
    resolved free resolved'

theorem Disk.change {t : FileTree} {log : List (Int64 × Octets)} (h : Disk t r log) (given : r.options.outputDir ≠ [])
    (change : Change r left? r') : Disk t r' (log ++ left?.toList) := by
  have options := change.fixed.1
  cases left? with
  | none =>
    have tree := change.tree_eq
    rw [Option.toList_none, List.append_nil]
    refine ⟨?_, ?_, ?_⟩
    · rw [tree]
      exact h.dirs
    · rw [tree, options]
      exact h.changed
    · rw [tree, options]
      exact h.current
  | some e =>
    obtain ⟨place, resolved, puts⟩ := change.puts
    have free := FileTree.not_given_of_get? puts.notDir
    refine ⟨h.dirs.trans puts.sameDirs, fun loc => ?_, fun nodup e' mem => ?_⟩
    · rw [options]
      by_cases same : loc = place
      · subst same
        refine Or.inr ⟨e, by simp, h.dirs.resolve_iff.1 resolved, ?_, puts.stored⟩
        exact fun dir => puts.notDir ((h.dirs.dirs loc).2 dir)
      · rw [puts.others loc same]
        rcases h.changed loc with same | ⟨e', mem, logged⟩
        · exact Or.inl same
        · exact Or.inr ⟨e', by simp [mem], logged⟩
    · rw [options]
      simp only [Option.toList_some, List.map_append, List.nodup_append] at nodup
      rcases List.mem_append.1 mem with mem | mem
      · have ne : e.1 ≠ e'.1 := fun same => nodup.2.2 e'.1 (List.mem_map_of_mem mem) e.1 (by simp) same.symm
        obtain ⟨loc, x, resolved', file⟩ := FileTree.content_eq_ok_iff.1 (h.current nodup.1 e' mem)
        refine FileTree.content_eq_ok_iff.2 ⟨loc, x, puts.sameDirs.resolve_iff.2 resolved', ?_⟩
        rw [puts.others loc (framePath_apart given ne resolved free resolved').symm, file]
      · obtain rfl : e' = e := by simpa using mem
        exact puts.content_eq resolved

/-- The file of a frame that the log does not name is what it was. -/
theorem Disk.content_iff {t : FileTree} {log : List (Int64 × Octets)} (h : Disk t r log)
    (given : r.options.outputDir ≠ []) (index : Int64) (unwritten : ∀ e ∈ log, e.1 ≠ index) (data : Octets) :
    r.tree.content (r.options.framePath index) = .ok data ↔ t.content (r.options.framePath index) = .ok data := by
  refine h.dirs.content_iff fun loc resolved => ?_
  rcases h.changed loc with same | ⟨e, mem, resolved', notDir, -⟩
  · exact same
  · exact absurd rfl (framePath_apart given (unwritten e mem) resolved' (FileTree.not_given_of_get? notDir) resolved)

/-- What holds of a run that started with a source, options and a limit, and the log so far, whatever the disk
holds. -/
structure Account (s : Source) (o : ConversionOptions) (limit : Nat) (r : Run) (log : List (Int64 × Octets)) :
    Prop where
  options : r.options = o
  limit : r.limit = limit
  geometry : r.builder.geometry = o.geometry
  fps : r.builder.fps = o.fps
  slug : r.builder.slug = o.slug
  reader : Reader s r
  ledger : ∃ reported lost, Ledger r (r.framesRead s) log reported lost

/-- What holds of a run that started on a tree. -/
structure Invariant (t : FileTree) (s : Source) (o : ConversionOptions) (limit : Nat) (r : Run)
    (log : List (Int64 × Octets)) : Prop extends Account s o limit r log where
  disk : Disk t r log

namespace Account

variable {o : ConversionOptions} {limit : Nat} {log : List (Int64 × Octets)}

theorem given (sound : o.Sound) (h : Account s o limit r log) : r.options.outputDir ≠ [] := by
  rw [h.options]
  exact sound.outputDir

theorem sized (h : Account s o limit r log) : r.Sized := by
  obtain ⟨reported, lost, ledger⟩ := h.ledger
  exact fun task mem => length_of_mem_framesRead (ledger.mem_frames mem)

theorem change (h : Account s o limit r log) (change : Change r left? r') :
    Account s o limit r' (log ++ left?.toList) := by
  obtain ⟨options, limit, geometry, fps, slug⟩ := change.fixed
  obtain ⟨reported, lost, ledger⟩ := h.ledger
  exact ⟨options.trans h.options, limit.trans h.limit, geometry.trans h.geometry, fps.trans h.fps, slug.trans h.slug,
    h.reader.change change, ledger.change h.reader change⟩

/-- Neither calling a run off nor another disk makes a difference. -/
theorem transfer (h : Account s o limit r log) (cancelled : Bool) (tree : FileTree) :
    Account s o limit { r with cancelled, tree } log := by
  obtain ⟨reported, lost, ledger⟩ := h.ledger
  exact ⟨h.options, h.limit, h.geometry, h.fps, h.slug,
    ⟨h.reader.size, h.reader.suffix, h.reader.arrived, h.reader.drained, h.reader.running, h.reader.exhausted⟩,
    reported, lost, ledger.all, ledger.named, ledger.distinct,
    ledger.counted, ledger.announced, ledger.intact, ledger.filed, ledger.logged, ledger.once⟩

theorem step (sound : o.Sound) (h : Account s o limit r log) (m : Move) :
    Account s o limit (r.step m) (log ++ (r.leaves? m).toList) := by
  by_cases off : m = .cancel
  · subst off
    simpa [leaves?, Run.step] using h.transfer true r.tree
  rcases step_cases (by rw [h.options]; exact sound) h.sized off with ⟨same, nothing⟩ | change
  · rw [same, nothing]
    simpa using h
  · exact h.change change

end Account

namespace Invariant

variable {t : FileTree} {o : ConversionOptions} {limit : Nat} {log : List (Int64 × Octets)}

theorem given (sound : o.Sound) (h : Invariant t s o limit r log) : r.options.outputDir ≠ [] := h.toAccount.given sound

theorem sized (h : Invariant t s o limit r log) : r.Sized := h.toAccount.sized

theorem change (sound : o.Sound) (h : Invariant t s o limit r log) (change : Change r left? r') :
    Invariant t s o limit r' (log ++ left?.toList) :=
  ⟨h.toAccount.change change, h.disk.change (h.given sound) change⟩

theorem cancel (h : Invariant t s o limit r log) : Invariant t s o limit { r with cancelled := true } log :=
  ⟨h.transfer true r.tree, h.disk.dirs, h.disk.changed, h.disk.current⟩

theorem step (sound : o.Sound) (h : Invariant t s o limit r log) (m : Move) :
    Invariant t s o limit (r.step m) (log ++ (r.leaves? m).toList) := by
  by_cases off : m = .cancel
  · subst off
    simpa [leaves?, Run.step] using h.cancel
  rcases step_cases (by rw [h.options]; exact sound) h.sized off with ⟨same, nothing⟩ | change
  · rw [same, nothing]
    simpa using h
  · exact h.change sound change

/-- The invariant holds after any moves in any order. -/
theorem steps (sound : o.Sound) (h : Invariant t s o limit r log) (moves : List Move) :
    Invariant t s o limit (r.steps moves) (log ++ r.log moves) := by
  induction moves generalizing r log with
  | nil => simpa [Run.steps, Run.log] using h
  | cons m moves ih =>
    have next := ih (h.step sound m)
    rwa [List.append_assoc] at next

end Invariant

end BlitReel.Run
