import Mathlib
import BlitReel.Proofs.Files.Cleaning
import BlitReel.Proofs.Manifest.Document
import BlitReel.Proofs.Manifest.Storage
import BlitReel.Service.Library

/-!
# Listing and looking up conversions

The listing takes the root as it stands, goes through the names in it and asks for a manifest under each;
the lookup takes a name, asks whether it is a slug and reads the manifest under the cleaned path. On
slugs the two agree if the root is a directory (`mem_videos_iff`), so they agree altogether exactly when all
that is listed are slugs and the root is a directory unless nothing can be looked up (`agree_iff`). A
directory whose name is no slug is listed and cannot be looked up.
-/

namespace BlitReel

namespace FileTree

variable {t : FileTree} {loc : Location}

/-- Every location is entered once. -/
def Distinct (t : FileTree) : Prop := (t.entries.map (·.1)).Nodup

instance (t : FileTree) : Decidable t.Distinct := inferInstanceAs (Decidable (t.entries.map (·.1)).Nodup)

theorem nameBefore_iff {a b : Octets} : nameBefore a b = true ↔ a ≤ b := by
  simp [nameBefore, List.not_lt]

theorem childOf_eq_some_iff {e : Location × FileNode} {a : Octets × FileNode} :
    childOf loc e = some a ↔ e = (loc ++ [a.1], a.2) := by
  obtain ⟨l, n⟩ := e
  obtain ⟨name, n'⟩ := a
  unfold childOf
  constructor
  · intro taken
    split at taken
    · rename_i last
      split at taken
      · rename_i above
        cases taken
        rw [← beq_iff_eq.1 above, List.dropLast_append_getLast? _ last]
      · cases taken
    · cases taken
  · intro same
    cases same
    simp

/-- What is entered below a location is among its children. -/
theorem mem_children {name : Octets} {n : FileNode} (plain : Path.Plain name)
    (there : t.get? (loc ++ [name]) = some n) : (name, n) ∈ t.children loc := by
  rw [get?_of_not_given (isGiven_append_plain plain)] at there
  obtain ⟨⟨l, n⟩, found, rfl⟩ := Option.map_eq_some_iff.1 there
  obtain rfl : l = loc ++ [name] := by simpa using List.find?_some found
  unfold children
  rw [List.mem_mergeSort, List.mem_filterMap]
  exact ⟨_, List.mem_of_find?_eq_some found, childOf_eq_some_iff.2 rfl⟩

/-- The children of a location come in order, each name once. -/
theorem pairwise_children (distinct : t.Distinct) (loc : Location) :
    (t.children loc).Pairwise fun a b => a.1 < b.1 := by
  have sorted : (t.children loc).Pairwise fun a b => a.1 ≤ b.1 := by
    refine (List.pairwise_mergeSort (fun a b c h h' => ?_) (fun a b => ?_) _).imp fun h => nameBefore_iff.1 h
    · exact nameBefore_iff.2 (List.le_trans (nameBefore_iff.1 h) (nameBefore_iff.1 h'))
    · rw [Bool.or_eq_true, nameBefore_iff, nameBefore_iff]
      exact List.le_total a.1 b.1
  have apart : (t.children loc).Pairwise fun a b => a.1 ≠ b.1 := by
    unfold children
    refine ((List.mergeSort_perm _ _).pairwise_iff fun h => h.symm).2 (List.pairwise_filterMap.2 ?_)
    refine (List.pairwise_map.1 distinct).imp ?_
    intro e e' ne a first a' second same
    rw [childOf_eq_some_iff.1 first, childOf_eq_some_iff.1 second] at ne
    exact ne (by rw [same])
  refine (sorted.and apart).imp fun {a b} h => ?_
  by_contra later
  exact h.2 (List.le_antisymm h.1 (List.not_lt.1 later))

theorem isDirectory_iff {p : Octets} :
    t.isDirectory p = true ↔ ∃ loc, t.resolve p = .ok loc ∧ t.get? loc = some .directory := by
  rw [← stat_eq_ok_iff, isDirectory]
  split <;> simp_all

theorem list_eq_ok_iff {p : Octets} {names : List (Octets × FileNode)} : t.list p = .ok names ↔
    ∃ loc, t.resolve p = .ok loc ∧ t.get? loc = some .directory ∧ t.children loc = names := by
  unfold list
  cases t.resolve p with
  | error r => simp
  | ok loc =>
    simp only [Except.ok.injEq, exists_eq_left']
    cases t.get? loc with
    | none => simp
    | some n => cases n <;> simp

end FileTree

theorem Settings.plain_of_validSlug {s : Octets} (h : validSlug s = true) : Path.Plain s := by
  cases s with
  | nil => cases h
  | cons b rest =>
    simp only [validSlug, Bool.and_eq_true, List.all_eq_true] at h
    have first : b ≠ 0x2E := by
      rintro rfl
      exact absurd h.1 (by decide)
    refine ⟨by simp, ?_, ?_, ?_⟩
    · intro same
      exact first (List.cons.inj same).1
    · intro same
      exact first (List.cons.inj same).1
    · intro mem
      rcases List.mem_cons.1 mem with rfl | mem
      · exact absurd h.1 (by decide)
      · exact absurd (h.2 _ mem) (by decide)

namespace Library

variable {t : FileTree} {root s : Octets} {l : List Octets}

theorem video_eq_ok_iff {m : Manifest} : video t root s = .ok m ↔
    Settings.validSlug s = true ∧ Manifest.load t (Path.join [root, s]) = .ok m := by
  unfold video
  split <;> simp_all

/-- What is listed: nothing if the root is no directory, and the directories with a manifest otherwise. -/
theorem videos_cases (listed : videos t root = .ok l) :
    (t.isDirectory root = false ∧ l = []) ∨ ∃ loc, t.resolve root = .ok loc ∧ t.get? loc = some .directory ∧
      l = ((t.children loc).filter fun (name, n) =>
        n == .directory && (Manifest.load t (Path.join [root, name])).isOk).map (·.1) := by
  unfold videos at listed
  split at listed
  · rename_i f failed
    split at listed
    · cases listed
      refine Or.inl ⟨?_, rfl⟩
      by_contra dir
      obtain ⟨loc, resolved, there⟩ := FileTree.isDirectory_iff.1 (by simpa using dir)
      rw [FileTree.list_eq_ok_iff.2 ⟨loc, resolved, there, rfl⟩] at failed
      cases failed
    · cases listed
  · rename_i entries found
    cases listed
    obtain ⟨loc, resolved, there, rfl⟩ := FileTree.list_eq_ok_iff.1 found
    exact Or.inr ⟨loc, resolved, there, rfl⟩

theorem videos_of_isDirectory (dir : t.isDirectory root = true) : ∃ l, videos t root = .ok l := by
  obtain ⟨loc, resolved, there⟩ := FileTree.isDirectory_iff.1 dir
  unfold videos
  rw [FileTree.list_eq_ok_iff.2 ⟨loc, resolved, there, rfl⟩]
  exact ⟨_, rfl⟩

theorem pairwise_videos (distinct : t.Distinct) (listed : videos t root = .ok l) : l.Pairwise (· < ·) := by
  rcases videos_cases listed with ⟨-, rfl⟩ | ⟨loc, -, -, rfl⟩
  · exact List.Pairwise.nil
  · exact List.pairwise_map.2 ((FileTree.pairwise_children distinct loc).filter _)

/-- Whatever is listed has a manifest. -/
theorem load_of_mem_videos (listed : videos t root = .ok l) (mem : s ∈ l) :
    ∃ m, Manifest.load t (Path.join [root, s]) = .ok m := by
  rcases videos_cases listed with ⟨-, rfl⟩ | ⟨loc, -, -, rfl⟩
  · cases mem
  · obtain ⟨⟨name, n⟩, kept, rfl⟩ := List.mem_map.1 mem
    have loads := (List.mem_filter.1 kept).2
    simp only [Bool.and_eq_true] at loads
    cases loaded : Manifest.load t (Path.join [root, name]) with
    | error f =>
      rw [loaded] at loads
      cases loads.2
    | ok m => exact ⟨m, rfl⟩

/-- A manifest that is read stands behind the root and the name. -/
theorem resolve_of_load (ne : root ≠ []) (plain : Path.Plain s) {m : Manifest}
    (loaded : Manifest.load t (Path.join [root, s]) = .ok m) :
    ∃ target, t.resolve (Path.join [root, s, Manifest.fileName]) = .ok target := by
  obtain ⟨data, j, content, -⟩ := Manifest.load_eq_ok_iff.1 loaded
  rw [Path.join_join ne (by simpa using plain) (by simpa using Manifest.plain_fileName)] at content
  obtain ⟨target, x, found, -⟩ := FileTree.content_eq_ok_iff.1 content
  exact ⟨target, found⟩

/-- The way to a manifest goes through two directories. -/
theorem directories_of_walk (plain : Path.Plain s) {loc target : Location}
    (walked : t.walk [s, Manifest.fileName] loc = .ok target) :
    t.get? loc = some .directory ∧ t.get? (loc ++ [s]) = some .directory := by
  obtain ⟨mid, first, last⟩ := FileTree.walk_append_eq_ok_iff.1
    (show t.walk ([s] ++ [Manifest.fileName]) loc = .ok target from walked)
  obtain ⟨dir, -, rfl⟩ := (FileTree.walk_plain plain).1 first
  exact ⟨dir, ((FileTree.walk_plain Manifest.plain_fileName).1 last).1⟩

section Direct

variable (direct : t.Direct root) (plain : Path.Plain s) {m : Manifest}
  (loaded : Manifest.load t (Path.join [root, s]) = .ok m)

include direct plain loaded

/-- A directory from which a manifest is read stands where the root leads. -/
theorem directory_of_load {loc : Location} (resolved : t.resolve root = .ok loc) :
    t.get? (loc ++ [s]) = some .directory := by
  have ne : root ≠ [] := by
    rintro rfl
    cases resolved
  have names : ∀ c ∈ [s, Manifest.fileName], Path.Plain c := by simp [plain, Manifest.plain_fileName]
  obtain ⟨target, found⟩ := resolve_of_load ne plain loaded
  exact (directories_of_walk plain (direct.down loc _ target resolved names found)).2

/-- A root that is written clean is a directory when a manifest is read below it. -/
theorem isDirectory_of_load (clean : Path.clean root = root) : t.isDirectory root = true := by
  have ne : root ≠ [] := by
    rw [← clean]
    exact Path.render_ne_nil _ _
  have names : ∀ c ∈ [s, Manifest.fileName], Path.Plain c := by simp [plain, Manifest.plain_fileName]
  obtain ⟨target, found⟩ := resolve_of_load ne plain loaded
  obtain ⟨loc, resolved, walked⟩ := direct.up _ target ne names found
  rw [clean] at resolved
  exact FileTree.isDirectory_iff.2 ⟨loc, resolved, (directories_of_walk plain walked).1⟩

end Direct

/-- On slugs, listing and lookup agree if the root is a directory. -/
theorem mem_videos_iff (direct : t.Direct root) (dir : t.isDirectory root = true) (listed : videos t root = .ok l)
    (slug : Settings.validSlug s = true) : s ∈ l ↔ ∃ m, video t root s = .ok m := by
  constructor
  · intro mem
    obtain ⟨m, loaded⟩ := load_of_mem_videos listed mem
    exact ⟨m, video_eq_ok_iff.2 ⟨slug, loaded⟩⟩
  · rintro ⟨m, looked⟩
    have plain := Settings.plain_of_validSlug slug
    have loaded := (video_eq_ok_iff.1 looked).2
    rcases videos_cases listed with ⟨none, -⟩ | ⟨loc, resolved, -, rfl⟩
    · rw [dir] at none
      cases none
    · have child := FileTree.mem_children plain (directory_of_load direct plain loaded resolved)
      refine List.mem_map.2 ⟨(s, .directory), List.mem_filter.2 ⟨child, ?_⟩, rfl⟩
      simp [loaded, Except.isOk, Except.toBool]

/-- What can be looked up is listed exactly if the root is a directory. -/
theorem listed_iff_isDirectory (direct : t.Direct root) {m : Manifest} (looked : video t root s = .ok m) :
    (∃ l, videos t root = .ok l ∧ s ∈ l) ↔ t.isDirectory root = true := by
  constructor
  · rintro ⟨l, listed, mem⟩
    rcases videos_cases listed with ⟨-, rfl⟩ | ⟨loc, resolved, there, -⟩
    · cases mem
    · exact FileTree.isDirectory_iff.2 ⟨loc, resolved, there⟩
  · intro dir
    obtain ⟨l, listed⟩ := videos_of_isDirectory dir
    exact ⟨l, listed, (mem_videos_iff direct dir listed (video_eq_ok_iff.1 looked).1).2 ⟨m, looked⟩⟩

/-- When listing and lookup agree. -/
theorem agree_iff (direct : t.Direct root) (listed : videos t root = .ok l) :
    (∀ s, s ∈ l ↔ ∃ m, video t root s = .ok m) ↔
      (∀ s ∈ l, Settings.validSlug s = true) ∧ (t.isDirectory root = true ∨ ∀ s m, video t root s ≠ .ok m) := by
  constructor
  · intro agree
    constructor
    · intro s mem
      obtain ⟨m, looked⟩ := (agree s).1 mem
      exact (video_eq_ok_iff.1 looked).1
    · rcases videos_cases listed with ⟨-, rfl⟩ | ⟨loc, resolved, there, -⟩
      · refine Or.inr fun s m looked => ?_
        cases (agree s).2 ⟨m, looked⟩
      · exact Or.inl (FileTree.isDirectory_iff.2 ⟨loc, resolved, there⟩)
  · rintro ⟨slugs, dir | none⟩ s
    · constructor
      · intro mem
        exact (mem_videos_iff direct dir listed (slugs s mem)).1 mem
      · rintro ⟨m, looked⟩
        exact (mem_videos_iff direct dir listed (video_eq_ok_iff.1 looked).1).2 ⟨m, looked⟩
    · constructor
      · intro mem
        obtain ⟨m, loaded⟩ := load_of_mem_videos listed mem
        exact absurd (video_eq_ok_iff.2 ⟨slugs s mem, loaded⟩) (none s m)
      · rintro ⟨m, looked⟩
        exact absurd looked (none s m)

/-- Whenever the conversions can be listed, the list is in order without repetitions, and if the root is a
directory then it has exactly those slugs that can be looked up. Listing and lookup agree on all names exactly
when every name listed is a slug and the root is a directory unless nothing can be looked up; the second
is no condition for a root that is written clean. -/
theorem videos_agree_iff (distinct : t.Distinct) (direct : t.Direct root) (listed : videos t root = .ok l) :
    l.Pairwise (· < ·) ∧
    (t.isDirectory root = true → ∀ s, Settings.validSlug s = true → (s ∈ l ↔ ∃ m, video t root s = .ok m)) ∧
    ((∀ s, s ∈ l ↔ ∃ m, video t root s = .ok m) ↔
      (∀ s ∈ l, Settings.validSlug s = true) ∧ (t.isDirectory root = true ∨ ∀ s m, video t root s ≠ .ok m)) ∧
    (Path.clean root = root →
      ((∀ s, s ∈ l ↔ ∃ m, video t root s = .ok m) ↔ ∀ s ∈ l, Settings.validSlug s = true)) := by
  refine ⟨pairwise_videos distinct listed, fun dir s slug => mem_videos_iff direct dir listed slug,
    agree_iff direct listed, fun clean => ?_⟩
  rw [agree_iff direct listed, and_iff_left_iff_imp]
  intro _
  by_cases none : ∀ s m, video t root s ≠ .ok m
  · exact Or.inr none
  · push Not at none
    obtain ⟨s, m, looked⟩ := none
    obtain ⟨slug, loaded⟩ := video_eq_ok_iff.1 looked
    exact Or.inl (isDirectory_of_load direct (Settings.plain_of_validSlug slug) loaded clean)

/-- A disk with one directory below the root, with a manifest of no frames in it. -/
def shelf (name : String) : FileTree where
  entries := [([Octets.ofString "videos"], .directory), ([Octets.ofString "videos", Octets.ofString name], .directory),
    ([Octets.ofString "videos", Octets.ofString name, Manifest.fileName],
      .file (Octets.ofString "\x7b\"format\":\"nfp-bg-rows-v1\",\"frames\":[]\x7d") false)]

theorem direct_shelf (name : String) (root : Octets) : (shelf name).Direct root :=
  FileTree.direct_of_unaliased (Or.inl rfl)

theorem videos_agree_iff_shelf : videos (shelf "clip") (Octets.ofString "videos") = .ok [Octets.ofString "clip"] ∧
    ∀ s, s ∈ [Octets.ofString "clip"] ↔ ∃ m, video (shelf "clip") (Octets.ofString "videos") s = .ok m := by
  have listed : videos (shelf "clip") (Octets.ofString "videos") = .ok [Octets.ofString "clip"] := by decide +kernel
  have distinct : (shelf "clip").Distinct := by decide +kernel
  obtain ⟨-, -, -, agree⟩ := videos_agree_iff distinct (direct_shelf "clip" _) listed
  exact ⟨listed, (agree (by decide +kernel)).2 (by decide +kernel)⟩

/-- A directory whose name is no slug is listed and cannot be looked up. -/
theorem videos_disagree : videos (shelf "my clip") (Octets.ofString "videos") = .ok [Octets.ofString "my clip"] ∧
    video (shelf "my clip") (Octets.ofString "videos") (Octets.ofString "my clip") =
      .error (.plain "stream: video: invalid slug \"my clip\"") := by
  constructor
  · decide +kernel
  · have slug : Settings.validSlug (Octets.ofString "my clip") = false := by decide +kernel
    unfold video
    rw [slug]
    have quoted : Quoted.octets (Octets.ofString "my clip") = "\"my clip\"" := by decide +kernel
    simp only [Bool.false_eq_true, ↓reduceIte, quoted]
    rfl

end Library

end BlitReel
