import Mathlib
import BlitReel.Proofs.Manifest.Document
import BlitReel.Proofs.Manifest.Storage

/-!
# A stored manifest is loaded again

Storing changes one file only, so what could be looked up before can be looked up afterwards
(`Puts.stat_ok`), and the document of a manifest whose texts are valid describes that very manifest
(`ofJson?_build`). Together: what has been stored is loaded as it was built (`load_store`).
-/

namespace BlitReel

/-- Putting a file somewhere makes nothing disappear. -/
theorem FileTree.Puts.stat_ok {t t' : FileTree} {loc : Location} {content : Octets} (h : Puts t t' loc content)
    {p : Octets} {n : FileNode} (there : t.stat p = .ok n) : ∃ n', t'.stat p = .ok n' := by
  obtain ⟨loc', resolved, found⟩ := stat_eq_ok_iff.1 there
  have resolved' := h.sameDirs.resolve_iff.2 resolved
  by_cases same : loc' = loc
  · subst same
    obtain ⟨x, stored⟩ := h.stored
    exact ⟨_, stat_eq_ok_iff.2 ⟨loc', resolved', stored⟩⟩
  · refine ⟨n, stat_eq_ok_iff.2 ⟨loc', resolved', ?_⟩⟩
    rw [h.others loc' same, found]

namespace Manifest

variable {b : Builder}

theorem Builder.mem_ordered {name : Octets} (mem : name ∈ b.ordered) : ∃ e ∈ b.names, e.2 = name := by
  obtain ⟨e, sorted, same⟩ := List.mem_map.1 mem
  exact ⟨e, List.mem_mergeSort.1 sorted, same⟩

theorem Builder.length_ordered (small : b.size < 2 ^ 63) : (b.ordered.length : Int) = (Int64.ofNat b.size).toInt := by
  have length : b.ordered.length = b.size := by simp [ordered, size]
  rw [length, Int64.toInt_ofNat_of_lt small]

/-- The document of a manifest describes that manifest, if slug and names are texts and the rate survives. -/
theorem ofJson?_build {j : Json} (document : b.build.toJson = .ok j) (slug : Utf8.valid b.slug = true)
    (names : ∀ e ∈ b.names, Utf8.valid e.2 = true) (rate : reread? b.fps = some b.fps) :
    ofJson? j = some b.build := by
  have frames : b.ordered.map Octets.asText = b.ordered := by
    rw [← List.map_id b.ordered, List.map_map]
    apply List.map_congr_left
    intro name mem
    obtain ⟨e, recorded, rfl⟩ := Builder.mem_ordered mem
    exact Octets.asText_of_valid (names e recorded)
  have format : formatName.asText = formatName := Octets.asText_ofString _
  have base : framesDir.asText = framesDir := Octets.asText_ofString _
  rw [ofJson?_toJson document rfl]
  simp only [Builder.build, rate, Option.map_some, format, base, frames, Octets.asText_of_valid slug]

/-- A manifest that has been stored is loaded as it was built, whatever directory it was stored in and whatever
texts its slug and the names of its frames are, if the frames are there and the rate survives writing and
reading. -/
theorem load_store (refuse : Refusals) {unique : Octets} (clear : Path.slash ∉ unique) (t : FileTree) (dir : Octets)
    (b : Builder) (small : b.size < 2 ^ 63) (slug : Utf8.valid b.slug = true)
    (names : ∀ e ∈ b.names, Utf8.valid e.2 = true) (rate : reread? b.fps = some b.fps)
    (frames : ∀ e ∈ b.names, ∃ n, t.stat (Path.join [dir, framesDir, e.2]) = .ok n)
    (stored : (store refuse unique t dir b.build).outcome = .ok ()) :
    load ((store refuse unique t dir b.build).final t) dir = .ok b.build := by
  rcases store_cases refuse clear t dir b.build with ⟨⟨f, fails⟩, -⟩ | ⟨-, j, place, document, aim, puts⟩
  · rw [stored] at fails
    cases fails
  rw [load_document document (puts.content_eq aim)]
  refine ⟨ofJson?_build document slug names rate, rfl, Builder.length_ordered small, ?_⟩
  intro name mem
  obtain ⟨e, recorded, rfl⟩ := Builder.mem_ordered mem
  obtain ⟨n, there⟩ := frames e recorded
  exact puts.stat_ok there

/-- Frames whose names need every kind of escape, recorded out of order. -/
def peculiar : Builder where
  geometry := { width := 2, height := -1 }
  fps := 29.97
  slug := Octets.ofString "a \"b\" \\ <&> \u2028\n"
  names := [(2, Octets.ofString "\u2029\t.txt"), (1, Octets.ofString "\"one\" \\")]

/-- A disk with those frames. -/
def peculiarTree : FileTree where
  entries := [([Octets.ofString "out"], .directory), ([Octets.ofString "out", framesDir], .directory),
    ([Octets.ofString "out", framesDir, Octets.ofString "\u2029\t.txt"], .file [] false),
    ([Octets.ofString "out", framesDir, Octets.ofString "\"one\" \\"], .file [] false)]

theorem load_store_peculiar :
    (store willing [0x30] peculiarTree (Octets.ofString "out") peculiar.build).outcome = .ok () ∧
      load ((store willing [0x30] peculiarTree (Octets.ofString "out") peculiar.build).final peculiarTree)
        (Octets.ofString "out") = .ok peculiar.build := by
  have stored : (store willing [0x30] peculiarTree (Octets.ofString "out") peculiar.build).outcome = .ok () := by
    decide +kernel
  have frames : ∀ e ∈ peculiar.names, ∃ n,
      peculiarTree.stat (Path.join [Octets.ofString "out", framesDir, e.2]) = .ok n := by
    intro e mem
    exact ⟨.file [] false, by revert e; decide +kernel⟩
  exact ⟨stored, load_store willing (by decide) _ _ _ (by decide) (by decide +kernel) (by decide +kernel)
    (by decide +kernel) frames stored⟩

end Manifest

end BlitReel
