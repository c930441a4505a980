import Mathlib
import BlitReel.Proofs.Files.FileTree

/-!
# Files with several names

What is written under one name of a file is copied to its other names (`share`). Names of files that stand
in the tree are no directories (`Links.Hold`), so copying leaves every directory as it is and changes what
stands at the other names only.
-/

namespace BlitReel

namespace Links

/-- All names of the file at a location. -/
def names (links : Links) (loc : Location) : List Location := loc :: links.others loc

@[simp] theorem others_empty (loc : Location) : ({} : Links).others loc = [] := rfl

@[simp] theorem names_empty (loc : Location) : ({} : Links).names loc = [loc] := rfl

theorem mem_names {links : Links} {loc other : Location} :
    other ∈ links.names loc ↔ other = loc ∨ other ∈ links.others loc := List.mem_cons

/-- Another name is one of those listed for a file. -/
theorem listed_of_mem_others {links : Links} {loc other : Location} (mem : other ∈ links.others loc) :
    ∃ file ∈ links.files, other ∈ file := by
  rw [others, List.mem_filter, List.mem_flatten] at mem
  obtain ⟨⟨file, listed, named⟩, -⟩ := mem
  exact ⟨file, List.mem_of_mem_filter listed, named⟩

/-- A file stands in the tree under each of its names. -/
def Hold (links : Links) (t : FileTree) : Prop :=
  ∀ file ∈ links.files, ∀ loc ∈ file, t.get? loc ≠ none ∧ t.get? loc ≠ some .directory

instance (links : Links) (t : FileTree) : Decidable (links.Hold t) :=
  inferInstanceAs (Decidable (∀ file ∈ links.files, ∀ loc ∈ file, t.get? loc ≠ none ∧ t.get? loc ≠ some .directory))

theorem hold_empty (t : FileTree) : ({} : Links).Hold t := by
  intro file mem
  cases mem

theorem Hold.others {links : Links} {t : FileTree} (held : links.Hold t) {loc other : Location}
    (mem : other ∈ links.others loc) : t.get? other ≠ none ∧ t.get? other ≠ some .directory := by
  obtain ⟨file, listed, named⟩ := listed_of_mem_others mem
  exact held file listed other named

/-- Where files stay files, they keep their names. -/
theorem Hold.mono {links : Links} {t t' : FileTree} (held : links.Hold t)
    (files : ∀ loc, t.get? loc ≠ none → t.get? loc ≠ some .directory →
      t'.get? loc ≠ none ∧ t'.get? loc ≠ some .directory) : links.Hold t' := by
  intro file listed loc named
  obtain ⟨stands, notDir⟩ := held file listed loc named
  exact files loc stands notDir

end Links

namespace FileTree

variable {t : FileTree} {links : Links} {p : Octets} {loc : Location} {n : FileNode}

@[simp] theorem share_empty (t : FileTree) (p : Octets) : t.share {} p = t := by
  unfold share
  split
  · rfl
  split
  · rfl
  · rfl

theorem home_foldl_set (names : List Location) (t : FileTree) (n : FileNode) :
    (names.foldl (fun t other => t.set other n) t).home = t.home := by
  induction names generalizing t with
  | nil => rfl
  | cons name names ih =>
    rw [List.foldl_cons, ih]
    exact home_set t name n

theorem get?_foldl_set {names : List Location} (free : ∀ name ∈ names, isGiven name = false) (t : FileTree)
    (n : FileNode) (loc : Location) :
    (names.foldl (fun t other => t.set other n) t).get? loc = if loc ∈ names then some n else t.get? loc := by
  induction names generalizing t with
  | nil => rfl
  | cons name names ih =>
    rw [List.forall_mem_cons] at free
    rw [List.foldl_cons, ih free.2, get?_set free.1]
    by_cases later : loc ∈ names
    · simp [later]
    · by_cases here : loc = name
      · simp [here]
      · simp [later, here]

@[simp] theorem home_share (t : FileTree) (links : Links) (p : Octets) : (t.share links p).home = t.home := by
  unfold share
  split
  · rfl
  split
  · rfl
  · exact home_foldl_set _ _ _

/-- The other names get the node, and all else stays. -/
theorem get?_share (resolved : t.resolve p = .ok loc) (stands : t.get? loc = some n)
    (free : ∀ other ∈ links.others loc, isGiven other = false) (loc' : Location) :
    (t.share links p).get? loc' = if loc' ∈ links.others loc then some n else t.get? loc' := by
  unfold share
  simp only [resolved, stands]
  exact get?_foldl_set free t n loc'

end FileTree

end BlitReel
