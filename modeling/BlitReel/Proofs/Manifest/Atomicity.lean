import Mathlib
import BlitReel.Proofs.Manifest.Storage

/-!
# Storing is all or nothing

Whoever looks for the manifest while one is stored finds the old one or the whole new one, and a storing
that fails leaves the tree that it found. The trees on the way are those between the steps of `Manifest.store`
and, during the step that writes, those in which the temporary file holds a beginning of the document.
-/

namespace BlitReel.Manifest

/-- The disk passes through a tree while a manifest is stored. -/
inductive Passes (refuse : Refusals) (unique : Octets) (t : FileTree) (dir : Octets) (m : Manifest) :
    FileTree → Prop where
  | between {tree : FileTree} (mem : tree ∈ (store refuse unique t dir m).trees) : Passes refuse unique t dir m tree
  | writing {created tree : FileTree} {j : Json} (opened : createTemporary refuse unique t dir = .ok created)
      (document : m.toJson = .ok j) (count : Nat)
      (written : created.put (beside dir (temporaryName unique)) ((Octets.ofString j.indented).take count) = .ok tree) :
      Passes refuse unique t dir m tree

/-- At a path stands what stood there before, or nothing if nothing did. -/
def Keeps (t tree : FileTree) (path : Octets) : Prop := ∀ n, tree.stat path = .ok n ↔ t.stat path = .ok n

variable {refuse : Refusals} {unique : Octets} {t : FileTree} {dir : Octets} {m : Manifest}

theorem Vacant.keeps {temp target : Octets} {loc : Location} (h : Vacant t temp loc)
    (apart : t.resolve target ≠ .ok loc) (content : Octets) : Keeps t (drafted t loc content) target := by
  intro n
  simp only [FileTree.stat_eq_ok_iff, (h.sameDirs content).resolve_iff]
  refine exists_congr fun place => and_congr_right fun aim => ?_
  have away : place ≠ loc := fun same => apart (same ▸ aim)
  rw [h.get?_drafted, if_neg away]

theorem stat_set {target content : Octets} {place : Location} (aim : t.resolve target = .ok place)
    (free : t.get? place ≠ some .directory) :
    (t.set place (.file content false)).stat target = .ok (.file content false) := by
  have puts : FileTree.Puts t (t.set place (.file content false)) place content := FileTree.Puts.of_set free false
  refine FileTree.stat_eq_ok_iff.2 ⟨place, puts.sameDirs.resolve_iff.2 aim, ?_⟩
  rw [FileTree.get?_set (FileTree.not_given_of_get? free), if_pos rfl]

/-- In every tree of a trace the old manifest is found, or the new one. -/
theorem Trace.old_or_new {document : Octets} {s : Storing} (trace : Trace refuse unique t dir document s)
    (clear : Path.slash ∉ unique) {tree : FileTree} (mem : tree ∈ s.trees) :
    Keeps t tree (Path.join [dir, fileName]) ∨
      tree.stat (Path.join [dir, fileName]) = .ok (.file document false) := by
  have same : Keeps t t (Path.join [dir, fileName]) := fun n => Iff.rfl
  cases trace with
  | unbegun f obstacle =>
    obtain rfl : tree = t := by simpa using mem
    exact Or.inl same
  | broken loc vacant count f obstacle =>
    have keeps := vacant.keeps (vacant.apart clear)
    simp only [List.mem_cons, List.not_mem_nil, or_false] at mem
    rcases mem with rfl | rfl | rfl | rfl
    · exact Or.inl same
    · exact Or.inl (keeps _)
    · exact Or.inl (keeps _)
    · exact Or.inl same
  | moved loc vacant place aim free feasible =>
    have keeps := vacant.keeps (vacant.apart clear)
    simp only [List.mem_cons, List.not_mem_nil, or_false] at mem
    rcases mem with rfl | rfl | rfl | rfl
    · exact Or.inr (stat_set aim free)
    · exact Or.inl (keeps _)
    · exact Or.inl (keeps _)
    · exact Or.inl same

theorem Trace.final_of_error {document : Octets} {s : Storing} (trace : Trace refuse unique t dir document s)
    {f : Failure} (failed : s.outcome = .error f) : s.final t = t := by
  cases trace with
  | unbegun f obstacle => rfl
  | broken loc vacant count f obstacle => rfl
  | moved loc vacant place aim free feasible => cases failed

/-- **Storing is all or nothing.** At every point of storing a manifest, whatever step the system refuses, its
place holds what it held before, or the whole new document. When storing fails, the tree is the one before; when
it succeeds, the new document stands in its place and nothing else has changed. It succeeds exactly if there is a
document, no step is refused, nothing has the name of the temporary file and no directory stands in the place. -/
theorem store_atomic (refuse : Refusals) {unique : Octets} (clear : Path.slash ∉ unique) (t : FileTree)
    (dir : Octets) (m : Manifest) :
    (∀ tree, Passes refuse unique t dir m tree → Keeps t tree (Path.join [dir, fileName]) ∨
      ∃ j, m.toJson = .ok j ∧ tree.stat (Path.join [dir, fileName]) = .ok (.file (Octets.ofString j.indented) false)) ∧
    (∀ f, (store refuse unique t dir m).outcome = .error f → (store refuse unique t dir m).final t = t) ∧
    ((store refuse unique t dir m).outcome = .ok () → ∃ j place, m.toJson = .ok j ∧
      t.resolve (Path.join [dir, fileName]) = .ok place ∧
      FileTree.Puts t ((store refuse unique t dir m).final t) place (Octets.ofString j.indented)) ∧
    ((store refuse unique t dir m).outcome = .ok () ↔ (∃ j, m.toJson = .ok j) ∧ Feasible refuse unique t dir) := by
  refine ⟨fun tree passes => ?_, fun f failed => ?_, fun stored => ?_, ?_⟩
  · cases passes with
    | between mem =>
      rw [store] at mem
      cases document : m.toJson with
      | error f =>
        obtain rfl : tree = t := by simpa [document] using mem
        exact Or.inl fun n => Iff.rfl
      | ok j =>
        rw [document] at mem
        refine ((storeDocument_trace refuse clear t dir _).old_or_new clear mem).imp_right fun whole => ?_
        exact ⟨j, rfl, whole⟩
    | writing opened document count written =>
      obtain ⟨-, loc, vacant, rfl⟩ := createTemporary_eq_ok_iff.1 opened
      obtain rfl := Except.ok.inj ((vacant.put [] _).symm.trans written)
      exact Or.inl (vacant.keeps (vacant.apart clear) _)
  · rw [store] at failed ⊢
    cases document : m.toJson with
    | error f => rfl
    | ok j =>
      rw [document] at failed
      exact (storeDocument_trace refuse clear t dir _).final_of_error failed
  · rcases store_cases refuse clear t dir m with ⟨⟨f, failed⟩, -⟩ | ⟨-, whole⟩
    · rw [stored] at failed
      cases failed
    · exact whole
  · rw [store]
    cases document : m.toJson with
    | error f => simp
    | ok j => simp [storeDocument_eq_ok_iff clear]

/-- A directory with a manifest, which reads `{}`. -/
def shelved : FileTree where
  entries := [([Octets.ofString "out"], .directory),
    ([Octets.ofString "out", fileName], .file (Octets.ofString "\x7b\x7d") false)]

/-- A full disk takes three octets and no more. -/
def fullDisk : Refusals
  | .write => some (.plain "write: no space left on device")
  | .octet 3 => some (.plain "write: no space left on device")
  | _ => none

/-- A full disk leaves everything as it was, with the old or the new manifest to be found at every point; on
another disk the new one takes the place of the old one. -/
theorem store_atomic_fullDisk :
    (store fullDisk [0x30] shelved (Octets.ofString "out") {}).outcome =
      .error (storeFailure (.plain "write: no space left on device")) ∧
    (store fullDisk [0x30] shelved (Octets.ofString "out") {}).final shelved = shelved ∧
    (∀ tree, Passes fullDisk [0x30] shelved (Octets.ofString "out") {} tree →
      tree.stat (Octets.ofString "out/manifest.json") = .ok (.file (Octets.ofString "\x7b\x7d") false) ∨
      ∃ j, toJson {} = .ok j ∧
        tree.stat (Octets.ofString "out/manifest.json") = .ok (.file (Octets.ofString j.indented) false)) ∧
    (store willing [0x30] shelved (Octets.ofString "out") {}).outcome = .ok () ∧
    ∃ j, toJson {} = .ok j ∧
      ((store willing [0x30] shelved (Octets.ofString "out") {}).final shelved).content
        (Octets.ofString "out/manifest.json") = .ok (Octets.ofString j.indented) := by
  have path : Path.join [Octets.ofString "out", fileName] = Octets.ofString "out/manifest.json" := by decide
  have failed : (store fullDisk [0x30] shelved (Octets.ofString "out") {}).outcome =
      .error (storeFailure (.plain "write: no space left on device")) := by decide +kernel
  have stored : (store willing [0x30] shelved (Octets.ofString "out") {}).outcome = .ok () := by decide +kernel
  have old : shelved.stat (Octets.ofString "out/manifest.json") = .ok (.file (Octets.ofString "\x7b\x7d") false) := by
    decide +kernel
  have slash : Path.slash ∉ ([0x30] : Octets) := by decide
  obtain ⟨oldOrNew, unchanged, -⟩ := store_atomic fullDisk slash shelved (Octets.ofString "out") {}
  obtain ⟨-, -, replaced, -⟩ := store_atomic willing slash shelved (Octets.ofString "out") {}
  obtain ⟨j, place, document, aim, puts⟩ := replaced stored
  rw [path] at oldOrNew aim
  refine ⟨failed, unchanged _ failed, fun tree passes => ?_, stored, j, document, puts.content_eq aim⟩
  exact (oldOrNew tree passes).imp_left fun keeps => (keeps _).2 old

end BlitReel.Manifest
