import Mathlib
import BlitReel.Manifest.Storage
import BlitReel.Proofs.Files.Operations

/-!
# Storing a manifest

The document is written to a temporary file and moved. While it is written the tree is the old one with
one file more (`drafted`), whose removal gives the old tree back (`Vacant.remove`). So there are only
three ways to go, and `Trace` lists the trees of each: nothing is created, the writing breaks off and
the old tree comes back, or the document ends up in its place.
-/

namespace BlitReel.Manifest

theorem plain_fileName : Path.Plain fileName := ⟨by decide, by decide, by decide, by decide⟩

theorem plain_framesDir : Path.Plain framesDir := ⟨by decide, by decide, by decide, by decide⟩

section Temporary

variable {unique : Octets} (clear : Path.slash ∉ unique)

theorem head?_temporaryName (unique : Octets) : (temporaryName unique).head? = some 0x2E := rfl

include clear in
theorem plain_temporaryName : Path.Plain (temporaryName unique) := by
  have second : (temporaryName unique)[1]? = some 0x6D := rfl
  refine ⟨?_, ?_, ?_, ?_⟩
  · intro h
    rw [h] at second
    cases second
  · intro h
    rw [h] at second
    exact absurd second (by decide)
  · intro h
    rw [h] at second
    exact absurd second (by decide)
  · rw [temporaryName, List.mem_append, List.mem_append]
    rintro ((mem | mem) | mem)
    · exact absurd mem (by decide)
    · exact clear mem
    · exact absurd mem (by decide)

theorem temporaryName_ne_fileName (unique : Octets) : temporaryName unique ≠ fileName := by
  intro h
  have first := head?_temporaryName unique
  rw [h] at first
  exact absurd first (by decide)

include clear in
theorem getLast?_components_beside (dir : Octets) :
    (Path.components (beside dir (temporaryName unique))).getLast? = some (temporaryName unique) := by
  have named := (plain_temporaryName clear).no_slash
  have last (front : Octets) : (Path.components (front ++ Path.slash :: temporaryName unique)).getLast? =
      some (temporaryName unique) := by
    rw [Path.components, Octets.splitOn_append_cons, Octets.splitOn_of_not_mem named]
    simp
  rw [beside]
  generalize (if dir.isEmpty then scratchDir else dir) = above
  split
  · rename_i slash
    rw [beq_iff_eq] at slash
    obtain ⟨front, whole⟩ := List.getLast?_eq_some_iff.1 slash
    rw [whole, List.append_assoc]
    exact last front
  · exact last _

end Temporary

/-- The same nodes at all locations. -/
structure SameNodes (t t' : FileTree) : Prop where
  home : t'.home = t.home
  nodes : ∀ loc, t'.get? loc = t.get? loc

theorem SameNodes.touches {t t' : FileTree} {links : Links} (h : SameNodes t t') (paths : Octets → Prop) :
    FileTree.Touches t t' paths links :=
  ⟨⟨h.home, fun loc => by rw [h.nodes loc]⟩, fun loc => Or.inl (h.nodes loc)⟩

/-- The tree with one file more, which holds what is written of a document. -/
def drafted (t : FileTree) (loc : Location) (content : Octets) : FileTree :=
  { t with entries := t.entries ++ [(loc, .file content false)] }

/-- A path leads to a location where nothing stands. -/
structure Vacant (t : FileTree) (path : Octets) (loc : Location) : Prop where
  resolved : t.resolve path = .ok loc
  nothing : t.get? loc = none

namespace Vacant

variable {t : FileTree} {temp : Octets} {loc : Location} (h : Vacant t temp loc)

include h

theorem not_given : FileTree.isGiven loc = false :=
  FileTree.not_given_of_get? (t := t) (by simp [h.nothing])

theorem absent : ∀ e ∈ t.entries, e.1 ≠ loc := by
  have nothing := h.nothing
  rw [FileTree.get?_of_not_given h.not_given, Option.map_eq_none_iff, List.find?_eq_none] at nothing
  simpa using nothing

theorem set_eq (content : Octets) : t.set loc (.file content false) = drafted t loc content := by
  have unlisted : t.entries.any (·.1 == loc) = false := by simpa using h.absent
  rw [FileTree.set, unlisted]
  rfl

theorem set_drafted (content content' : Octets) :
    (drafted t loc content).set loc (.file content' false) = drafted t loc content' := by
  have listed : (drafted t loc content).entries.any (·.1 == loc) = true := by simp [drafted]
  have others : (t.entries.map fun e => if e.1 == loc then (loc, FileNode.file content' false) else e) = t.entries := by
    conv_rhs => rw [← List.map_id t.entries]
    refine List.map_congr_left fun e mem => ?_
    simp [h.absent e mem]
  rw [FileTree.set, if_pos listed]
  simp only [drafted, List.map_append, others]
  simp

theorem erase_drafted (content : Octets) : (drafted t loc content).erase loc = t := by
  have others : t.entries.filter (·.1 != loc) = t.entries := by
    rw [List.filter_eq_self]
    simpa using h.absent
  simp [FileTree.erase, drafted, others]

theorem get?_drafted (content : Octets) (loc' : Location) :
    (drafted t loc content).get? loc' = if loc' = loc then some (.file content false) else t.get? loc' := by
  rw [← h.set_eq, FileTree.get?_set h.not_given]

theorem sameDirs (content : Octets) : FileTree.SameDirs t (drafted t loc content) := by
  refine ⟨rfl, fun loc' => ?_⟩
  rw [h.get?_drafted]
  split
  · rename_i same
    simp [same, h.nothing]
  · rfl

theorem resolve_drafted (content : Octets) : (drafted t loc content).resolve temp = .ok loc :=
  (h.sameDirs content).resolve_iff.2 h.resolved

/-- Writing the temporary file. -/
theorem put (content content' : Octets) : (drafted t loc content).put temp content' = .ok (drafted t loc content') := by
  simp only [FileTree.put, h.resolve_drafted, h.get?_drafted, ↓reduceIte, bind, Except.bind, pure, Except.pure,
    h.set_drafted]

/-- Taking the temporary file away gives the tree back. -/
theorem remove (content : Octets) : (drafted t loc content).remove temp = t := by
  simp only [FileTree.remove, h.resolve_drafted, h.erase_drafted]

/-- Moving the temporary file puts its content where the target leads to, unless that is a directory. -/
theorem rename {target content : Octets} (apart : t.resolve target ≠ .ok loc) {moved : FileTree} :
    (drafted t loc content).rename temp target = .ok moved ↔
      ∃ place, t.resolve target = .ok place ∧ t.get? place ≠ some .directory ∧
        moved = t.set place (.file content false) := by
  simp only [FileTree.rename, h.resolve_drafted, h.get?_drafted, ↓reduceIte, bind, Except.bind]
  cases aim : (drafted t loc content).resolve target with
  | error r =>
    simp only [reduceCtorEq, false_iff, not_exists, not_and]
    intro place aim'
    rw [(h.sameDirs content).resolve_iff.2 aim'] at aim
    cases aim
  | ok place =>
    have aim' := (h.sameDirs content).resolve_iff.1 aim
    have away : place ≠ loc := fun same => apart (same ▸ aim')
    simp only [if_neg away, h.erase_drafted, aim', Except.ok.injEq, exists_eq_left']
    by_cases dir : t.get? place = some .directory
    · simp [dir, throw, throwThe, MonadExceptOf.throw]
    · simp only [beq_iff_eq, dir, ↓reduceIte, pure, Except.pure, Except.ok.injEq, ne_eq, not_false_eq_true, true_and]
      exact eq_comm

theorem stat_eq : t.stat temp = .error .noEntry := by
  simp only [FileTree.stat, h.resolved, h.nothing, bind, Except.bind, throw, throwThe, MonadExceptOf.throw]

/-- Creating the temporary file. -/
theorem put_new : t.put temp [] = .ok (drafted t loc []) := by
  simp only [FileTree.put, h.resolved, h.nothing, bind, Except.bind, pure, Except.pure, h.set_eq]

end Vacant

section Storing

variable {refuse : Refusals} {unique : Octets} {t : FileTree} {dir document : Octets}

theorem createTemporary_eq_ok_iff {t' : FileTree} :
    createTemporary refuse unique t dir = .ok t' ↔ refuse .create = none ∧
      ∃ loc, Vacant t (beside dir (temporaryName unique)) loc ∧ t' = drafted t loc [] := by
  rw [createTemporary]
  constructor
  · intro h
    split at h
    · cases h
    · cases h
    rename_i granted stat
    refine ⟨granted, ?_⟩
    cases resolved : t.resolve (beside dir (temporaryName unique)) with
    | error r =>
      simp only [FileTree.put, resolved] at h
      cases h
    | ok loc =>
      have nothing : t.get? loc = none := by
        cases there : t.get? loc with
        | none => rfl
        | some n =>
          rw [FileTree.stat_eq_ok_iff.2 ⟨loc, resolved, there⟩] at stat
          cases stat
      have vacant : Vacant t (beside dir (temporaryName unique)) loc := ⟨resolved, nothing⟩
      rw [vacant.put_new] at h
      cases h
      exact ⟨loc, vacant, rfl⟩
  · rintro ⟨granted, loc, vacant, rfl⟩
    simp only [granted, vacant.stat_eq, vacant.put_new]
    rfl

/-- What is taken is a beginning. -/
theorem taken_eq_take (refuse : Refusals) (content : Octets) (place : Nat) :
    ∃ count, taken refuse content place = content.take count := by
  induction content generalizing place with
  | nil => exact ⟨0, rfl⟩
  | cons b rest ih =>
    rw [taken]
    split
    · exact ⟨0, rfl⟩
    · obtain ⟨count, eq⟩ := ih (place + 1)
      exact ⟨count + 1, by rw [eq, List.take_succ_cons]⟩

/-- A step of the writer; taking a single octet is none. -/
def Stage.IsStep : Stage → Prop
  | .octet _ => False
  | _ => True

/-- Nothing is in the way of a document: no step is refused, the name of the temporary file is free, and no
directory stands in the place of the document. -/
structure Feasible (refuse : Refusals) (unique : Octets) (t : FileTree) (dir : Octets) : Prop where
  granted : ∀ stage : Stage, stage.IsStep → refuse stage = none
  vacant : ∃ loc, Vacant t (beside dir (temporaryName unique)) loc
  place : ∃ place, t.resolve (Path.join [dir, fileName]) = .ok place ∧ t.get? place ≠ some .directory

theorem not_feasible {stage : Stage} {f : Failure} (refused : refuse stage = some f) (step : stage.IsStep) :
    ¬Feasible refuse unique t dir := by
  intro feasible
  rw [feasible.granted stage step] at refused
  cases refused

/-- The ways to store a document: it is not begun; it breaks off after so many octets, and the temporary file
is taken away; or it goes through. -/
inductive Trace (refuse : Refusals) (unique : Octets) (t : FileTree) (dir document : Octets) : Storing → Prop where
  | unbegun (f : Failure) (obstacle : ¬Feasible refuse unique t dir) :
      Trace refuse unique t dir document ⟨[t], .error f⟩
  | broken (loc : Location) (vacant : Vacant t (beside dir (temporaryName unique)) loc) (count : Nat) (f : Failure)
      (obstacle : ¬Feasible refuse unique t dir) :
      Trace refuse unique t dir document ⟨[t, drafted t loc (document.take count), drafted t loc [], t], .error f⟩
  | moved (loc : Location) (vacant : Vacant t (beside dir (temporaryName unique)) loc) (place : Location)
      (aim : t.resolve (Path.join [dir, fileName]) = .ok place) (free : t.get? place ≠ some .directory)
      (feasible : Feasible refuse unique t dir) :
      Trace refuse unique t dir document
        ⟨[t.set place (.file document false), drafted t loc document, drafted t loc [], t], .ok ()⟩

/-- The temporary file and the document have different names. -/
theorem Vacant.apart {loc : Location} (vacant : Vacant t (beside dir (temporaryName unique)) loc)
    (clear : Path.slash ∉ unique) : t.resolve (Path.join [dir, fileName]) ≠ .ok loc := fun same =>
  FileTree.resolve_apart (getLast?_components_beside clear dir) (plain_temporaryName clear)
    (Path.last_join dir plain_fileName) plain_fileName (temporaryName_ne_fileName unique)
    vacant.resolved vacant.not_given same rfl

theorem storeDocument_trace (refuse : Refusals) (clear : Path.slash ∉ unique) (t : FileTree) (dir document : Octets) :
    Trace refuse unique t dir document (storeDocument refuse unique t dir document) := by
  rw [storeDocument]
  cases created : createTemporary refuse unique t dir with
  | error f =>
    refine .unbegun _ fun feasible => ?_
    obtain ⟨loc, vacant⟩ := feasible.vacant
    rw [createTemporary_eq_ok_iff.2 ⟨feasible.granted .create trivial, loc, vacant, rfl⟩] at created
    cases created
  | ok t' =>
    obtain ⟨begun, loc, vacant, rfl⟩ := createTemporary_eq_ok_iff.1 created
    -- when a step behind the writing fails, the whole document is in the temporary file
    have broken (f : Failure) (obstacle : ¬Feasible refuse unique t dir) :
        Trace refuse unique t dir document ⟨[t, drafted t loc document, drafted t loc [], t], .error f⟩ := by
      have late : Trace refuse unique t dir document
          ⟨[t, drafted t loc (document.take document.length), drafted t loc [], t], .error f⟩ :=
        .broken loc vacant document.length f obstacle
      rwa [List.take_length] at late
    simp only [fillAndMove, vacant.put, List.headD_cons, vacant.remove]
    split
    · rename_i f refused
      obtain ⟨count, beginning⟩ := taken_eq_take refuse document 0
      rw [beginning]
      exact .broken loc vacant count _ (not_feasible refused trivial)
    rename_i written
    split
    · rename_i f refused
      exact broken _ (not_feasible refused trivial)
    · rename_i f _ refused
      exact broken _ (not_feasible refused trivial)
    · rename_i f _ _ refused
      exact broken _ (not_feasible refused trivial)
    rename_i closed permitted renamed
    split
    · rename_i r refused
      refine broken _ fun feasible => ?_
      obtain ⟨place, aim, free⟩ := feasible.place
      rw [(vacant.rename (vacant.apart clear)).2 ⟨place, aim, free, rfl⟩] at refused
      cases refused
    · rename_i tree moved
      obtain ⟨place, aim, free, rfl⟩ := (vacant.rename (vacant.apart clear)).1 moved
      refine .moved loc vacant place aim free ⟨fun stage step => ?_, ⟨loc, vacant⟩, place, aim, free⟩
      cases stage with
      | create => exact begun
      | write => exact written
      | octet place => exact step.elim
      | close => exact closed
      | permit => exact permitted
      | rename => exact renamed

/-- A document is stored exactly if nothing is in its way. -/
theorem storeDocument_eq_ok_iff (clear : Path.slash ∉ unique) :
    (storeDocument refuse unique t dir document).outcome = .ok () ↔ Feasible refuse unique t dir := by
  have trace := storeDocument_trace refuse clear t dir document
  generalize storeDocument refuse unique t dir document = s at trace ⊢
  cases trace with
  | unbegun f obstacle => simpa using obstacle
  | broken loc vacant count f obstacle => simpa using obstacle
  | moved loc vacant place aim free feasible => simpa using feasible

/-- A document is stored in its place and nothing else changes, or nothing changes at all. -/
theorem storeDocument_cases (refuse : Refusals) (clear : Path.slash ∉ unique) (t : FileTree)
    (dir document : Octets) :
    ((∃ f, (storeDocument refuse unique t dir document).outcome = .error f) ∧
        SameNodes t ((storeDocument refuse unique t dir document).final t)) ∨
      (storeDocument refuse unique t dir document).outcome = .ok () ∧
        ∃ place, t.resolve (Path.join [dir, fileName]) = .ok place ∧
          FileTree.Puts t ((storeDocument refuse unique t dir document).final t) place document := by
  have trace := storeDocument_trace refuse clear t dir document
  generalize storeDocument refuse unique t dir document = s at trace ⊢
  cases trace with
  | unbegun f => exact Or.inl ⟨⟨f, rfl⟩, rfl, fun _ => rfl⟩
  | broken loc vacant count f => exact Or.inl ⟨⟨f, rfl⟩, rfl, fun _ => rfl⟩
  | moved loc vacant place aim free => exact Or.inr ⟨rfl, place, aim, FileTree.Puts.of_set free false⟩

/-- A manifest is stored as its document and nothing else changes, or nothing changes at all. -/
theorem store_cases (refuse : Refusals) (clear : Path.slash ∉ unique) (t : FileTree) (dir : Octets) (m : Manifest) :
    ((∃ f, (store refuse unique t dir m).outcome = .error f) ∧
        SameNodes t ((store refuse unique t dir m).final t)) ∨
      (store refuse unique t dir m).outcome = .ok () ∧
        ∃ j place, m.toJson = .ok j ∧ t.resolve (Path.join [dir, fileName]) = .ok place ∧
          FileTree.Puts t ((store refuse unique t dir m).final t) place (Octets.ofString j.indented) := by
  rw [store]
  cases document : m.toJson with
  | error f => exact Or.inl ⟨⟨_, rfl⟩, rfl, fun _ => rfl⟩
  | ok j =>
    refine (storeDocument_cases refuse clear t dir (Octets.ofString j.indented)).imp_right ?_
    rintro ⟨outcome, place, aim, puts⟩
    exact ⟨outcome, j, place, rfl, aim, puts⟩

end Storing

end BlitReel.Manifest
