import Mathlib
import BlitReel.Proofs.Files.FileTree

/-!
# Where cleaned paths lead

The system follows a path component by component, and cleaning takes components away without looking at
the tree. Where a path leads anywhere, its cleaned parts lead there as well (`walk_parts`): a name that
a step up takes away was a directory. So names joined to a path lead where following them from the
place of that path leads (`Direct`), unless the text of the working directory comes in between.
-/

namespace BlitReel.FileTree

variable {t : FileTree}

/-- A plain name below a location is not always there. -/
theorem isGiven_append_plain {loc : Location} {name : Octets} (plain : Path.Plain name) :
    isGiven (loc ++ [name]) = false := by
  have notUp : (name == Path.up) = false := by simpa using plain.ne_up
  have notRoot : loc ++ [name] ≠ [[Path.slash]] := by
    intro same
    have last := congrArg List.getLast? same
    simp only [List.getLast?_append, List.getLast?_singleton, Option.some_or, Option.some.injEq] at last
    exact plain.no_slash (by simp [last])
  simp [isGiven, notUp, notRoot]

theorem parent_append_plain {loc : Location} {name : Octets} (plain : Path.Plain name) :
    parent (loc ++ [name]) = loc := by
  rw [parent, if_neg (by simp [isGiven_append_plain plain]), List.dropLast_concat]

/-- Where a path starts: at the root or in the working directory. -/
def origin (rooted : Bool) : Location := if rooted then [[Path.slash]] else []

theorem parent_origin (rooted : Bool) : parent (origin rooted) = if rooted then origin true else [Path.up] := by
  cases rooted <;> decide

/-- Following components is following one part of them and then the other. -/
theorem walk_append_eq_ok_iff {cs ds : List Octets} {base loc : Location} :
    t.walk (cs ++ ds) base = .ok loc ↔ ∃ mid, t.walk cs base = .ok mid ∧ t.walk ds mid = .ok loc := by
  rw [walk_append]
  cases t.walk cs base with
  | error r => simp [Except.bind]
  | ok mid => simp [Except.bind]

theorem walk_stay {c : Octets} (stays : (c.isEmpty || c == Path.here) = true) {mid loc : Location}
    (h : t.walk [c] mid = .ok loc) : loc = mid := by
  rw [walk] at h
  split at h
  · cases h
  · cases h
  rw [if_pos stays] at h
  cases h
  rfl

theorem walk_up {mid loc : Location} : t.walk [Path.up] mid = .ok loc ↔
    t.get? mid = some .directory ∧ loc = parent mid := by
  rw [walk]
  split <;> rename_i found
  · simp [found]
  · simp [found]
  · have skip : (Path.up.isEmpty || Path.up == Path.here) = false := by decide
    simp only [skip, Bool.false_eq_true, ↓reduceIte, beq_self_eq_true, walk, Except.ok.injEq, found, true_and]
    exact eq_comm

/-- Cleaning in one more component leads where following it leads; what has been cleaned is kept in reverse. -/
theorem walk_cleanStep {rooted : Bool} {done : List Octets} (normal : Path.Normal rooted done.reverse) {c : Octets}
    {mid loc : Location} (before : t.walk done.reverse (origin rooted) = .ok mid)
    (h : t.walk [c] mid = .ok loc) : t.walk (Path.cleanStep rooted done c).reverse (origin rooted) = .ok loc := by
  unfold Path.cleanStep
  split
  · rename_i stays
    rw [walk_stay stays h]
    exact before
  rename_i named
  split
  · rename_i isUp
    rw [beq_iff_eq] at isUp
    subst isUp
    obtain ⟨dir, rfl⟩ := walk_up.1 h
    cases done with
    | nil =>
      cases before
      rw [parent_origin]
      cases rooted with
      | true => rfl
      | false => exact walk_up.2 ⟨dir, rfl⟩
    | cons last rest =>
      rw [List.reverse_cons] at before normal
      dsimp only
      split
      · rw [List.reverse_cons, List.reverse_cons]
        exact walk_append_eq_ok_iff.2 ⟨mid, before, h⟩
      · -- the name that the step up takes away was a directory, in the place that is left
        rename_i notUp
        have plain := normal.plain_of_ne_up (by simpa using notUp)
        obtain ⟨above, there, down⟩ := walk_append_eq_ok_iff.1 before
        obtain ⟨-, -, rfl⟩ := (walk_plain plain).1 down
        rw [parent_append_plain plain]
        exact there
  · rw [List.reverse_cons]
    exact walk_append_eq_ok_iff.2 ⟨mid, before, h⟩

theorem walk_foldl_cleanStep {rooted : Bool} {cs : List Octets} (clear : ∀ c ∈ cs, Path.slash ∉ c)
    {done : List Octets} (normal : Path.Normal rooted done.reverse) {mid loc : Location}
    (before : t.walk done.reverse (origin rooted) = .ok mid) (h : t.walk cs mid = .ok loc) :
    t.walk (cs.foldl (Path.cleanStep rooted) done).reverse (origin rooted) = .ok loc := by
  induction cs generalizing done mid with
  | nil =>
    cases h
    exact before
  | cons c cs ih =>
    have clearHere := clear c List.mem_cons_self
    obtain ⟨next, first, rest⟩ := walk_append_eq_ok_iff.1 (show t.walk ([c] ++ cs) mid = .ok loc from h)
    exact ih (fun d mem => clear d (List.mem_cons_of_mem c mem)) (Path.normal_cleanStep normal clearHere)
      (walk_cleanStep normal before first) rest

/-- Where the components of a path lead, its parts lead as well. -/
theorem walk_parts {p : Octets} {loc : Location}
    (h : t.walk (Path.components p) (origin (Path.isRooted p)) = .ok loc) :
    t.walk (Path.parts p) (origin (Path.isRooted p)) = .ok loc :=
  walk_foldl_cleanStep (fun _ mem => Octets.not_mem_of_mem_splitOn mem) ⟨0, [], rfl, by simp, by simp⟩ rfl h

/-- A rendered path leads where its parts lead. -/
theorem walk_render {rooted : Bool} {cs : List Octets} (normal : Path.Normal rooted cs) {loc : Location} :
    t.walk (Path.components (Path.render rooted cs)) (origin rooted) = .ok loc ↔ t.walk cs (origin rooted) = .ok loc := by
  constructor
  · have parts := @walk_parts t (Path.render rooted cs) loc
    rw [Path.isRooted_render normal, Path.parts_render normal] at parts
    exact parts
  · intro walked
    have start : t.get? (origin rooted) = some .directory := get?_given (by cases rooted <;> decide) t
    rcases eq_or_ne cs [] with rfl | ne
    · have stays : t.walk (Path.components (Path.render rooted [])) (origin rooted) = .ok (origin rooted) := by
        cases rooted <;> simp [Path.render, Path.joinComponents, Path.components, Octets.splitOn, walk, start, Path.slash,
          Path.here]
      rw [stays]
      exact walked
    · rw [Path.components_render normal ne]
      cases rooted with
      | true =>
        simp only [↓reduceIte, walk, start, List.isEmpty_nil, Bool.true_or]
        exact walked
      | false => exact walked

/-- Joining names to a path cleans the text of the whole, so it may leave out a detour that the path itself
takes. A path is direct when that makes no difference: names joined to it lead where following them
from the place of the path leads, and where they lead anywhere, so does the cleaned path. -/
structure Direct (t : FileTree) (p : Octets) : Prop where
  down : ∀ loc names target, t.resolve p = .ok loc → (∀ c ∈ names, Path.Plain c) →
    t.resolve (Path.join (p :: names)) = .ok target → t.walk names loc = .ok target
  up : ∀ names target, p ≠ [] → (∀ c ∈ names, Path.Plain c) → t.resolve (Path.join (p :: names)) = .ok target →
    ∃ loc, t.resolve (Path.clean p) = .ok loc ∧ t.walk names loc = .ok target

/-- The text of the working directory is no part of a path that starts where it does not. -/
def Unaliased (home p : Octets) : Prop := home = [] ∨ Path.isRooted home = true ∧ Path.isRooted p = false

theorem Unaliased.not_below {home p : Octets} (free : Unaliased home p) :
    (!home.isEmpty && (home ++ [Path.slash]).isPrefixOf p) = false := by
  rcases free with rfl | ⟨root, relative⟩
  · rfl
  · by_contra below
    simp only [Bool.not_eq_false, Bool.and_eq_true, Bool.not_eq_true', List.isEmpty_eq_false_iff,
      List.isPrefixOf_iff_prefix] at below
    obtain ⟨inside, rest, rfl⟩ := below
    rw [List.append_assoc, Path.isRooted, List.head?_append_of_ne_nil _ inside, ← Path.isRooted, root] at relative
    cases relative

/-- How a path is followed that the text of the working directory has no part in. -/
theorem route_unaliased {home p : Octets} (free : Unaliased home p) {r : Location × List Octets} :
    route home p = .ok r ↔ p ≠ [] ∧ 0 ∉ p ∧ p.length ≤ maxPath ∧ r = (origin (Path.isRooted p), Path.components p) := by
  unfold route
  rw [free.not_below]
  split
  · simp_all
  rename_i given
  have ne : p ≠ [] := by simpa using given
  have away : (p == home) = false := by
    rw [beq_eq_false_iff_ne]
    rintro rfl
    rcases free with rfl | ⟨root, relative⟩
    · exact ne rfl
    · rw [root] at relative
      cases relative
  split
  · simp_all
  rename_i clear
  split
  · simp only [reduceCtorEq, false_iff, not_and]
    omega
  rename_i short
  simp only [Bool.false_eq_true, ↓reduceIte, away]
  have whole : p ≠ [] ∧ 0 ∉ p ∧ p.length ≤ maxPath := ⟨ne, by simpa using clear, by omega⟩
  cases root : Path.isRooted p with
  | true => simpa [whole, origin] using eq_comm
  | false => simpa [whole, origin] using eq_comm

theorem resolve_unaliased {p : Octets} (free : Unaliased t.home p) {loc : Location} : t.resolve p = .ok loc ↔
    (p ≠ [] ∧ 0 ∉ p ∧ p.length ≤ maxPath) ∧ t.walk (Path.components p) (origin (Path.isRooted p)) = .ok loc := by
  rw [resolve_eq_ok_iff]
  constructor
  · rintro ⟨base, cs, way, walked⟩
    obtain ⟨ne, clear, short, same⟩ := (route_unaliased free).1 way
    cases same
    exact ⟨⟨ne, clear, short⟩, walked⟩
  · rintro ⟨⟨ne, clear, short⟩, walked⟩
    exact ⟨_, _, (route_unaliased free).2 ⟨ne, clear, short, rfl⟩, walked⟩

/-- Nothing leads elsewhere unless the text of the working directory does. -/
theorem direct_of_unaliased {p : Octets} (free : Unaliased t.home p) : t.Direct p := by
  have rooted {q : Octets} (same : Path.isRooted q = Path.isRooted p) : Unaliased t.home q := by
    unfold Unaliased
    rw [same]
    exact free
  -- what names behind the path lead to, they lead to behind its parts
  have behind {names : List Octets} {target : Location} (ne : p ≠ []) (plain : ∀ c ∈ names, Path.Plain c)
      (joined : t.resolve (Path.join (p :: names)) = .ok target) :
      ∃ loc, t.walk (Path.parts p) (origin (Path.isRooted p)) = .ok loc ∧ t.walk names loc = .ok target := by
    have same := Path.isRooted_join ne plain
    have walked := ((resolve_unaliased (rooted same)).1 joined).2
    rw [same, Path.join_eq ne plain] at walked
    exact walk_append_eq_ok_iff.1 ((walk_render ((Path.normal_parts p).append plain)).1 walked)
  constructor
  · intro loc names target resolved plain joined
    obtain ⟨⟨ne, -⟩, walked⟩ := (resolve_unaliased free).1 resolved
    obtain ⟨mid, front, rest⟩ := behind ne plain joined
    rw [walk_parts walked] at front
    cases front
    exact rest
  · intro names target ne plain joined
    obtain ⟨loc, front, rest⟩ := behind ne plain joined
    have normal := Path.normal_parts p
    have same : Path.isRooted (Path.clean p) = Path.isRooted p := Path.isRooted_render normal
    refine ⟨loc, (resolve_unaliased (rooted same)).2 ⟨?_, ?_⟩, rest⟩
    · obtain ⟨⟨-, clear, short⟩, -⟩ := (resolve_unaliased (rooted (Path.isRooted_join ne plain))).1 joined
      rw [Path.join_eq ne plain] at clear short
      refine ⟨Path.render_ne_nil _ _, ?_⟩
      rw [Path.clean_eq]
      rcases eq_or_ne (Path.parts p) [] with none | named
      · rw [none]
        cases Path.isRooted p <;> decide
      · have front := Path.render_prefix (Path.isRooted p) named normal.ne_nil names
        exact ⟨fun mem => clear (front.subset mem), front.length_le.trans short⟩
    · rw [same, Path.clean_eq]
      exact (walk_render normal).2 front

end BlitReel.FileTree
