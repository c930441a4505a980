import Mathlib
import BlitReel.Files.FileTree
import BlitReel.Proofs.Files.Path

/-!
# What stands where in a file tree

A tree is described by what stands at every location. Resolving a path looks at directories only, so
it gives the same location in trees with the same directories (`SameDirs`). In a tree whose nodes all
stand in directories (`Closed`), directories that were added do not make an old node reachable.
-/

namespace BlitReel.FileTree

variable {t t' t'' : FileTree}

theorem get?_given {loc : Location} (h : isGiven loc = true) (t : FileTree) : t.get? loc = some .directory := by
  rw [get?, if_pos h]

theorem not_given_of_get? {loc : Location} (h : t.get? loc ≠ some .directory) : isGiven loc = false := by
  by_contra given
  exact h (get?_given (by simpa using given) t)

theorem get?_of_not_given {loc : Location} (h : isGiven loc = false) (t : FileTree) :
    t.get? loc = (t.entries.find? (·.1 == loc)).map (·.2) := by
  rw [get?, h]
  rfl

theorem find?_map_replace (entries : List (Location × FileNode)) (loc : Location) (n : FileNode) (loc' : Location) :
    (entries.map fun e => if e.1 == loc then (loc, n) else e).find? (·.1 == loc') =
      if loc' = loc then (entries.find? (·.1 == loc)).map fun _ => (loc, n) else entries.find? (·.1 == loc') := by
  induction entries with
  | nil => simp
  | cons e entries ih =>
    rw [List.map_cons, List.find?_cons, List.find?_cons, List.find?_cons, ih]
    by_cases here : e.1 = loc
    · have hit : (e.1 == loc) = true := by simpa using here
      by_cases same : loc' = loc
      · simp [hit, same]
      · have miss : (e.1 == loc') = false := by simpa [here] using fun h => same h.symm
        have miss' : (loc == loc') = false := by simpa using fun h => same h.symm
        simp [hit, same, miss, miss']
    · have miss : (e.1 == loc) = false := by simpa using here
      by_cases same : loc' = loc
      · simp only [miss, same, Bool.false_eq_true, ↓reduceIte]
      · simp only [miss, same, Bool.false_eq_true, ↓reduceIte]

/-- What stands at a location after a node was put somewhere. -/
theorem get?_set {loc : Location} (free : isGiven loc = false) (t : FileTree) (n : FileNode) (loc' : Location) :
    (t.set loc n).get? loc' = if loc' = loc then some n else t.get? loc' := by
  by_cases given : isGiven loc' = true
  · have ne : loc' ≠ loc := by
      rintro rfl
      rw [free] at given
      cases given
    rw [if_neg ne, get?_given given, get?_given given]
  rw [Bool.not_eq_true] at given
  rw [get?_of_not_given given, get?_of_not_given given, set]
  split
  · rename_i present
    obtain ⟨e, mem, he⟩ := List.any_eq_true.1 present
    have found : (t.entries.find? (·.1 == loc)).isSome = true := List.find?_isSome.2 ⟨e, mem, he⟩
    obtain ⟨x, hx⟩ := Option.isSome_iff_exists.1 found
    simp only [find?_map_replace]
    by_cases same : loc' = loc
    · simp [same, hx]
    · simp [same]
  · rename_i absent
    have none : t.entries.find? (·.1 == loc) = none := by
      rw [List.find?_eq_none]
      intro e he
      simpa using fun h => absent (List.any_eq_true.2 ⟨e, he, by simpa using h⟩)
    simp only [List.find?_append]
    by_cases same : loc' = loc
    · simp [same, none]
    · have : ¬ loc = loc' := fun h => same h.symm
      simp [same, this]

@[simp] theorem home_set (t : FileTree) (loc : Location) (n : FileNode) : (t.set loc n).home = t.home := by
  unfold set
  split <;> rfl

/-! Resolving paths. -/

/-- Following components needs directories on the way and nothing else. -/
theorem walk_mono (dirs : ∀ loc, t.get? loc = some .directory → t'.get? loc = some .directory)
    {cs : List Octets} {loc target : Location} (h : t.walk cs loc = .ok target) : t'.walk cs loc = .ok target := by
  induction cs generalizing loc with
  | nil => exact h
  | cons c cs ih =>
    rw [walk] at h ⊢
    split at h
    · cases h
    · cases h
    rename_i dir
    simp only [dirs loc dir]
    split at h <;> rename_i skip
    · rw [if_pos skip]
      exact ih h
    split at h <;> rename_i stepUp
    · rw [if_neg skip, if_pos stepUp]
      exact ih h
    split at h <;> rename_i long
    · cases h
    · rw [if_neg skip, if_neg stepUp, if_neg long]
      exact ih h

theorem walk_append (t : FileTree) (cs ds : List Octets) (loc : Location) :
    t.walk (cs ++ ds) loc = (t.walk cs loc).bind (t.walk ds) := by
  induction cs generalizing loc with
  | nil => rfl
  | cons c cs ih =>
    rw [List.cons_append, walk, walk]
    split
    · rfl
    · rfl
    split
    · exact ih loc
    split
    · exact ih _
    split
    · rfl
    · exact ih _

/-- A plain component is appended to the location of a directory. -/
theorem walk_plain {c : Octets} (plain : Path.Plain c) {loc target : Location} :
    t.walk [c] loc = .ok target ↔ t.get? loc = some .directory ∧ c.length ≤ maxName ∧ target = loc ++ [c] := by
  have skip : (c.isEmpty || c == Path.here) = false := by simp [plain.ne_nil, plain.ne_here]
  have notUp : (c == Path.up) = false := by simpa using plain.ne_up
  rw [walk]
  split <;> rename_i found
  · simp [found]
  · simp [found]
  simp only [skip, notUp, Bool.false_eq_true, ↓reduceIte, found, true_and]
  split <;> rename_i long
  · simp only [reduceCtorEq, false_iff, not_and]
    omega
  · simp only [walk, Except.ok.injEq]
    constructor
    · rintro rfl
      exact ⟨by omega, rfl⟩
    · exact fun h => h.2.symm

/-- Where a path is followed from, and over which components; this depends on its text only. -/
def route (home p : Octets) : Except Refusal (Location × List Octets) :=
  if p.isEmpty then .error .noEntry
  else if p.contains 0 then .error .invalid
  else if p.length > maxPath then .error .nameTooLong
  else if !home.isEmpty && (home ++ [Path.slash]).isPrefixOf p then
    .ok ([], Path.components (p.drop (home.length + 1)))
  else if p == home then .ok ([], [])
  else if Path.isRooted p then .ok ([[Path.slash]], Path.components p)
  else .ok ([], Path.components p)

theorem resolve_eq (t : FileTree) (p : Octets) :
    t.resolve p = (route t.home p).bind fun r => t.walk r.2 r.1 := by
  rw [resolve, route]
  repeat' split
  all_goals rfl

theorem resolve_eq_ok_iff {p : Octets} {loc : Location} :
    t.resolve p = .ok loc ↔ ∃ base cs, route t.home p = .ok (base, cs) ∧ t.walk cs base = .ok loc := by
  rw [resolve_eq]
  cases route t.home p with
  | error r => simp [Except.bind]
  | ok r => simp [Except.bind, Prod.ext_iff]

/-- A path is followed from a place that is always there, over the last of its components. -/
theorem route_spec {home p : Octets} {base : Location} {cs : List Octets} (h : route home p = .ok (base, cs)) :
    isGiven base = true ∧ (cs = [] ∨ cs ≠ [] ∧ cs <:+ Path.components p) := by
  have start : isGiven [] = true := rfl
  have root : isGiven [[Path.slash]] = true := by decide
  rw [route] at h
  split at h
  · cases h
  split at h
  · cases h
  split at h
  · cases h
  split at h
  · rename_i below
    cases h
    simp only [Bool.and_eq_true, List.isPrefixOf_iff_prefix] at below
    obtain ⟨rest, rfl⟩ := below.2
    have split := Octets.splitOn_append_cons Path.slash home rest
    have dropped : (home ++ [Path.slash] ++ rest).drop (home.length + 1) = rest := by simp
    refine ⟨start, Or.inr ⟨Octets.splitOn_ne_nil _ _, Path.components home, ?_⟩⟩
    rw [dropped, List.append_assoc]
    exact split.symm
  split at h
  · cases h
    exact ⟨start, Or.inl rfl⟩
  split at h
  · cases h
    exact ⟨root, Or.inr ⟨Octets.splitOn_ne_nil _ _, List.suffix_refl _⟩⟩
  · cases h
    exact ⟨start, Or.inr ⟨Octets.splitOn_ne_nil _ _, List.suffix_refl _⟩⟩

theorem resolve_mono (home : t'.home = t.home)
    (dirs : ∀ loc, t.get? loc = some .directory → t'.get? loc = some .directory) {p : Octets} {loc : Location}
    (h : t.resolve p = .ok loc) : t'.resolve p = .ok loc := by
  obtain ⟨base, cs, way, walked⟩ := resolve_eq_ok_iff.1 h
  exact resolve_eq_ok_iff.2 ⟨base, cs, home ▸ way, walk_mono dirs walked⟩

/-- What is not always there and has a plain last component lies under that name in a directory. -/
theorem resolve_named {p name : Octets} {loc : Location} (last : (Path.components p).getLast? = some name)
    (plain : Path.Plain name) (h : t.resolve p = .ok loc) (free : isGiven loc = false) :
    ∃ base, t.get? base = some .directory ∧ loc = base ++ [name] := by
  obtain ⟨base, cs, way, walked⟩ := resolve_eq_ok_iff.1 h
  obtain ⟨given, rfl | ⟨ne, front, suffix⟩⟩ := route_spec way
  · rw [walk, Except.ok.injEq] at walked
    rw [← walked, given] at free
    cases free
  · rw [← suffix, List.getLast?_append_of_ne_nil _ ne] at last
    obtain ⟨ds, rfl⟩ := List.getLast?_eq_some_iff.1 last
    rw [walk_append] at walked
    cases there : t.walk ds base with
    | error r => simp [there, Except.bind] at walked
    | ok above =>
      rw [there] at walked
      obtain ⟨dir, -, rfl⟩ := (walk_plain plain).1 walked
      exact ⟨above, dir, rfl⟩

/-- The same working directory and the same directories. -/
structure SameDirs (t t' : FileTree) : Prop where
  home : t'.home = t.home
  dirs : ∀ loc, t'.get? loc = some .directory ↔ t.get? loc = some .directory

namespace SameDirs

theorem refl (t : FileTree) : SameDirs t t := ⟨rfl, fun _ => Iff.rfl⟩

theorem trans (h : SameDirs t t') (h' : SameDirs t' t'') : SameDirs t t'' :=
  ⟨h'.home.trans h.home, fun loc => (h'.dirs loc).trans (h.dirs loc)⟩

theorem resolve_iff (h : SameDirs t t') {p : Octets} {loc : Location} :
    t'.resolve p = .ok loc ↔ t.resolve p = .ok loc :=
  ⟨resolve_mono h.home.symm fun loc => (h.dirs loc).1, resolve_mono h.home fun loc => (h.dirs loc).2⟩

end SameDirs

theorem stat_eq_ok_iff {p : Octets} {n : FileNode} :
    t.stat p = .ok n ↔ ∃ loc, t.resolve p = .ok loc ∧ t.get? loc = some n := by
  rw [stat]
  cases resolved : t.resolve p with
  | error r => simp [bind, Except.bind]
  | ok loc =>
    simp only [bind, Except.bind, Except.ok.injEq, exists_eq_left']
    cases t.get? loc with
    | none => simp [throw, throwThe, MonadExceptOf.throw]
    | some m => simp [pure, Except.pure]

theorem content_eq_ok_iff {p data : Octets} :
    t.content p = .ok data ↔ ∃ loc x, t.resolve p = .ok loc ∧ t.get? loc = some (.file data x) := by
  rw [content]
  cases found : t.stat p with
  | error r =>
    simp only [reduceCtorEq, false_iff, not_exists, not_and]
    intro loc x resolved there
    rw [stat_eq_ok_iff.2 ⟨loc, resolved, there⟩] at found
    cases found
  | ok n =>
    obtain ⟨loc, resolved, there⟩ := stat_eq_ok_iff.1 found
    cases n with
    | directory =>
      simp only [reduceCtorEq, false_iff, not_exists, not_and]
      intro loc' x resolved' there'
      obtain rfl : loc = loc' := by simpa [resolved] using resolved'
      simp [there] at there'
    | file data' x =>
      simp only [Except.ok.injEq]
      constructor
      · rintro rfl
        exact ⟨loc, x, resolved, there⟩
      · rintro ⟨loc', x', resolved', there'⟩
        obtain rfl : loc = loc' := by simpa [resolved] using resolved'
        simp_all

/-- A path reads as before, if what it leads to is as before. -/
theorem SameDirs.content_iff (h : SameDirs t t') {p data : Octets}
    (same : ∀ loc, t.resolve p = .ok loc → t'.get? loc = t.get? loc) :
    t'.content p = .ok data ↔ t.content p = .ok data := by
  rw [content_eq_ok_iff, content_eq_ok_iff]
  refine exists_congr fun loc => exists_congr fun executable => ?_
  rw [h.resolve_iff]
  exact and_congr_right fun resolved => by rw [same loc resolved]

/-- Paths with different plain last components lead to different places. -/
theorem resolve_apart {p q name name' : Octets} {loc loc' : Location} (last : (Path.components p).getLast? = some name)
    (plain : Path.Plain name) (last' : (Path.components q).getLast? = some name') (plain' : Path.Plain name')
    (ne : name ≠ name') (h : t.resolve p = .ok loc) (free : isGiven loc = false) (h' : t'.resolve q = .ok loc') :
    loc ≠ loc' := by
  rintro rfl
  obtain ⟨above, -, named⟩ := resolve_named last plain h free
  obtain ⟨above', -, named'⟩ := resolve_named last' plain' h' free
  rw [named] at named'
  exact ne (by simpa using (List.append_inj' named' (by simp)).2)

/-! Trees without loose nodes. -/

/-- Every node stands in a directory. -/
def Closed (t : FileTree) : Prop := ∀ loc name, t.get? (loc ++ [name]) ≠ none → t.get? loc = some .directory

theorem isGiven_of_append {loc : Location} {name : Octets} (h : isGiven (loc ++ [name]) = true) :
    isGiven loc = true := by
  simp only [isGiven, List.all_append, Bool.or_eq_true, Bool.and_eq_true, beq_iff_eq] at h ⊢
  rcases h with ⟨ups, -⟩ | root
  · exact Or.inl ups
  · obtain rfl : loc = [] := by
      have := congrArg List.length root
      simpa using this
    exact Or.inl rfl

/-- A tree is closed if each of its entries stands in a directory. -/
theorem closed_of_entries (h : ∀ e ∈ t.entries, t.get? e.1.dropLast = some .directory) : t.Closed := by
  intro loc name there
  cases given : isGiven (loc ++ [name]) with
  | true => exact get?_given (isGiven_of_append given) t
  | false =>
    rw [get?_of_not_given given, ne_eq, Option.map_eq_none_iff, List.find?_eq_none] at there
    push Not at there
    obtain ⟨e, mem, same⟩ := there
    have dir := h e mem
    rwa [beq_iff_eq.1 same, List.dropLast_concat] at dir

/-- Something stands at the location, or it is next to a directory's content. -/
def Hangs (t : FileTree) (loc : Location) : Prop :=
  t.get? loc ≠ none ∨ ∃ above name, loc = above ++ [name] ∧ t.get? above = some .directory

theorem isGiven_parent {loc : Location} (h : isGiven loc = true) : isGiven (parent loc) = true := by
  rw [parent, if_pos h]
  split
  · exact h
  · rename_i notRoot
    rw [isGiven, Bool.or_eq_true] at h
    have ups := h.resolve_right notRoot
    simp only [isGiven, Bool.or_eq_true]
    exact Or.inl (by simpa using ups)

theorem Closed.parent (closed : t.Closed) {loc : Location} (dir : t.get? loc = some .directory) :
    t.get? (parent loc) = some .directory := by
  by_cases given : isGiven loc = true
  · exact get?_given (isGiven_parent given) t
  · rw [FileTree.parent, if_neg given]
    obtain rfl | ⟨above, name, rfl⟩ := List.eq_nil_or_concat' loc
    · exact absurd rfl given
    · rw [List.dropLast_concat]
      exact closed above name (by simp [dir])

/-- Following components in a closed tree never leaves what hangs in it. -/
theorem Closed.walk_hangs (closed : t.Closed) {cs : List Octets} {base loc : Location} (start : t.Hangs base)
    (h : t.walk cs base = .ok loc) : t.Hangs loc := by
  induction cs generalizing base with
  | nil =>
    cases h
    exact start
  | cons c cs ih =>
    rw [walk] at h
    split at h
    · cases h
    · cases h
    rename_i dir
    split at h
    · exact ih start h
    split at h
    · exact ih (Or.inl (by simp [closed.parent dir])) h
    split at h
    · cases h
    · exact ih (Or.inr ⟨base, c, rfl, dir⟩) h

/-- Where a path leads in a closed tree there is a directory above, unless the place is always there. -/
theorem Closed.above (closed : t.Closed) {p : Octets} {above : Location} {name : Octets}
    (h : t.resolve p = .ok (above ++ [name])) : t.get? above = some .directory := by
  obtain ⟨base, cs, way, walked⟩ := resolve_eq_ok_iff.1 h
  have start : t.Hangs base := Or.inl (by simp [get?_given (route_spec way).1])
  rcases closed.walk_hangs start walked with there | ⟨above', name', split, dir⟩
  · exact closed above name there
  · rw [(List.append_inj' split rfl).1]
    exact dir

/-- Components that stay or step up, and then plain ones. -/
def Straight (cs : List Octets) : Prop :=
  ∃ pre names, cs = pre ++ names ∧ (∀ c ∈ pre, c = [] ∨ c = Path.here ∨ c = Path.up) ∧ ∀ c ∈ names, Path.Plain c

theorem Straight.of_suffix {cs ds : List Octets} (h : Straight cs) (suffix : ds <:+ cs) : Straight ds := by
  obtain ⟨pre, names, rfl, stays, plain⟩ := h
  obtain ⟨front, split⟩ := suffix
  rcases List.append_eq_append_iff.1 split with ⟨pre', rfl, rfl⟩ | ⟨cut, rfl, rfl⟩
  · exact ⟨pre', names, rfl, fun c hc => stays c (by simp [hc]), plain⟩
  · exact ⟨[], ds, rfl, by simp, fun c hc => plain c (by simp [hc])⟩

theorem Straight.of_normal {rooted : Bool} {cs : List Octets} (h : Path.Normal rooted cs) (ne : cs ≠ []) :
    Straight (Path.components (Path.render rooted cs)) := by
  rw [Path.components_render h ne]
  obtain ⟨k, names, rfl, plain, -⟩ := h
  cases rooted with
  | true =>
    refine ⟨[] :: List.replicate k Path.up, names, by simp, ?_, plain⟩
    rintro c (_ | ⟨_, hc⟩)
    · exact Or.inl rfl
    · exact Or.inr (Or.inr (List.eq_of_mem_replicate hc))
  | false =>
    exact ⟨List.replicate k Path.up, names, by simp, fun c hc => Or.inr (Or.inr (List.eq_of_mem_replicate hc)), plain⟩

theorem straight_join {p name : Octets} (ne : p ≠ []) (plain : Path.Plain name) :
    Straight (Path.components (Path.join [p, name])) := by
  have one : ∀ c ∈ [name], Path.Plain c := by simpa using plain
  rw [Path.join_eq ne one]
  exact Straight.of_normal ((Path.normal_parts p).append one) (by simp)

/-- Staying and stepping up leads from what is always there to what is always there, in every tree. -/
theorem walk_given {pre : List Octets} (stays : ∀ c ∈ pre, c = [] ∨ c = Path.here ∨ c = Path.up) {base : Location}
    (given : isGiven base = true) : ∃ target, isGiven target = true ∧ ∀ t : FileTree, t.walk pre base = .ok target := by
  induction pre generalizing base with
  | nil => exact ⟨base, given, fun _ => rfl⟩
  | cons c pre ih =>
    have rest : ∀ d ∈ pre, d = [] ∨ d = Path.here ∨ d = Path.up := fun d hd => stays d (by simp [hd])
    by_cases skip : (c.isEmpty || c == Path.here) = true
    · obtain ⟨target, there, walked⟩ := ih rest given
      refine ⟨target, there, fun t => ?_⟩
      simp only [walk, get?_given given, skip, ↓reduceIte, walked]
    · have stepUp : c = Path.up := by
        rcases stays c (by simp) with rfl | rfl | rfl
        · exact absurd rfl skip
        · exact absurd (by decide) skip
        · rfl
      obtain ⟨target, there, walked⟩ := ih rest (isGiven_parent given)
      refine ⟨target, there, fun t => ?_⟩
      rw [walk, get?_given given]
      dsimp only
      rw [if_neg skip, if_pos (by simp [stepUp]), walked]

/-- What stands in a closed tree is reached there, if it is reached after directories were added. -/
theorem walk_of_closed (closed : t.Closed) {cs : List Octets} (straight : Straight cs) {base loc : Location}
    (given : isGiven base = true) (there : t.get? loc ≠ none) (h : t'.walk cs base = .ok loc) :
    t.walk cs base = .ok loc := by
  obtain ⟨pre, names, rfl, stays, plain⟩ := straight
  obtain ⟨start, -, walked⟩ := walk_given stays given
  rw [walk_append, walked] at h ⊢
  change t'.walk names start = .ok loc at h
  change t.walk names start = .ok loc
  -- from the last name to the first: each directory on the way holds something
  induction names using List.reverseRecOn generalizing loc with
  | nil => exact h
  | append_singleton names name ih =>
    rw [walk_append] at h ⊢
    cases above : t'.walk names start with
    | error r => simp [above, Except.bind] at h
    | ok mid =>
      rw [above] at h
      have namePlain := plain name (by simp)
      obtain ⟨-, short, rfl⟩ := (walk_plain namePlain).1 h
      have dir := closed mid name there
      have reached := ih (by simp [dir]) (fun c hc => plain c (by simp [hc])) above
      rw [reached]
      exact (walk_plain namePlain).2 ⟨dir, short, rfl⟩

theorem resolve_of_closed (closed : t.Closed) (home : t'.home = t.home) {p : Octets}
    (straight : Straight (Path.components p)) {loc : Location} (there : t.get? loc ≠ none)
    (h : t'.resolve p = .ok loc) : t.resolve p = .ok loc := by
  obtain ⟨base, cs, way, walked⟩ := resolve_eq_ok_iff.1 h
  refine resolve_eq_ok_iff.2 ⟨base, cs, home ▸ way, ?_⟩
  obtain ⟨given, rfl | ⟨-, suffix⟩⟩ := route_spec way
  · exact walked
  · exact walk_of_closed closed (straight.of_suffix suffix) given there walked

end BlitReel.FileTree
