import Mathlib
import BlitReel.Proofs.Files.FileTree
import BlitReel.Proofs.Files.Links

/-!
# What file operations change

Each operation is described by what stands at every location before and after it. A file that is put
leaves all else as it was (`Puts`), a series of writes changes the files at certain paths only, under all
their names (`Touches`), and making directories only fills empty locations that lead to the directory wanted
(`Grows`).
-/

namespace BlitReel.FileTree

variable {t t' t'' : FileTree}

/-- A file of that content now stands where no directory stood, and nothing else has changed. -/
structure Puts (t t' : FileTree) (loc : Location) (content : Octets) : Prop where
  home : t'.home = t.home
  notDir : t.get? loc ≠ some .directory
  stored : ∃ executable, t'.get? loc = some (.file content executable)
  others : ∀ loc', loc' ≠ loc → t'.get? loc' = t.get? loc'

namespace Puts

variable {loc : Location} {content : Octets}

theorem of_set (free : t.get? loc ≠ some .directory) (executable : Bool) :
    Puts t (t.set loc (.file content executable)) loc content := by
  have notGiven := not_given_of_get? free
  refine ⟨home_set .., free, ⟨executable, ?_⟩, fun loc' ne => ?_⟩
  · rw [get?_set notGiven, if_pos rfl]
  · rw [get?_set notGiven, if_neg ne]

theorem sameDirs (h : Puts t t' loc content) : SameDirs t t' := by
  refine ⟨h.home, fun loc' => ?_⟩
  by_cases same : loc' = loc
  · obtain ⟨x, stored⟩ := h.stored
    subst same
    simp [stored, h.notDir]
  · rw [h.others loc' same]

theorem content_eq (h : Puts t t' loc content) {p : Octets} (resolved : t.resolve p = .ok loc) :
    t'.content p = .ok content := by
  obtain ⟨x, stored⟩ := h.stored
  exact content_eq_ok_iff.2 ⟨loc, x, h.sameDirs.resolve_iff.2 resolved, stored⟩

end Puts

theorem put_eq_ok {p content : Octets} (h : t.put p content = .ok t') :
    ∃ loc, t.resolve p = .ok loc ∧ Puts t t' loc content := by
  rw [put] at h
  cases resolved : t.resolve p with
  | error r =>
    rw [resolved] at h
    cases h
  | ok loc =>
    simp only [resolved, bind, Except.bind] at h
    refine ⟨loc, rfl, ?_⟩
    split at h <;> rename_i there
    · cases h
    · cases h
      exact Puts.of_set (by simp [there]) _
    · cases h
      exact Puts.of_set (by simp [there]) _

theorem put_ok {p : Octets} {loc : Location} (resolved : t.resolve p = .ok loc)
    (free : t.get? loc ≠ some .directory) (content : Octets) : ∃ t', t.put p content = .ok t' := by
  simp only [put, resolved, bind, Except.bind]
  split
  · rename_i dir
    exact absurd dir free
  · exact ⟨_, rfl⟩
  · exact ⟨_, rfl⟩

/-- What a write leaves in the file that it opens; nothing when it opens none. -/
def kept? (t : FileTree) (p content : Octets) (fault? : Option WriteFault) : Option Octets :=
  match t.put p [], fault? with
  | .error _, _ => none
  | .ok _, none => some content
  | .ok _, some (.unopened _) => none
  | .ok _, some (.after count _) => some (content.take count)

theorem write_of_kept?_eq_none {p content : Octets} {fault? : Option WriteFault}
    (h : t.kept? p content fault? = none) (links : Links := {}) :
    ∃ f, t.write p content fault? links = (t, .error f) := by
  have refused (kept : Octets) (r : Refusal) (put : t.put p [] = .error r) : ∃ r, t.put p kept = .error r := by
    cases put' : t.put p kept with
    | error r => exact ⟨r, rfl⟩
    | ok t' =>
      obtain ⟨loc, resolved, puts⟩ := put_eq_ok put'
      obtain ⟨_, again⟩ := put_ok resolved puts.notDir []
      rw [again] at put
      cases put
  cases put : t.put p [] with
  | error r =>
    match fault? with
    | none =>
      obtain ⟨r', put'⟩ := refused content r put
      exact ⟨r'.on "open" p, by simp [write, put']⟩
    | some (.unopened f) => exact ⟨f, rfl⟩
    | some (.after count f) =>
      obtain ⟨r', put'⟩ := refused (content.take count) r put
      exact ⟨r'.on "open" p, by simp [write, put']⟩
  | ok t' =>
    unfold kept? at h
    rw [put] at h
    match fault? with
    | none => cases h
    | some (.unopened f) => exact ⟨f, rfl⟩
    | some (.after count f) => cases h

/-- A write that opens its file puts there what it keeps, for all names of the file; that is all of it when the
write succeeds. -/
theorem write_shares {p content kept : Octets} {fault? : Option WriteFault} (links : Links)
    (h : t.kept? p content fault? = some kept) :
    ∃ loc u, t.resolve p = .ok loc ∧ Puts t u loc kept ∧ (t.write p content fault? links).1 = u.share links p ∧
      ((t.write p content fault? links).2 = .ok () → kept = content) := by
  unfold kept? at h
  cases put : t.put p [] with
  | error r =>
    rw [put] at h
    cases h
  | ok t' =>
    obtain ⟨loc, resolved, puts⟩ := put_eq_ok put
    have opened (data : Octets) : ∃ u, t.put p data = .ok u ∧ Puts t u loc data := by
      obtain ⟨u, put'⟩ := put_ok resolved puts.notDir data
      obtain ⟨loc', resolved', puts'⟩ := put_eq_ok put'
      obtain rfl : loc = loc' := by simpa [resolved] using resolved'
      exact ⟨u, put', puts'⟩
    rw [put] at h
    match fault? with
    | none =>
      cases h
      obtain ⟨u, put', puts'⟩ := opened content
      exact ⟨loc, u, resolved, puts', by simp [write, put'], fun _ => rfl⟩
    | some (.unopened f) => cases h
    | some (.after count f) =>
      cases h
      obtain ⟨u, put', puts'⟩ := opened (content.take count)
      exact ⟨loc, u, resolved, puts', by simp [write, put'], by simp [write, put']⟩

/-- Whether a write succeeds does not depend on the names of files. -/
theorem write_result (t : FileTree) (p content : Octets) (fault? : Option WriteFault) (links : Links) :
    (t.write p content fault? links).2 = (t.write p content fault?).2 := by
  match fault? with
  | none =>
    simp only [write]
    cases t.put p content <;> rfl
  | some (.unopened f) => rfl
  | some (.after count f) =>
    simp only [write]
    cases t.put p (content.take count) <;> rfl

/-- Where files have one name each, a write that opens its file changes this file only. -/
theorem write_of_kept?_eq_some {p content kept : Octets} {fault? : Option WriteFault}
    (h : t.kept? p content fault? = some kept) :
    ∃ loc, t.resolve p = .ok loc ∧ Puts t (t.write p content fault?).1 loc kept ∧
      ((t.write p content fault?).2 = .ok () → kept = content) := by
  obtain ⟨loc, u, resolved, puts, tree, whole⟩ := write_shares {} h
  rw [share_empty] at tree
  exact ⟨loc, resolved, tree ▸ puts, whole⟩

/-- A path leads to a place where no directory stood and a file stands now. -/
structure Written (t t' : FileTree) (p : Octets) (loc : Location) : Prop where
  resolved : t'.resolve p = .ok loc
  free : t.get? loc ≠ some .directory
  file : ∃ content executable, t'.get? loc = some (.file content executable)

/-- Only files at certain paths were written, each for all its names. -/
structure Touches (t t' : FileTree) (paths : Octets → Prop) (links : Links := {}) : Prop where
  dirs : SameDirs t t'
  files : ∀ loc, t'.get? loc = t.get? loc ∨
    t.get? loc ≠ some .directory ∧ (∃ content executable, t'.get? loc = some (.file content executable)) ∧
      ∃ p origin, paths p ∧ Written t t' p origin ∧ loc ∈ links.names origin

namespace Touches

variable {paths paths' : Octets → Prop} {links : Links}

theorem refl (t : FileTree) (paths : Octets → Prop) : Touches t t paths links :=
  ⟨SameDirs.refl t, fun _ => Or.inl rfl⟩

theorem mono (h : Touches t t' paths links) (sub : ∀ p, paths p → paths' p) : Touches t t' paths' links := by
  refine ⟨h.dirs, fun loc => (h.files loc).imp_right ?_⟩
  rintro ⟨notDir, file, p, origin, mem, written⟩
  exact ⟨notDir, file, p, origin, sub p mem, written⟩

/-- Files stay files. -/
theorem file (h : Touches t t' paths links) {loc : Location} {content : Octets} {executable : Bool}
    (stood : t.get? loc = some (.file content executable)) :
    ∃ content executable, t'.get? loc = some (.file content executable) := by
  rcases h.files loc with same | ⟨-, file, -⟩
  · exact ⟨content, executable, same.trans stood⟩
  · exact file

theorem trans (h : Touches t t' paths links) (h' : Touches t' t'' paths links) : Touches t t'' paths links := by
  refine ⟨h.dirs.trans h'.dirs, fun loc => ?_⟩
  rcases h'.files loc with same | ⟨notDir, file, p, origin, mem, written, named⟩
  · rw [same]
    refine (h.files loc).imp_right ?_
    rintro ⟨notDir, file, p, origin, mem, ⟨resolved, free, content, executable, stored⟩, named⟩
    exact ⟨notDir, file, p, origin, mem, ⟨h'.dirs.resolve_iff.2 resolved, free, h'.file stored⟩, named⟩
  · have before {place : Location} (free : t'.get? place ≠ some .directory) : t.get? place ≠ some .directory :=
      fun dir => free ((h.dirs.dirs place).2 dir)
    exact Or.inr ⟨before notDir, file, p, origin, mem, ⟨written.resolved, before written.free, written.file⟩, named⟩

theorem of_puts {p content : Octets} {loc : Location} (resolved : t.resolve p = .ok loc) (h : Puts t t' loc content) :
    Touches t t' (· = p) links := by
  have written : Written t t' p loc := ⟨h.sameDirs.resolve_iff.2 resolved, h.notDir, content, h.stored⟩
  refine ⟨h.sameDirs, fun loc' => ?_⟩
  by_cases same : loc' = loc
  · subst same
    exact Or.inr ⟨h.notDir, written.file, p, loc', rfl, written, Links.mem_names.2 (Or.inl rfl)⟩
  · exact Or.inl (h.others loc' same)

/-- A file that was put under one of its names is shared with the others. -/
theorem of_share {p content : Octets} {loc : Location} (held : links.Hold t) (resolved : t.resolve p = .ok loc)
    (h : Puts t t' loc content) : Touches t (t'.share links p) (· = p) links := by
  obtain ⟨executable, stored⟩ := h.stored
  have free : ∀ other ∈ links.others loc, isGiven other = false := fun other mem =>
    not_given_of_get? (held.others mem).2
  have shared := get?_share (h.sameDirs.resolve_iff.2 resolved) stored free
  have dirs : SameDirs t (t'.share links p) := by
    refine ⟨(home_share ..).trans h.home, fun loc' => ?_⟩
    rw [shared]
    split
    · rename_i mem
      simp [(held.others mem).2]
    · exact h.sameDirs.dirs loc'
  have written : Written t (t'.share links p) p loc := by
    refine ⟨dirs.resolve_iff.2 resolved, h.notDir, content, executable, ?_⟩
    rw [shared]
    split
    · rfl
    · exact stored
  refine ⟨dirs, fun loc' => ?_⟩
  by_cases here : loc' = loc
  · subst here
    exact Or.inr ⟨h.notDir, written.file, p, loc', rfl, written, Links.mem_names.2 (Or.inl rfl)⟩
  rw [shared]
  split
  · rename_i mem
    refine Or.inr ⟨(held.others mem).2, ⟨content, executable, rfl⟩, p, loc, rfl, written, ?_⟩
    exact Links.mem_names.2 (Or.inr mem)
  · exact Or.inl (h.others loc' here)

/-- Writing a file touches it under all its names, and nothing else. -/
theorem of_write (held : links.Hold t) (p content : Octets) (fault? : Option WriteFault) :
    Touches t (t.write p content fault? links).1 (· = p) links := by
  cases kept : t.kept? p content fault? with
  | none =>
    obtain ⟨failure, write⟩ := write_of_kept?_eq_none kept links
    rw [write]
    exact refl t _
  | some octets =>
    obtain ⟨loc, u, resolved, puts, tree, -⟩ := write_shares links kept
    rw [tree]
    exact of_share held resolved puts

/-- Files with several names keep them. -/
theorem hold (h : Touches t t' paths links) {links' : Links} (held : links'.Hold t) : links'.Hold t' := by
  refine held.mono fun loc stands notDir => ⟨?_, fun dir => notDir ((h.dirs.dirs loc).1 dir)⟩
  rcases h.files loc with same | ⟨-, ⟨content, executable, file⟩, -⟩
  · rwa [same]
  · simp [file]

/-- Where files have one name each, they are written into directories. -/
theorem closed (h : Touches t t' paths) (closed : t.Closed) : t'.Closed := by
  intro loc name there
  refine (h.dirs.dirs loc).2 ?_
  rcases h.files (loc ++ [name]) with same | ⟨-, -, p, origin, -, written, named⟩
  · exact closed loc name (same ▸ there)
  · rw [Links.names_empty, List.mem_singleton] at named
    exact closed.above (h.dirs.resolve_iff.1 (named ▸ written.resolved))

/-- What a path leads to is as before, if its last component is not that of a path written and it is not another
name of a file written. -/
theorem get?_of_named (h : Touches t t' paths links) {q name : Octets} {loc : Location}
    (last : (Path.components q).getLast? = some name) (plain : Path.Plain name) (resolved : t.resolve q = .ok loc)
    (others : ∀ p, paths p → ∃ name', (Path.components p).getLast? = some name' ∧ Path.Plain name' ∧ name' ≠ name)
    (sole : ∀ p origin, paths p → Written t t' p origin → loc ∉ links.others origin) :
    t'.get? loc = t.get? loc := by
  rcases h.files loc with same | ⟨notDir, -, p, origin, mem, written, named⟩
  · exact same
  · obtain rfl := (Links.mem_names.1 named).resolve_right (sole p origin mem written)
    obtain ⟨name', last', plain', ne⟩ := others p mem
    exact absurd rfl (resolve_apart last' plain' last plain ne written.resolved (not_given_of_get? notDir) resolved)

/-- So is the file that it leads to. -/
theorem content_iff_of_named (h : Touches t t' paths links) {q name data : Octets}
    (last : (Path.components q).getLast? = some name) (plain : Path.Plain name)
    (others : ∀ p, paths p → ∃ name', (Path.components p).getLast? = some name' ∧ Path.Plain name' ∧ name' ≠ name)
    (sole : ∀ loc, t.resolve q = .ok loc →
      ∀ p origin, paths p → Written t t' p origin → loc ∉ links.others origin) :
    t'.content q = .ok data ↔ t.content q = .ok data :=
  h.dirs.content_iff fun loc resolved => h.get?_of_named last plain resolved others (sole loc resolved)

end Touches

/-! Making directories. -/

/-- A path is the other one or leads to it. -/
def Leads (q p : Octets) : Prop := q = p ∨ ∃ rest, p = q ++ Path.slash :: rest

theorem Leads.trans {q p p' : Octets} (h : Leads q p) (h' : Leads p p') : Leads q p' := by
  rcases h with rfl | ⟨rest, rfl⟩
  · exact h'
  rcases h' with rfl | ⟨rest', rfl⟩
  · exact Or.inr ⟨rest, rfl⟩
  · exact Or.inr ⟨rest ++ Path.slash :: rest', by simp⟩

theorem leads_dropSlashes (p : Octets) : Leads (Path.dropSlashes p) p := by
  have split := List.takeWhile_append_dropWhile (p := (· == Path.slash)) (l := p.reverse)
  have whole : p = Path.dropSlashes p ++ (p.reverse.takeWhile (· == Path.slash)).reverse := by
    rw [Path.dropSlashes, ← List.reverse_append, split, List.reverse_reverse]
  rcases hs : (p.reverse.takeWhile (· == Path.slash)).reverse with _ | ⟨b, rest⟩
  · rw [hs, List.append_nil] at whole
    exact Or.inl whole.symm
  · have slashes : b ∈ p.reverse.takeWhile (· == Path.slash) := by
      rw [← List.mem_reverse, hs]
      simp
    obtain rfl : b = Path.slash := by simpa using List.mem_takeWhile_imp slashes
    rw [hs] at whole
    exact Or.inr ⟨rest, whole⟩

theorem leads_parentText? {p q : Octets} (h : parentText? p = some q) : Leads q p := by
  refine Leads.trans ?_ (leads_dropSlashes p)
  rw [parentText?] at h
  set d := Path.dropSlashes p
  have split := List.takeWhile_append_dropWhile (p := (· != Path.slash)) (l := d.reverse)
  rcases front : d.reverse.dropWhile (· != Path.slash) with _ | ⟨b, rest⟩
  · simp [front] at h
  · have stop : b = Path.slash := by
      have := List.head?_dropWhile_not (· != Path.slash) d.reverse
      simpa [front] using this
    simp only [front] at h
    split at h
    · simp only [List.drop_succ_cons, List.drop_zero, Option.some.injEq] at h
      subst stop h
      refine Or.inr ⟨(d.reverse.takeWhile (· != Path.slash)).reverse, ?_⟩
      rw [front] at split
      have := congrArg List.reverse split
      simpa using this.symm
    · cases h

/-- New directories stand at empty places that lead to a path, not loose in a tree without loose nodes, and
nothing else has changed. -/
structure Grows (t t' : FileTree) (p : Octets) : Prop where
  home : t'.home = t.home
  made : ∀ loc, t'.get? loc = t.get? loc ∨
    t.get? loc = none ∧ t'.get? loc = some .directory ∧ ∃ q, Leads q p ∧ t'.resolve q = .ok loc
  closed : t.Closed → t'.Closed

namespace Grows

variable {p q : Octets}

theorem refl (t : FileTree) (p : Octets) : Grows t t p := ⟨rfl, fun _ => Or.inl rfl, id⟩

theorem dirs (h : Grows t t' p) (loc : Location) (dir : t.get? loc = some .directory) :
    t'.get? loc = some .directory := by
  rcases h.made loc with same | ⟨none, -, -⟩
  · rw [same, dir]
  · simp [none] at dir

theorem file_iff (h : Grows t t' p) {loc : Location} {content : Octets} {x : Bool} :
    t'.get? loc = some (.file content x) ↔ t.get? loc = some (.file content x) := by
  rcases h.made loc with same | ⟨none, dir, -⟩
  · rw [same]
  · simp [none, dir]

/-- Files with several names keep them. -/
theorem hold (h : Grows t t' p) {links : Links} (held : links.Hold t) : links.Hold t' := by
  refine held.mono fun loc stands notDir => ?_
  rcases h.made loc with same | ⟨none, -, -⟩
  · rw [same]
    exact ⟨stands, notDir⟩
  · exact absurd none stands

theorem trans (h : Grows t t' q) (lead : Leads q p) (h' : Grows t' t'' p) : Grows t t'' p := by
  refine ⟨h'.home.trans h.home, fun loc => ?_, h'.closed ∘ h.closed⟩
  rcases h'.made loc with same' | ⟨none', dir', leads'⟩
  · rcases h.made loc with same | ⟨none, dir, r, leads, resolved⟩
    · exact Or.inl (same'.trans same)
    · exact Or.inr ⟨none, by rw [same', dir], r, leads.trans lead, resolve_mono h'.home h'.dirs resolved⟩
  · rcases h.made loc with same | ⟨none, dir, -⟩
    · exact Or.inr ⟨by rw [← same, none'], dir', leads'⟩
    · simp [dir] at none'

/-- In a closed tree no file turns up where new directories lead to. -/
theorem content_iff (h : Grows t t' p) (closed : t.Closed) {data : Octets} (straight : Straight (Path.components q)) :
    t'.content q = .ok data ↔ t.content q = .ok data := by
  rw [content_eq_ok_iff, content_eq_ok_iff]
  refine exists_congr fun loc => exists_congr fun executable => ?_
  rw [h.file_iff]
  refine and_congr_left fun file => ⟨resolve_of_closed closed h.home straight (by simp [file]), ?_⟩
  exact resolve_mono h.home h.dirs

end Grows

theorem makeDir_grows {p : Octets} (h : t.makeDir p = .ok t') : Grows t t' p := by
  rw [makeDir] at h
  set q := if Path.dropSlashes p == [] then p else Path.dropSlashes p with hq
  have lead : Leads q p := by
    rw [hq]
    split
    · exact Or.inl rfl
    · exact leads_dropSlashes p
  cases resolved : t.resolve q with
  | error r =>
    rw [resolved] at h
    cases h
  | ok loc =>
    simp only [resolved, bind, Except.bind] at h
    split at h <;> rename_i there
    · cases h
    cases h
    have free : isGiven loc = false := not_given_of_get? (t := t) (by simp [there])
    have dirs : ∀ l, t.get? l = some .directory → (t.set loc .directory).get? l = some .directory := by
      intro l dir
      rw [get?_set free]
      split
      · rfl
      · exact dir
    refine ⟨home_set .., fun l => ?_, fun closed l name stands => ?_⟩
    · by_cases same : l = loc
      · subst same
        refine Or.inr ⟨there, by rw [get?_set free, if_pos rfl], q, lead, resolve_mono (home_set ..) dirs resolved⟩
      · exact Or.inl (by rw [get?_set free, if_neg same])
    · refine dirs l ?_
      by_cases same : l ++ [name] = loc
      · exact closed.above (same ▸ resolved)
      · rw [get?_set free, if_neg same] at stands
        exact closed l name stands

theorem makeDirs_grows (refuse : Octets → Option Failure) (depth : Nat) (t : FileTree) (p : Octets) :
    Grows t (makeDirs refuse depth t p).1 p := by
  induction depth generalizing t p with
  | zero => exact Grows.refl t p
  | succ depth ih =>
    rw [makeDirs]
    split
    · exact Grows.refl t p
    · exact Grows.refl t p
    split
    rename_i above made pair
    have grows : ∃ q, Leads q p ∧ Grows t above q := by
      split at pair
      · rename_i q parent
        have below := ih t q
        rw [pair] at below
        exact ⟨q, leads_parentText? parent, below⟩
      · cases pair
        exact ⟨p, Or.inl rfl, Grows.refl t p⟩
    obtain ⟨q, lead, grows⟩ := grows
    have upTo : Grows t above p := grows.trans lead (Grows.refl above p)
    split
    · exact upTo
    split
    · exact upTo
    · rename_i dir
      exact grows.trans lead (makeDir_grows dir)
    · exact upTo

/-- Making a directory only adds directories that lead to it, whether or not it succeeds. -/
theorem makeAll_grows (t : FileTree) (p : Octets) (refuse : Octets → Option Failure) :
    Grows t (t.makeAll p refuse).1 p :=
  makeDirs_grows refuse (p.length + 1) t p

end BlitReel.FileTree
