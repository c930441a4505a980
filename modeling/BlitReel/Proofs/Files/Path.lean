import Mathlib
import BlitReel.Files.Path
import BlitReel.Proofs.Text.Octets

/-!
# Cleaned paths

A path cleans to a rooted or relative sequence of parts: steps up, which a rooted path does not have,
and then plain names. `Path.render` writes such a sequence, `clean_eq` says that cleaning is rendering
the parts, and a rendered path has exactly the parts it was made of, so cleaning again changes
nothing. Joining plain names to a path appends them to its parts (`join_eq`).
-/

namespace BlitReel.Path

/-- A component that names something: neither empty nor a step, and without a slash. -/
structure Plain (c : Octets) : Prop where
  ne_nil : c ≠ []
  ne_here : c ≠ here
  ne_up : c ≠ up
  no_slash : slash ∉ c

/-- Steps up, none of them in a rooted path, and then plain components. -/
def Normal (rooted : Bool) (cs : List Octets) : Prop :=
  ∃ k ps, cs = List.replicate k up ++ ps ∧ (∀ c ∈ ps, Plain c) ∧ (rooted = true → k = 0)

/-- The parts that are left of a path when it is cleaned. -/
def parts (p : Octets) : List Octets := ((components p).foldl (cleanStep (isRooted p)) []).reverse

/-- A path of given parts. -/
def render (rooted : Bool) (cs : List Octets) : Octets :=
  if rooted then slash :: joinComponents cs
  else if (joinComponents cs).isEmpty then here
  else joinComponents cs

theorem clean_eq (p : Octets) : clean p = render (isRooted p) (parts p) := rfl

theorem up_no_slash : slash ∉ up := by decide

theorem Normal.no_slash {rooted : Bool} {cs : List Octets} (h : Normal rooted cs) : ∀ c ∈ cs, slash ∉ c := by
  obtain ⟨k, ps, rfl, plain, -⟩ := h
  intro c hc
  rcases List.mem_append.1 hc with hc | hc
  · rw [List.eq_of_mem_replicate hc]
    exact up_no_slash
  · exact (plain c hc).no_slash

theorem Normal.ne_nil {rooted : Bool} {cs : List Octets} (h : Normal rooted cs) : ∀ c ∈ cs, c ≠ [] := by
  obtain ⟨k, ps, rfl, plain, -⟩ := h
  intro c hc
  rcases List.mem_append.1 hc with hc | hc
  · rw [List.eq_of_mem_replicate hc]
    decide
  · exact (plain c hc).ne_nil

theorem Normal.append {rooted : Bool} {cs names : List Octets} (h : Normal rooted cs) (plain : ∀ c ∈ names, Plain c) :
    Normal rooted (cs ++ names) := by
  obtain ⟨k, ps, rfl, plain', root⟩ := h
  refine ⟨k, ps ++ names, by simp, ?_, root⟩
  intro c hc
  rcases List.mem_append.1 hc with hc | hc
  · exact plain' c hc
  · exact plain c hc

theorem Normal.dropLast {rooted : Bool} {cs : List Octets} {name : Octets} (h : Normal rooted (cs ++ [name])) :
    Normal rooted cs := by
  obtain ⟨k, ps, split, plain, root⟩ := h
  rcases List.eq_nil_or_concat ps with rfl | ⟨ps', last, rfl⟩
  · rcases k with _ | k
    · simp at split
    · refine ⟨k, [], ?_, by simp, fun r => absurd (root r) (by simp)⟩
      rw [List.append_nil, List.replicate_succ'] at split
      rw [List.append_nil, (List.append_inj' split rfl).1]
  · refine ⟨k, ps', ?_, fun c hc => plain c (by simp [hc]), root⟩
    rw [List.concat_eq_append, ← List.append_assoc] at split
    exact (List.append_inj' split rfl).1

/-- The last part is plain or a step up. -/
theorem Normal.plain_of_ne_up {rooted : Bool} {cs : List Octets} {name : Octets} (h : Normal rooted (cs ++ [name]))
    (ne : name ≠ up) : Plain name := by
  obtain ⟨k, ps, split, plain, -⟩ := h
  have mem : name ∈ List.replicate k up ++ ps := by simp [← split]
  rcases List.mem_append.1 mem with mem | mem
  · exact absurd (List.eq_of_mem_replicate mem) ne
  · exact plain name mem

/-- Cleaning keeps what it has read so far normal; it is kept in reverse. -/
theorem normal_cleanStep {rooted : Bool} {done : List Octets} (h : Normal rooted done.reverse) {c : Octets}
    (clear : slash ∉ c) : Normal rooted (cleanStep rooted done c).reverse := by
  unfold cleanStep
  split
  · exact h
  rename_i named
  split
  · rename_i stepUp
    rw [beq_iff_eq] at stepUp
    subst stepUp
    rcases done with _ | ⟨last, rest⟩
    · cases rooted with
      | true => exact ⟨0, [], by simp, by simp, by simp⟩
      | false => exact ⟨1, [], by simp, by simp, by simp⟩
    · have front : Normal rooted rest.reverse := Normal.dropLast (by simpa using h)
      dsimp only
      split
      · rename_i again
        rw [beq_iff_eq] at again
        subst again
        obtain ⟨k, ps, split, plain, root⟩ := h
        -- the last part is a step up, so there are only steps up
        rcases List.eq_nil_or_concat ps with rfl | ⟨ps', last, rfl⟩
        · rw [List.append_nil] at split
          refine ⟨k + 1, [], ?_, by simp, fun r => ?_⟩
          · rw [List.reverse_cons, split, List.replicate_succ', List.append_nil]
          · rw [root r] at split
            simp at split
        · rw [List.concat_eq_append, List.reverse_cons, ← List.append_assoc] at split
          have same := (List.append_inj' split rfl).2
          have := (plain last (by simp)).ne_up
          simp_all
      · exact front
  · rename_i notUp
    simp only [Bool.or_eq_true, List.isEmpty_iff, beq_iff_eq, not_or] at named notUp
    rw [List.reverse_cons]
    refine h.append ?_
    simp only [List.mem_singleton, forall_eq]
    exact ⟨named.1, named.2, notUp, clear⟩

theorem normal_foldl {rooted : Bool} {cs : List Octets} (clear : ∀ c ∈ cs, slash ∉ c) {done : List Octets}
    (h : Normal rooted done.reverse) : Normal rooted (cs.foldl (cleanStep rooted) done).reverse := by
  induction cs generalizing done with
  | nil => exact h
  | cons c cs ih =>
    exact ih (fun d hd => clear d (by simp [hd])) (normal_cleanStep h (clear c (by simp)))

theorem normal_parts (p : Octets) : Normal (isRooted p) (parts p) :=
  normal_foldl (fun _ hc => Octets.not_mem_of_mem_splitOn hc) ⟨0, [], rfl, by simp, by simp⟩

theorem cleanStep_plain {rooted : Bool} {done : List Octets} {c : Octets} (h : Plain c) :
    cleanStep rooted done c = c :: done := by
  simp [cleanStep, h.ne_nil, h.ne_here, h.ne_up]

theorem foldl_plain {rooted : Bool} {cs done : List Octets} (plain : ∀ c ∈ cs, Plain c) :
    cs.foldl (cleanStep rooted) done = cs.reverse ++ done := by
  induction cs generalizing done with
  | nil => rfl
  | cons c cs ih =>
    rw [List.foldl_cons, cleanStep_plain (plain c (by simp)), ih fun d hd => plain d (by simp [hd])]
    simp

theorem foldl_up (k j : Nat) :
    (List.replicate k up).foldl (cleanStep false) (List.replicate j up) = List.replicate (k + j) up := by
  induction k generalizing j with
  | zero => simp
  | succ k ih =>
    have step : cleanStep false (List.replicate j up) up = List.replicate (j + 1) up := by
      cases j with
      | zero => decide
      | succ j => simp [cleanStep, List.replicate_succ, show up ≠ [] by decide, show up ≠ here by decide]
    rw [List.replicate_succ, List.foldl_cons, step, ih]
    congr 1
    omega

/-- Normal parts are left alone by cleaning. -/
theorem foldl_normal {rooted : Bool} {cs : List Octets} (h : Normal rooted cs) :
    cs.foldl (cleanStep rooted) [] = cs.reverse := by
  obtain ⟨k, ps, rfl, plain, root⟩ := h
  have front : (List.replicate k up).foldl (cleanStep rooted) [] = List.replicate k up := by
    cases rooted with
    | true => rw [root rfl]; rfl
    | false => simpa using foldl_up k 0
  rw [List.foldl_append, front, foldl_plain plain]
  simp

/-! The text of a rendered path. -/

theorem joinComponents_snoc {cs : List Octets} (ne : cs ≠ []) (name : Octets) :
    joinComponents (cs ++ [name]) = joinComponents cs ++ slash :: name := by
  induction cs with
  | nil => exact absurd rfl ne
  | cons c cs ih =>
    rcases cs with _ | ⟨d, cs⟩
    · simp [joinComponents]
    · have rest := ih (by simp)
      simp only [joinComponents, List.cons_append, List.intersperse_cons_cons, List.flatten_cons] at rest ⊢
      simp [rest]

theorem components_joinComponents {cs : List Octets} (clear : ∀ c ∈ cs, slash ∉ c) (ne : cs ≠ []) :
    components (joinComponents cs) = cs :=
  Octets.splitOn_join clear ne

theorem joinComponents_ne_nil {cs : List Octets} (ne : cs ≠ []) (full : ∀ c ∈ cs, c ≠ []) : joinComponents cs ≠ [] := by
  obtain ⟨c, rest, rfl⟩ := List.exists_cons_of_ne_nil ne
  have := full c (by simp)
  cases rest <;> simp [joinComponents, this]

theorem render_rooted (cs : List Octets) : render true cs = slash :: joinComponents cs := rfl

theorem render_relative {cs : List Octets} (ne : cs ≠ []) (full : ∀ c ∈ cs, c ≠ []) :
    render false cs = joinComponents cs := by
  have := joinComponents_ne_nil ne full
  simp [render, this]

theorem joinComponents_prefix {cs : List Octets} (ne : cs ≠ []) (names : List Octets) :
    joinComponents cs <+: joinComponents (cs ++ names) := by
  induction names using List.reverseRecOn with
  | nil => simp
  | append_singleton names name ih =>
    rw [← List.append_assoc, joinComponents_snoc (by simp [ne])]
    exact ih.trans (List.prefix_append _ _)

/-- A rendered path goes on with what is rendered behind it. -/
theorem render_prefix (rooted : Bool) {cs : List Octets} (ne : cs ≠ []) (full : ∀ c ∈ cs, c ≠ [])
    (names : List Octets) : render rooted cs <+: render rooted (cs ++ names) := by
  have body := joinComponents_prefix ne names
  have text := joinComponents_ne_nil ne full
  cases rooted with
  | true => simpa [render_rooted] using body
  | false =>
    have more : joinComponents (cs ++ names) ≠ [] := by
      intro none
      rw [none, List.prefix_nil] at body
      exact text body
    simpa [render, text, more] using body

theorem render_ne_nil (rooted : Bool) (cs : List Octets) : render rooted cs ≠ [] := by
  cases rooted with
  | true => simp [render_rooted]
  | false =>
    unfold render
    simp only [Bool.false_eq_true, ↓reduceIte]
    split
    · decide
    · rename_i h
      simpa using h

theorem isRooted_render {rooted : Bool} {cs : List Octets} (h : Normal rooted cs) :
    isRooted (render rooted cs) = rooted := by
  cases rooted with
  | true => rfl
  | false =>
    rcases cs with _ | ⟨c, cs⟩
    · decide
    · have clear := h.no_slash c (by simp)
      obtain ⟨b, c, rfl⟩ := List.exists_cons_of_ne_nil (h.ne_nil c (by simp))
      rw [render_relative (by simp) h.ne_nil]
      have ne : b ≠ slash := fun e => clear (by simp [e])
      cases cs <;> simpa [isRooted, joinComponents] using ne

/-- The components of a rendered path: its parts, with an empty one before the root's slash. -/
theorem components_render {rooted : Bool} {cs : List Octets} (h : Normal rooted cs) (ne : cs ≠ []) :
    components (render rooted cs) = if rooted then [] :: cs else cs := by
  cases rooted with
  | true =>
    have split := Octets.splitOn_append_cons slash [] (joinComponents cs)
    rw [List.nil_append] at split
    rw [render_rooted, components, split, Octets.splitOn_of_not_mem (by simp), joinComponents,
      Octets.splitOn_join h.no_slash ne]
    rfl
  | false =>
    rw [render_relative ne h.ne_nil, components_joinComponents h.no_slash ne]
    rfl

/-- A rendered path has the parts it was made of. -/
theorem parts_render {rooted : Bool} {cs : List Octets} (h : Normal rooted cs) : parts (render rooted cs) = cs := by
  rw [parts, isRooted_render h]
  rcases eq_or_ne cs [] with rfl | ne
  · cases rooted <;> decide
  · rw [components_render h ne]
    cases rooted with
    | true =>
      have step : cleanStep true [] [] = [] := rfl
      rw [if_pos rfl, List.foldl_cons, step, foldl_normal h, List.reverse_reverse]
    | false => rw [if_neg (by simp), foldl_normal h, List.reverse_reverse]

theorem components_append_names {p : Octets} {names : List Octets} (clear : ∀ c ∈ names, slash ∉ c) :
    components (joinComponents (p :: names)) = components p ++ names := by
  induction names using List.reverseRecOn with
  | nil => simp [joinComponents]
  | append_singleton names name ih =>
    have split := Octets.splitOn_append_cons slash (joinComponents (p :: names)) name
    have last := Octets.splitOn_of_not_mem (clear name (by simp))
    have front := ih fun c hc => clear c (by simp [hc])
    rw [← List.cons_append, joinComponents_snoc (by simp), components, split, last]
    rw [components] at front
    rw [front, List.append_assoc]

theorem isRooted_joinComponents {p : Octets} (ne : p ≠ []) (names : List Octets) :
    isRooted (joinComponents (p :: names)) = isRooted p := by
  obtain ⟨b, p, rfl⟩ := List.exists_cons_of_ne_nil ne
  cases names <;> simp [isRooted, joinComponents]

/-- Plain names joined to a path come behind its parts. -/
theorem join_eq {p : Octets} (ne : p ≠ []) {names : List Octets} (plain : ∀ c ∈ names, Plain c) :
    join (p :: names) = render (isRooted p) (parts p ++ names) := by
  have skip : (p :: names).dropWhile List.isEmpty = p :: names := by simp [ne]
  have whole : parts (joinComponents (p :: names)) = parts p ++ names := by
    rw [parts, isRooted_joinComponents ne, components_append_names fun c hc => (plain c hc).no_slash,
      List.foldl_append, foldl_plain plain, parts]
    simp
  rw [join, skip]
  simp only [clean_eq, isRooted_joinComponents ne, whole]

theorem parts_join {p : Octets} (ne : p ≠ []) {names : List Octets} (plain : ∀ c ∈ names, Plain c) :
    parts (join (p :: names)) = parts p ++ names := by
  rw [join_eq ne plain, parts_render ((normal_parts p).append plain)]

theorem isRooted_join {p : Octets} (ne : p ≠ []) {names : List Octets} (plain : ∀ c ∈ names, Plain c) :
    isRooted (join (p :: names)) = isRooted p := by
  rw [join_eq ne plain, isRooted_render ((normal_parts p).append plain)]

theorem join_ne_nil {p : Octets} (ne : p ≠ []) {names : List Octets} (plain : ∀ c ∈ names, Plain c) :
    join (p :: names) ≠ [] := by
  rw [join_eq ne plain]
  exact render_ne_nil _ _

/-- Names may be joined all at once or one after the other. -/
theorem join_join {p : Octets} (ne : p ≠ []) {names more : List Octets} (plain : ∀ c ∈ names, Plain c)
    (plain' : ∀ c ∈ more, Plain c) : join (join (p :: names) :: more) = join (p :: (names ++ more)) := by
  have both : ∀ c ∈ names ++ more, Plain c := fun c hc => (List.mem_append.1 hc).elim (plain c) (plain' c)
  rw [join_eq (join_ne_nil ne plain) plain', parts_join ne plain, isRooted_join ne plain, join_eq ne both,
    List.append_assoc]

/-- A plain name joined to a path is its last component. -/
theorem getLast?_components_join {p name : Octets} (ne : p ≠ []) (plain : Plain name) :
    (components (join [p, name])).getLast? = some name := by
  have one : ∀ c ∈ [name], Plain c := by simpa using plain
  rw [join_eq ne one, components_render ((normal_parts p).append one) (by simp)]
  split
  · exact List.getLast?_concat (l := [] :: parts p)
  · exact List.getLast?_concat

/-! A plain name as a path of its own. -/

theorem join_nil (ps : List Octets) : join ([] :: ps) = join ps := rfl

theorem Plain.isRooted {name : Octets} (plain : Plain name) : isRooted name = false := by
  obtain ⟨b, rest, rfl⟩ := List.exists_cons_of_ne_nil plain.ne_nil
  have ne : b ≠ slash := fun same => plain.no_slash (by simp [same])
  simpa [Path.isRooted] using ne

theorem Plain.parts {name : Octets} (plain : Plain name) : parts name = [name] := by
  rw [Path.parts, components, Octets.splitOn_of_not_mem plain.no_slash, List.foldl_cons, cleanStep_plain plain]
  rfl

theorem Plain.join {name : Octets} (plain : Plain name) : join [name] = name := by
  have one : ∀ c ∈ [name], c ≠ [] := by simpa using plain.ne_nil
  rw [join_eq plain.ne_nil (by simp), plain.isRooted, plain.parts, List.append_nil, render_relative (by simp) one]
  simp [joinComponents]

/-- A plain name joined to any path, an empty one included, is its last component. -/
theorem last_join (p : Octets) {name : Octets} (plain : Plain name) :
    (components (join [p, name])).getLast? = some name := by
  by_cases empty : p = []
  · rw [empty, join_nil, plain.join, components, Octets.splitOn_of_not_mem plain.no_slash]
    rfl
  · exact getLast?_components_join empty plain

end BlitReel.Path
