import Mathlib
import BlitReel.Proofs.Files.Path

/-!
# Children of a path

A plain name joined to a path, however that path is written, is a child of it: the text of the joined path is a
front that ends where a component may begin (`front`), and the name. The front cleans to the path itself, so
the joined path has the cleaned path as its directory and the name as its last component.
-/

namespace BlitReel.Path

/-- One path lies directly below another one, under a name. -/
structure IsChild (root name p : Octets) : Prop where
  dir_eq : dir p = clean root
  base_eq : base p = name

/-- What stands before a plain name that is joined to a path. -/
def front (p : Octets) : Octets :=
  if parts p = [] then if isRooted p then [slash] else []
  else clean p ++ [slash]

theorem render_snoc (rooted : Bool) {cs : List Octets} (ne : cs ≠ []) (full : ∀ c ∈ cs, c ≠ []) (name : Octets) :
    render rooted (cs ++ [name]) = render rooted cs ++ slash :: name := by
  have text := joinComponents_ne_nil ne full
  unfold render
  rw [joinComponents_snoc ne]
  cases rooted with
  | true => rfl
  | false => simp [text]

/-- A plain name joined to a path stands behind its front. -/
theorem join_text (p : Octets) {name : Octets} (plain : Plain name) : join [p, name] = front p ++ name := by
  have one : ∀ c ∈ [name], Plain c := by simpa using plain
  unfold front
  rcases eq_or_ne p [] with rfl | ne
  · rw [join_nil, plain.join]
    rfl
  rw [join_eq ne one]
  split
  · rename_i none
    rw [none, List.nil_append, render]
    cases isRooted p with
    | true => simp [joinComponents]
    | false => simp [joinComponents, plain.ne_nil]
  · rename_i some
    rw [render_snoc _ some (normal_parts p).ne_nil, clean_eq, List.append_assoc]
    rfl

/-- A front is empty or ends with a slash. -/
theorem head?_reverse_front (p : Octets) : ∀ b ∈ (front p).reverse.head?, b = slash := by
  intro b last
  unfold front at last
  split at last
  · split at last
    · exact (Option.mem_some_iff.1 last).symm
    · cases last
  · rw [List.reverse_append] at last
    exact (Option.mem_some_iff.1 last).symm

theorem components_slash (q : Octets) : components (q ++ [slash]) = components q ++ [[]] := by
  unfold components
  rw [Octets.splitOn_append_cons, Octets.splitOn_of_not_mem List.not_mem_nil]

/-- A slash at the end of a path changes nothing. -/
theorem clean_slash {q : Octets} (ne : q ≠ []) : clean (q ++ [slash]) = clean q := by
  have rooted : isRooted (q ++ [slash]) = isRooted q := by
    unfold isRooted
    rw [List.head?_append_of_ne_nil _ ne]
  have same : parts (q ++ [slash]) = parts q := by
    unfold parts
    rw [components_slash, List.foldl_append, rooted]
    rfl
  rw [clean_eq, clean_eq, rooted, same]

theorem clean_clean (p : Octets) : clean (clean p) = clean p := by
  have normal := normal_parts p
  rw [clean_eq (clean p), clean_eq p, isRooted_render normal, parts_render normal]

/-- The front of a path leads where the path leads. -/
theorem clean_front (p : Octets) : clean (front p) = clean p := by
  unfold front
  split
  · rename_i none
    rw [clean_eq p, none]
    cases isRooted p with
    | true => decide
    | false => decide
  · have ne : clean p ≠ [] := render_ne_nil _ _
    rw [clean_slash ne, clean_clean]

theorem bne_slash_of_mem {name : Octets} (plain : Plain name) : ∀ b ∈ name.reverse, (b != slash) = true := by
  intro b mem
  rw [List.mem_reverse] at mem
  rw [bne_iff_ne]
  rintro rfl
  exact plain.no_slash mem

/-- A plain name joined to any path is a child of that path. -/
theorem isChild_join (p : Octets) {name : Octets} (plain : Plain name) : IsChild p name (join [p, name]) := by
  have clear := bne_slash_of_mem plain
  have stops : (front p).reverse.takeWhile (· != slash) = [] ∧
      (front p).reverse.dropWhile (· != slash) = (front p).reverse := by
    have ends := head?_reverse_front p
    cases behind : (front p).reverse with
    | nil => exact ⟨rfl, rfl⟩
    | cons b rest =>
      obtain rfl : b = slash := ends b (by rw [behind]; rfl)
      exact ⟨rfl, rfl⟩
  constructor
  · unfold dir
    rw [join_text p plain, List.reverse_append, List.dropWhile_append_of_pos clear, stops.2, List.reverse_reverse,
      clean_front]
  · have text : (front p ++ name).isEmpty = false := by simp [plain.ne_nil]
    have whole : dropSlashes (front p ++ name) = front p ++ name := by
      obtain ⟨b, rest, split⟩ := List.exists_cons_of_ne_nil (by simpa using plain.ne_nil : name.reverse ≠ [])
      have here : b ≠ slash := by
        intro same
        exact plain.no_slash (by rw [← List.mem_reverse, split, same]; exact List.mem_cons_self)
      have kept : (front p ++ name).reverse.dropWhile (· == slash) = (front p ++ name).reverse := by
        rw [List.reverse_append, split, List.cons_append, List.dropWhile_cons_of_neg (by simpa using here)]
      unfold dropSlashes
      rw [kept, List.reverse_reverse]
    unfold base
    rw [join_text p plain, text, whole]
    simp only [Bool.false_eq_true, ↓reduceIte]
    split
    · rename_i none
      rw [none] at text
      cases text
    · rw [List.reverse_append, List.takeWhile_append_of_pos clear, stops.1, List.append_nil, List.reverse_reverse]

theorem IsChild.name_eq {root name name' p : Octets} (h : IsChild root name p) (h' : IsChild root name' p) :
    name = name' :=
  h.base_eq.symm.trans h'.base_eq

end BlitReel.Path
