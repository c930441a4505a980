import Mathlib
import BlitReel.Palette.Basic

/-!
# The nearest entry of a palette

The scan of a palette holds the leader of the entries it has passed: the first of those at the least
distance. Whether the next entry takes over or not, it holds the leader of one entry more
(`Leads.nearer`), so in the end it holds the leader of the palette. An order of the entries matters
only to colours for which entries with different digits are equally near.
-/

namespace BlitReel.Palette

variable {r g b : UInt8} {p q : Palette} {e : PaletteEntry}

/-- No entry of the palette is nearer to the colour than `e`. -/
def Closest (r g b : UInt8) (p : Palette) (e : PaletteEntry) : Prop :=
  ∀ x ∈ p, distance r g b e ≤ distance r g b x

instance : Decidable (Closest r g b p e) := inferInstanceAs (Decidable (∀ x ∈ p, _))

/-- `e` is the first of the nearest entries: those before it are farther away, those behind it are
not nearer. -/
def Leads (r g b : UInt8) (p : Palette) (e : PaletteEntry) : Prop :=
  ∃ front back, p = front ++ e :: back ∧ (∀ x ∈ front, distance r g b e < distance r g b x) ∧
    ∀ x ∈ back, distance r g b e ≤ distance r g b x

namespace Leads

theorem mem (h : Leads r g b p e) : e ∈ p := by
  obtain ⟨front, back, rfl, -, -⟩ := h
  simp

theorem closest (h : Leads r g b p e) : Closest r g b p e := by
  obtain ⟨front, back, rfl, farther, notNearer⟩ := h
  intro x mem
  rcases List.mem_append.1 mem with mem | mem
  · exact (farther x mem).le
  · rcases List.mem_cons.1 mem with rfl | mem
    · exact le_refl _
    · exact notNearer x mem

theorem single (r g b : UInt8) (e : PaletteEntry) : Leads r g b [e] e := ⟨[], [], rfl, by simp, by simp⟩

/-- One step of the scan: the nearer of the leader and the next entry leads with that entry. -/
theorem nearer (h : Leads r g b p e) (next : PaletteEntry) :
    Leads r g b (p ++ [next]) (Palette.nearer r g b e next) := by
  rw [Palette.nearer]
  split
  · rename_i closer
    refine ⟨p, [], rfl, fun x mem => ?_, by simp⟩
    exact closer.trans_le (h.closest x mem)
  · rename_i notCloser
    obtain ⟨front, back, rfl, farther, notNearer⟩ := h
    refine ⟨front, back ++ [next], by simp, farther, fun x mem => ?_⟩
    rcases List.mem_append.1 mem with mem | mem
    · exact notNearer x mem
    · rw [List.mem_singleton.1 mem]
      exact not_lt.1 notCloser

/-- The whole scan: what is left of the palette is passed entry by entry. -/
theorem foldl (h : Leads r g b p e) (rest : Palette) :
    Leads r g b (p ++ rest) (rest.foldl (Palette.nearer r g b) e) := by
  induction rest generalizing p e with
  | nil => simpa using h
  | cons next rest ih => simpa using ih (h.nearer next)

/-- The leader stands at the least of the positions of nearest entries. -/
theorem position (h : Leads r g b p e) :
    ∃ i : Fin p.length, p[i] = e ∧ IsLeast {i : Fin p.length | Closest r g b p p[i]} i := by
  have closest := h.closest
  obtain ⟨front, back, rfl, farther, -⟩ := h
  have inside : front.length < (front ++ e :: back).length := by simp
  have here : (front ++ e :: back)[front.length] = e := by simp
  refine ⟨⟨front.length, inside⟩, here, by simpa [here] using closest, fun j nearest => ?_⟩
  by_contra before
  have before : j.val < front.length := not_le.1 before
  have entry : (front ++ e :: back)[j] = front[j.val] := by simp [before]
  have far := farther front[j.val] (List.getElem_mem before)
  have near := nearest e (by simp)
  rw [entry] at near
  omega

theorem unique {e' : PaletteEntry} (h : Leads r g b p e) (h' : Leads r g b p e') : e = e' := by
  obtain ⟨i, rfl, least⟩ := h.position
  obtain ⟨j, rfl, least'⟩ := h'.position
  rw [least.unique least']

end Leads

/-- The scan chooses the leader. -/
theorem firstNearest?_eq_some_iff : p.firstNearest? r g b = some e ↔ Leads r g b p e := by
  cases p with
  | nil =>
    constructor
    · intro h
      cases h
    · intro h
      cases h.mem
  | cons first rest =>
    have leads := (Leads.single r g b first).foldl rest
    rw [firstNearest?, Option.some.injEq]
    constructor
    · rintro rfl
      exact leads
    · exact leads.unique

theorem nearest_eq_ok_iff {d : UInt8} : p.nearest r g b = .ok d ↔ ∃ e, Leads r g b p e ∧ e.digit = d := by
  simp only [← firstNearest?_eq_some_iff]
  rw [nearest]
  cases p.firstNearest? r g b <;> simp

/-- A palette with an entry gives every colour the digit of its leader. -/
theorem nearest_leads (ne : p ≠ []) (r g b : UInt8) : ∃ e, Leads r g b p e ∧ p.nearest r g b = .ok e.digit := by
  obtain ⟨first, rest, rfl⟩ := List.exists_cons_of_ne_nil ne
  exact ⟨_, (Leads.single r g b first).foldl rest, rfl⟩

theorem foldl_nearer_of_closest (closest : Closest r g b p e) : p.foldl (nearer r g b) e = e := by
  induction p with
  | nil => rfl
  | cons next p ih =>
    have keep : nearer r g b e next = e := if_neg (not_lt.2 (closest next (by simp)))
    rw [List.foldl_cons, keep]
    exact ih fun x mem => closest x (by simp [mem])

/-- A nearest entry that is put first gives its digit. -/
theorem nearest_cons_of_closest (closest : Closest r g b p e) :
    nearest (e :: p) r g b = .ok e.digit := by
  simp [nearest, firstNearest?, foldl_nearer_of_closest closest]

theorem Closest.perm (h : Closest r g b p e) (perm : q.Perm p) : Closest r g b q e :=
  fun x mem => h x (perm.mem_iff.1 mem)

/-- Two nearest entries with different digits are what it takes to change the digit of a colour by
another order. -/
theorem reordered_iff (ne : p ≠ []) :
    (∃ q : Palette, q.Perm p ∧ q.nearest r g b ≠ p.nearest r g b) ↔
      ∃ x ∈ p, ∃ y ∈ p, Closest r g b p x ∧ Closest r g b p y ∧ x.digit ≠ y.digit := by
  obtain ⟨e, leads, digit⟩ := nearest_leads ne r g b
  constructor
  · rintro ⟨q, perm, changed⟩
    have ne' : q ≠ [] := fun h => ne (by simpa [h] using perm)
    obtain ⟨e', leads', digit'⟩ := nearest_leads ne' r g b
    refine ⟨e, leads.mem, e', perm.mem_iff.1 leads'.mem, leads.closest, leads'.closest.perm perm.symm, ?_⟩
    intro same
    rw [digit, digit', same] at changed
    exact changed rfl
  · rintro ⟨x, memX, y, memY, closestX, closestY, differ⟩
    -- one of the two does not have the digit that the palette gives now; it goes first
    obtain ⟨z, memZ, closestZ, other⟩ : ∃ z ∈ p, Closest r g b p z ∧ z.digit ≠ e.digit := by
      by_cases same : x.digit = e.digit
      · exact ⟨y, memY, closestY, fun h => differ (same.trans h.symm)⟩
      · exact ⟨x, memX, closestX, same⟩
    have perm : (z :: p.erase z).Perm p := (List.perm_cons_erase memZ).symm
    refine ⟨z :: p.erase z, perm, ?_⟩
    have closest : Closest r g b (p.erase z) z := fun x mem => closestZ x (List.mem_of_mem_erase mem)
    rw [nearest_cons_of_closest closest, digit]
    simpa using other

/-- **The first of the nearest entries.** The digit of a colour is that of the entry at the least
position among the entries that no entry is nearer than. Another order of the entries can give
another digit exactly if two of these nearest entries, at different positions, have different
digits. -/
theorem nearest_first_closest (ne : p ≠ []) (r g b : UInt8) :
    (∃ i : Fin p.length, IsLeast {i : Fin p.length | Closest r g b p p[i]} i ∧ p.nearest r g b = .ok p[i].digit) ∧
    ((∃ q : Palette, q.Perm p ∧ q.nearest r g b ≠ p.nearest r g b) ↔
      ∃ i j : Fin p.length, i ≠ j ∧ Closest r g b p p[i] ∧ Closest r g b p p[j] ∧ p[i].digit ≠ p[j].digit) := by
  constructor
  · obtain ⟨e, leads, digit⟩ := nearest_leads ne r g b
    obtain ⟨i, rfl, least⟩ := leads.position
    exact ⟨i, least, digit⟩
  · rw [reordered_iff ne]
    constructor
    · rintro ⟨x, memX, y, memY, closestX, closestY, differ⟩
      obtain ⟨i, rfl⟩ := List.get_of_mem memX
      obtain ⟨j, rfl⟩ := List.get_of_mem memY
      exact ⟨i, j, fun same => differ (by rw [same]), closestX, closestY, differ⟩
    · rintro ⟨i, j, -, closestI, closestJ, differ⟩
      exact ⟨p[i], List.getElem_mem _, p[j], List.getElem_mem _, closestI, closestJ, differ⟩

/-- Three entries, the last two of them equally near to a dark red. -/
def tied : Palette := [⟨"white", 0x30, 240, 240, 240⟩, ⟨"black", 0x33, 0, 0, 0⟩, ⟨"maroon", 0x37, 20, 0, 0⟩]

/-- The earlier of two entries that tie gives its digit, and another order gives another one. -/
theorem nearest_first_closest_tied :
    tied.nearest 10 0 0 = .ok 0x33 ∧ ∃ q : Palette, q.Perm tied ∧ q.nearest 10 0 0 ≠ tied.nearest 10 0 0 := by
  obtain ⟨⟨i, least, digit⟩, reordered⟩ := @nearest_first_closest tied (by decide) 10 0 0
  have second : IsLeast {i : Fin tied.length | Closest 10 0 0 tied tied[i]} ⟨1, by decide⟩ :=
    ⟨(by decide : Closest 10 0 0 tied tied[1]),
      fun j => (by decide : ∀ j : Fin tied.length, Closest 10 0 0 tied tied[j] → 1 ≤ j.val) j⟩
  refine ⟨?_, reordered.2 ⟨⟨1, by decide⟩, ⟨2, by decide⟩, by decide, by decide, by decide, by decide⟩⟩
  rw [digit, least.unique second]
  rfl

end BlitReel.Palette
