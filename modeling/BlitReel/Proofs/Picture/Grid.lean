import Mathlib
import BlitReel.Picture.Grid

/-!
# Painting on grids

Filling a rectangle sets the cells of the grid that lie in it and no others (`get?_fillRect`). A grid is determined by its
size and what can be read from it.
-/

namespace BlitReel

namespace Grid

variable {α : Type}

theorem getElem?_fillRun (c : α) (n i : Nat) (cells : Array α) (k : Nat) :
    (fillRun c n i cells)[k]? = if (i ≤ k ∧ k < i + n) ∧ k < cells.size then some c else cells[k]? := by
  induction n generalizing i cells with
  | zero => rw [fillRun, if_neg (by omega)]
  | succ n ih =>
    rw [fillRun, ih, Array.size_setIfInBounds, Array.getElem?_setIfInBounds]
    by_cases first : i = k
    · subst first
      by_cases inside : i < cells.size
      · simp [inside]
      · simp [inside]
    · have later : (i ≤ k ∧ k < i + (n + 1)) ↔ (i + 1 ≤ k ∧ k < i + 1 + n) := by omega
      simp only [if_neg first, later]

/-- Of a run inside a row, a place in some row is part exactly if it is in the same row and in the columns of the run. -/
theorem mem_run_iff {width left run x : Nat} (fits : left + run ≤ width) (column : x < width) (top y : Nat) :
    (top * width + left ≤ y * width + x ∧ y * width + x < top * width + left + run) ↔
      y = top ∧ left ≤ x ∧ x < left + run := by
  rcases Nat.lt_trichotomy y top with above | rfl | below
  · have rows : (y + 1) * width ≤ top * width := Nat.mul_le_mul_right _ above
    rw [Nat.succ_mul] at rows
    omega
  · omega
  · have rows : (top + 1) * width ≤ y * width := Nat.mul_le_mul_right _ below
    rw [Nat.succ_mul] at rows
    omega

theorem getElem?_fillRuns (c : α) {width left run x : Nat} (fits : left + run ≤ width) (column : x < width) (n top y : Nat)
    (cells : Array α) :
    (fillRuns c width run n (top * width + left) cells)[y * width + x]? =
      if (top ≤ y ∧ y < top + n) ∧ (left ≤ x ∧ x < left + run) ∧ y * width + x < cells.size then some c
      else cells[y * width + x]? := by
  induction n generalizing top cells with
  | zero => rw [fillRuns, if_neg (by omega)]
  | succ n ih =>
    have next : top * width + left + width = (top + 1) * width + left := by
      rw [Nat.succ_mul]
      omega
    rw [fillRuns, next, ih, size_fillRun, getElem?_fillRun]
    simp only [mem_run_iff fits column]
    by_cases inside : (left ≤ x ∧ x < left + run) ∧ y * width + x < cells.size
    · have rows : (top ≤ y ∧ y < top + (n + 1)) ↔ (top + 1 ≤ y ∧ y < top + 1 + n) ∨ y = top := by omega
      simp only [inside, and_self, and_true, rows]
      split_ifs <;> tauto
    · have outside : ¬ ((y = top ∧ left ≤ x ∧ x < left + run) ∧ y * width + x < cells.size) := by tauto
      simp only [inside, outside, and_false, if_false]

theorem fillRuns_empty (c : α) (stride n i : Nat) (cells : Array α) : fillRuns c stride 0 n i cells = cells := by
  induction n generalizing i with
  | zero => rfl
  | succ n ih => exact ih _

@[simp] theorem width_fillRect (g : Grid α) (left top width height : Nat) (c : α) :
    (g.fillRect left top width height c).width = g.width := rfl

@[simp] theorem height_fillRect (g : Grid α) (left top width height : Nat) (c : α) :
    (g.fillRect left top width height c).height = g.height := rfl

theorem cells_fillRect (g : Grid α) (left top width height : Nat) (c : α) :
    (g.fillRect left top width height c).cells =
      fillRuns c g.width (min width (g.width - left)) (min height (g.height - top)) (top * g.width + left) g.cells := rfl

/-- A rectangle is filled as far as it lies on the grid, and all other cells stay. -/
theorem get?_fillRect (g : Grid α) (left top width height : Nat) (c : α) {x y : Nat} (column : x < g.width)
    (row : y < g.height) :
    (g.fillRect left top width height c).get? x y =
      if (left ≤ x ∧ x < left + width) ∧ top ≤ y ∧ y < top + height then some c else g.get? x y := by
  have place : y * g.width + x < g.cells.size := by
    rw [g.size_eq]
    exact index_lt column row
  have here : x < g.width ∧ y < g.height := ⟨column, row⟩
  simp only [get?, width_fillRect, height_fillRect, cells_fillRect, here, and_self, if_true]
  rcases Nat.lt_or_ge left g.width with on | beyond
  · rw [getElem?_fillRuns c (by omega) column]
    have inside : ((top ≤ y ∧ y < top + min height (g.height - top)) ∧
        (left ≤ x ∧ x < left + min width (g.width - left)) ∧ y * g.width + x < g.cells.size) ↔
        (left ≤ x ∧ x < left + width) ∧ top ≤ y ∧ y < top + height := by
      constructor
      · rintro ⟨_, _, -⟩
        omega
      · intro _
        refine ⟨by omega, by omega, place⟩
    simp only [inside]
  · have nothing : min width (g.width - left) = 0 := by omega
    rw [nothing, fillRuns_empty, if_neg (by omega)]

/-- Two grids of one size from which the same can be read are the same. -/
theorem ext_get? {g h : Grid α} (width : g.width = h.width) (height : g.height = h.height)
    (same : ∀ x y, x < g.width → y < g.height → g.get? x y = h.get? x y) : g = h := by
  obtain ⟨w, ht, cells, size⟩ := g
  obtain ⟨w', ht', cells', size'⟩ := h
  dsimp only at width height same
  subst width height
  have cells_eq : cells = cells' := by
    apply Array.ext_getElem?
    intro k
    rcases Nat.lt_or_ge k (w * ht) with inside | outside
    · have column : k % w < w := Nat.mod_lt _ (Nat.pos_of_mul_pos_right (Nat.zero_lt_of_lt inside))
      have row : k / w < ht := Nat.div_lt_of_lt_mul inside
      have read := same (k % w) (k / w) column row
      simpa [get?, column, row, Nat.div_add_mod'] using read
    · rw [Array.getElem?_eq_none (by omega), Array.getElem?_eq_none (by omega)]
  subst cells_eq
  rfl

end Grid

end BlitReel
