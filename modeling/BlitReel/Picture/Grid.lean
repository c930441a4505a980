/-!
# Grids

A grid holds one cell for each place of a rectangle. Grids are made from a function of column and
row, and `Grid.get?` reads that function back. `Grid.fillRect` paints over a rectangle.
-/

namespace BlitReel

/-- A rectangle of cells, row by row. -/
structure Grid (α : Type) where
  width : Nat
  height : Nat
  cells : Array α
  size_eq : cells.size = width * height

namespace Grid

variable {α β : Type}

/-- The grid of a function of column and row. -/
def ofFn (width height : Nat) (f : Nat → Nat → α) : Grid α where
  width := width
  height := height
  cells := Array.ofFn fun i : Fin (width * height) => f (i.val % width) (i.val / width)
  size_eq := by simp

/-- The cell in a column and row. -/
def get? (g : Grid α) (x y : Nat) : Option α :=
  if x < g.width ∧ y < g.height then g.cells[y * g.width + x]? else none

/-- Apply a function to each cell. -/
def map (f : α → β) (g : Grid α) : Grid β where
  width := g.width
  height := g.height
  cells := g.cells.map f
  size_eq := by simpa using g.size_eq

/-- The cells of a row. -/
def row (g : Grid α) (y : Nat) : Array α := g.cells.extract (y * g.width) ((y + 1) * g.width)

/-- Fill `n` cells in sequence from an index on. -/
def fillRun (c : α) : Nat → Nat → Array α → Array α
  | 0, _, cells => cells
  | n + 1, i, cells => fillRun c n (i + 1) (cells.setIfInBounds i c)

/-- Fill `n` runs whose starts lie `stride` apart. -/
def fillRuns (c : α) (stride run : Nat) : Nat → Nat → Array α → Array α
  | 0, _, cells => cells
  | n + 1, i, cells => fillRuns c stride run n (i + stride) (fillRun c run i cells)

@[simp] theorem size_fillRun (c : α) (n i : Nat) (cells : Array α) : (fillRun c n i cells).size = cells.size := by
  induction n generalizing i cells with
  | zero => rfl
  | succ n ih => rw [fillRun, ih, Array.size_setIfInBounds]

@[simp] theorem size_fillRuns (c : α) (stride run n i : Nat) (cells : Array α) :
    (fillRuns c stride run n i cells).size = cells.size := by
  induction n generalizing i cells with
  | zero => rfl
  | succ n ih => rw [fillRuns, ih, size_fillRun]

/-- Fill what lies on the grid of the rectangle with a corner at `left` and `top`. -/
def fillRect (g : Grid α) (left top width height : Nat) (c : α) : Grid α where
  width := g.width
  height := g.height
  cells := fillRuns c g.width (min width (g.width - left)) (min height (g.height - top)) (top * g.width + left) g.cells
  size_eq := by rw [size_fillRuns, g.size_eq]

theorem index_lt {x y width height : Nat} (hx : x < width) (hy : y < height) :
    y * width + x < width * height :=
  calc y * width + x < y * width + width := by omega
    _ = (y + 1) * width := by rw [Nat.add_mul, Nat.one_mul]
    _ ≤ height * width := Nat.mul_le_mul_right _ hy
    _ = width * height := Nat.mul_comm _ _

@[simp] theorem get?_ofFn (width height : Nat) (f : Nat → Nat → α) (x y : Nat) :
    (ofFn width height f).get? x y = if x < width ∧ y < height then some (f x y) else none := by
  by_cases h : x < width ∧ y < height
  · have hw : 0 < width := by omega
    have hd : (y * width + x) / width = y := by
      rw [Nat.mul_comm, Nat.mul_add_div hw, Nat.div_eq_of_lt h.1, Nat.add_zero]
    have hm : (y * width + x) % width = x := by
      rw [Nat.mul_comm, Nat.mul_add_mod, Nat.mod_eq_of_lt h.1]
    simp [ofFn, get?, h, index_lt h.1 h.2, hd, hm]
  · simp [ofFn, get?, h]

end Grid

end BlitReel
