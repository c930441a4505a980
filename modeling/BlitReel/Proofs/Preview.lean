import Mathlib
import BlitReel.Preview
import BlitReel.Proofs.Picture.Canvas
import BlitReel.Proofs.Picture.Grid

/-!
# What a preview shows

A preview is painted square by square. A pixel lies in the square of one cell only, the one whose column and row are its
coordinates divided by the side of the squares (`Lattice.mem_square_iff`), so the squares neither overlap nor leave gaps, and
what has been painted at a pixel in the end is the colour of that cell, or the black of the canvas if there is no
such cell or its digit is unknown. Cells beyond the edges are painted nowhere.
-/

namespace BlitReel

/-- The item at a place of a list, counted from zero; there is none at a negative place. -/
def itemAt? {α : Type} (xs : List α) (i : Int) : Option α := if 0 ≤ i then xs[i.toNat]? else none

@[simp] theorem itemAt?_nil {α : Type} (i : Int) : itemAt? ([] : List α) i = none := by simp [itemAt?]

theorem itemAt?_of_neg {α : Type} (xs : List α) {i : Int} (negative : i < 0) : itemAt? xs i = none := by
  rw [itemAt?, if_neg (by omega)]

theorem itemAt?_cons_zero {α : Type} (x : α) (xs : List α) : itemAt? (x :: xs) 0 = some x := rfl

theorem itemAt?_cons_of_ne {α : Type} (x : α) (xs : List α) {i : Int} (ne : i ≠ 0) :
    itemAt? (x :: xs) i = itemAt? xs (i - 1) := by
  rcases Int.lt_or_gt_of_ne ne with negative | positive
  · rw [itemAt?_of_neg _ negative, itemAt?_of_neg _ (by omega)]
  · obtain ⟨n, rfl⟩ : ∃ n : Nat, i = n + 1 := ⟨(i - 1).toNat, by omega⟩
    rw [itemAt?, if_pos (by omega), itemAt?, if_pos (by omega), Int.toNat_natCast_add_one, Int.add_sub_cancel,
      Int.toNat_natCast, List.getElem?_cons_succ]

/-- The digit in a column and row of a frame, if there is one. -/
def Frame.cell? (f : Frame) (x y : Int) : Option UInt8 := (itemAt? f.rows y).bind (itemAt? · x)

theorem Frame.cell?_of_neg (f : Frame) {x y : Int} (negative : x < 0 ∨ y < 0) : f.cell? x y = none := by
  rw [Frame.cell?]
  rcases negative with left | above
  · simp only [itemAt?_of_neg _ left, Option.bind_fun_none]
  · rw [itemAt?_of_neg _ above, Option.bind_none]

namespace Preview

/-- The column of squares that a column of pixels lies in. -/
def Lattice.column (l : Lattice) (i : Nat) : Int := ((i : Int) - l.left) / l.side

/-- The row of squares that a row of pixels lies in. -/
def Lattice.row (l : Lattice) (j : Nat) : Int := ((j : Int) - l.top) / l.side

theorem mem_side_iff {side : Nat} (pos : 0 < side) (start x i : Nat) :
    (start + x * side ≤ i ∧ i < start + x * side + side) ↔ ((i : Int) - start) / side = x := by
  have between : ((i : Int) - start) / side = x ↔ (x : Int) ≤ ((i : Int) - start) / side ∧ ((i : Int) - start) / side < x + 1 := by
    omega
  rw [between, Int.le_ediv_iff_mul_le (by omega), Int.ediv_lt_iff_lt_mul (by omega), Int.add_mul, Int.one_mul]
  push_cast [← Int.ofNat_le, ← Int.ofNat_lt]
  omega

variable {p : Palette} {l : Lattice} {g : Grid Pixel} {i j : Nat}

/-- A pixel lies in the square of exactly one cell. -/
theorem Lattice.mem_square_iff (pos : 0 < l.side) (x y : Nat) :
    ((l.left + x * l.side ≤ i ∧ i < l.left + x * l.side + l.side) ∧
      l.top + y * l.side ≤ j ∧ j < l.top + y * l.side + l.side) ↔ l.column i = x ∧ l.row j = y := by
  rw [mem_side_iff pos, mem_side_iff pos, column, row]

/-- What a cell with a digit is painted with. -/
def ink (p : Palette) (digit : UInt8) : Option Pixel := (p.lookup? digit).map fun e => .solid ⟨e.red, e.green, e.blue⟩

theorem size_paintCell (x y : Nat) (d : UInt8) :
    (paintCell p l x y d g).width = g.width ∧ (paintCell p l x y d g).height = g.height := by
  unfold paintCell
  split <;> exact ⟨rfl, rfl⟩

theorem get?_paintCell (pos : 0 < l.side) (hi : i < g.width) (hj : j < g.height) (x y : Nat) (d : UInt8) :
    (paintCell p l x y d g).get? i j = if l.column i = x ∧ l.row j = y then (ink p d).or (g.get? i j) else g.get? i j := by
  unfold paintCell ink
  split
  · rename_i e found
    rw [Grid.get?_fillRect _ _ _ _ _ _ hi hj, found]
    simp only [Lattice.mem_square_iff pos]
    rfl
  · rename_i unknown
    simp [unknown]

theorem size_paintRow (y x : Nat) (row : Octets) :
    (paintRow p l y x row g).width = g.width ∧ (paintRow p l y x row g).height = g.height := by
  induction row generalizing x g with
  | nil => exact ⟨rfl, rfl⟩
  | cons d row ih =>
    obtain ⟨width, height⟩ := size_paintCell (p := p) (l := l) (g := g) x y d
    rw [paintRow, ← width, ← height]
    exact ih (x + 1)

/-- A row is painted where its cells from column `x` on have colours. -/
theorem get?_paintRow (pos : 0 < l.side) (hi : i < g.width) (hj : j < g.height) (y x : Nat) (row : Octets) :
    (paintRow p l y x row g).get? i j =
      if l.row j = y then ((itemAt? row (l.column i - x)).bind (ink p)).or (g.get? i j) else g.get? i j := by
  induction row generalizing x g with
  | nil => simp [paintRow]
  | cons d row ih =>
    obtain ⟨width, height⟩ := size_paintCell (p := p) (l := l) (g := g) x y d
    rw [paintRow, ih (width.symm ▸ hi) (height.symm ▸ hj), get?_paintCell pos hi hj]
    by_cases level : l.row j = y
    · rw [if_pos level, if_pos level]
      by_cases here : l.column i = x
      · -- The later cells of the row lie to the right.
        rw [if_pos ⟨here, level⟩, itemAt?_of_neg _ (by omega), here, Int.sub_self, itemAt?_cons_zero]
        rfl
      · rw [if_neg (by tauto), itemAt?_cons_of_ne _ _ (by omega), Int.natCast_add, ← Int.sub_sub]
        rfl
    · rw [if_neg level, if_neg level, if_neg (by tauto)]

theorem size_paintRows (y : Nat) (rows : List Octets) :
    (paintRows p l y rows g).width = g.width ∧ (paintRows p l y rows g).height = g.height := by
  induction rows generalizing y g with
  | nil => exact ⟨rfl, rfl⟩
  | cons row rows ih =>
    obtain ⟨width, height⟩ := size_paintRow (p := p) (l := l) (g := g) y 0 row
    rw [paintRows, ← width, ← height]
    exact ih (y + 1)

/-- Rows are painted where their cells have colours. -/
theorem get?_paintRows (pos : 0 < l.side) (hi : i < g.width) (hj : j < g.height) (y : Nat) (rows : List Octets) :
    (paintRows p l y rows g).get? i j =
      (((itemAt? rows (l.row j - y)).bind (itemAt? · (l.column i))).bind (ink p)).or (g.get? i j) := by
  induction rows generalizing y g with
  | nil => simp [paintRows]
  | cons row rows ih =>
    obtain ⟨width, height⟩ := size_paintRow (p := p) (l := l) (g := g) y 0 row
    rw [paintRows, ih (width.symm ▸ hi) (height.symm ▸ hj), get?_paintRow pos hi hj]
    by_cases level : l.row j = y
    · -- The later rows lie below.
      rw [if_pos level, itemAt?_of_neg _ (by omega), level, Int.sub_self, itemAt?_cons_zero, Int.natCast_zero, Int.sub_zero]
      rfl
    · rw [if_neg level, itemAt?_cons_of_ne _ _ (by omega), Int.natCast_add, ← Int.sub_sub]
      rfl

/-- The canvas can be had: with the sizes of the frame times the scale in effect as its sides, the octets of a row can
be counted, and the index of the rows and all octets can be allocated. -/
structure Representable (f : Frame) (scale : Int64) : Prop where
  row : 4 * (f.width.toInt * max scale.toInt 1).natAbs < 2 ^ 64
  rows : 8 * (f.height.toInt * max scale.toInt 1).natAbs ≤ 2 ^ 48
  octets : 4 * (f.width.toInt * max scale.toInt 1).natAbs * (f.height.toInt * max scale.toInt 1).natAbs ≤ 2 ^ 48

theorem toInt_side (scale : Int64) : (side scale).toInt = max scale.toInt 1 := by
  have one : (1 : Int64).toInt = 1 := by decide
  unfold side
  split
  · rename_i small
    rw [Int64.lt_iff_toInt_lt, one] at small
    omega
  · rename_i large
    rw [Int64.lt_iff_toInt_lt, one] at large
    omega

/-- A side whose octets can be counted is not wrapped. -/
theorem toInt_mul_side {size scale : Int64} (range : 4 * (size.toInt * max scale.toInt 1).natAbs < 2 ^ 64) :
    (size * side scale).toInt = size.toInt * max scale.toInt 1 := by
  rw [Int64.toInt_mul, toInt_side]
  apply Int.bmod_eq_of_le <;> omega

/-- A canvas that can be had is painted on. -/
theorem render_eq_ok {f : Frame} {scale : Int64} (fits : Representable f scale) (p : Palette) :
    render f p scale = .ok
      (painted f p (f.width.toInt * max scale.toInt 1) (f.height.toInt * max scale.toInt 1) (max scale.toInt 1)) := by
  have width := toInt_mul_side fits.row
  have height : (f.height * side scale).toInt = f.height.toInt * max scale.toInt 1 := by
    apply toInt_mul_side
    have rows := fits.rows
    omega
  have canvas : HasCanvas (f.width * side scale) (f.height * side scale) := by
    constructor
    · rw [width]
      exact fits.row
    · rw [height]
      exact fits.rows
    · rw [width, height]
      exact fits.octets
  rw [render_of_hasCanvas canvas, width, height, toInt_side]

/-- The colour of a digit. -/
def colour (p : Palette) (digit : UInt8) : Rgb :=
  match p.lookup? digit with
  | some e => ⟨e.red, e.green, e.blue⟩
  | none => .black

/-- The colour at a pixel of the plane on which the cells of a frame are laid out with squares of a side. -/
def shown (f : Frame) (p : Palette) (side px py : Int) : Rgb :=
  ((f.cell? (px / side) (py / side)).map (colour p)).getD .black

theorem ink_or_black (p : Palette) (digit? : Option UInt8) :
    (digit?.bind (ink p)).or (some (Pixel.solid .black)) = some (.solid ((digit?.map (colour p)).getD .black)) := by
  cases digit? with
  | none => rfl
  | some digit =>
    simp only [Option.bind_some, Option.map_some, Option.getD_some, ink]
    unfold colour
    cases p.lookup? digit <;> rfl

/-- The pixels of a rendered frame, in coordinates from the corner where the cells begin. -/
theorem get?_render {f : Frame} {scale : Int64} {g : Grid Pixel} (fits : Representable f scale)
    (drawn : render f p scale = .ok g) :
    let side := max scale.toInt 1
    let width := f.width.toInt * side
    let height := f.height.toInt * side
    g.width = width.natAbs ∧ g.height = height.natAbs ∧
      ∀ i j : Nat, i < g.width → j < g.height →
        g.get? i j = some (.solid (shown f p side (i + min 0 width) (j + min 0 height))) := by
  intro side width height
  rw [render_eq_ok fits, painted] at drawn
  cases drawn
  have pos : 0 < side.toNat := by omega
  obtain ⟨wide, high⟩ := size_paintRows (p := p) (l := ⟨(-width).toNat, (-height).toNat, side.toNat⟩)
    (g := Grid.ofFn width.natAbs height.natAbs fun _ _ => Pixel.solid .black) 0 f.rows
  refine ⟨wide, high, fun i j hi hj => ?_⟩
  rw [wide] at hi
  rw [high] at hj
  have canvas : (Grid.ofFn width.natAbs height.natAbs fun _ _ => Pixel.solid .black).get? i j = some (.solid .black) := by
    rw [Grid.get?_ofFn, if_pos ⟨hi, hj⟩]
  have cell : (itemAt? f.rows (((j : Int) - (-height).toNat) / side.toNat - (0 : Nat))).bind
      (itemAt? · (((i : Int) - (-width).toNat) / side.toNat)) =
      f.cell? ((i + min 0 width) / side) ((j + min 0 height) / side) := by
    have across : (i : Int) - (-width).toNat = i + min 0 width := by omega
    have down : (j : Int) - (-height).toNat = j + min 0 height := by omega
    have edge : (side.toNat : Int) = side := by omega
    rw [Frame.cell?, across, down, edge, Int.natCast_zero, Int.sub_zero]
  rw [get?_paintRows (l := ⟨(-width).toNat, (-height).toNat, side.toNat⟩) pos hi hj, canvas, Lattice.row, Lattice.column, cell,
    ink_or_black]
  rfl

/-- A pixel of the canvas lies in the square of a cell within the size of the frame, or to the left of all cells or above
them. -/
theorem cell_of_pixel {size side : Int} (pos : 0 < side) {i : Nat} (inside : i < (size * side).natAbs) :
    (i + min 0 (size * side)) / side < 0 ∨ 0 ≤ (i + min 0 (size * side)) / side ∧ (i + min 0 (size * side)) / side < size := by
  rcases Int.lt_or_le (i + min 0 (size * side)) 0 with before | after
  · exact Or.inl (Int.ediv_neg_of_neg_of_pos before pos)
  · refine Or.inr ⟨Int.ediv_nonneg after pos.le, ?_⟩
    rw [Int.ediv_lt_iff_lt_mul pos]
    omega

/-- **A preview shows the cells.** On a canvas that can be had, every pixel is opaque and has the colour of the cell that its
coordinates, divided by the scale in effect, point to, and black if there is no such row or cell or its digit is
unknown. Coordinates count from the corner where the cells begin, so that they are negative on a canvas of
negative size. Cells outside the size of the frame do not matter: other rows with the same cells within it give
the same picture. -/
theorem render_shows_cells (f : Frame) (p : Palette) (scale : Int64) (fits : Representable f scale) :
    let side := max scale.toInt 1
    let width := f.width.toInt * side
    let height := f.height.toInt * side
    ∃ g : Grid Pixel, render f p scale = .ok g ∧ g.width = width.natAbs ∧ g.height = height.natAbs ∧
      (∀ px py : Int, min 0 width ≤ px → px < max 0 width → min 0 height ≤ py → py < max 0 height →
        g.get? (px - min 0 width).toNat (py - min 0 height).toNat = some ⟨shown f p side px py, 255⟩) ∧
      ∀ rows : List Octets,
        (∀ x y : Int, 0 ≤ x → x < f.width.toInt → 0 ≤ y → y < f.height.toInt →
          Frame.cell? { f with rows } x y = f.cell? x y) →
        render { f with rows } p scale = .ok g := by
  intro side width height
  have pos : 0 < side := by omega
  obtain ⟨g, drawn⟩ : ∃ g, render f p scale = .ok g := ⟨_, render_eq_ok fits p⟩
  obtain ⟨wide, high, pixels⟩ : g.width = width.natAbs ∧ g.height = height.natAbs ∧ _ := get?_render fits drawn
  refine ⟨g, drawn, wide, high, ?_, ?_⟩
  · intro px py left right top bottom
    have across : ((px - min 0 width).toNat : Int) + min 0 width = px := by omega
    have down : ((py - min 0 height).toNat : Int) + min 0 height = py := by omega
    have pixel := pixels (px - min 0 width).toNat (py - min 0 height).toNat (by omega) (by omega)
    rw [across, down] at pixel
    exact pixel
  · intro rows same
    have fits' : Representable { f with rows } scale := ⟨fits.row, fits.rows, fits.octets⟩
    obtain ⟨g', drawn'⟩ : ∃ g', render { f with rows } p scale = .ok g' := ⟨_, render_eq_ok fits' p⟩
    obtain ⟨wide', high', pixels'⟩ := get?_render fits' drawn'
    change g'.width = width.natAbs at wide'
    change g'.height = height.natAbs at high'
    rw [drawn', Grid.ext_get? (wide'.trans wide.symm) (high'.trans high.symm)]
    intro i j hi hj
    rw [pixels' i j hi hj, pixels i j (by omega) (by omega), shown, shown]
    -- Within the size the cells are the same, and at negative places there are none.
    rcases cell_of_pixel pos (wide' ▸ hi) with before | ⟨left, right⟩
    · rw [Frame.cell?_of_neg _ (Or.inl before), Frame.cell?_of_neg _ (Or.inl before)]
    rcases cell_of_pixel pos (high' ▸ hj) with above | ⟨top, bottom⟩
    · rw [Frame.cell?_of_neg _ (Or.inr above), Frame.cell?_of_neg _ (Or.inr above)]
    · rw [same _ _ left right top bottom]

/-- A frame of two by two cells whose rows do not have this size: a cell too many with an unknown one before it, and a
cell too few. -/
def ragged : Frame := ⟨2, 2, [[0x62, 0x7A, 0x65], [0x30]]⟩

theorem render_shows_cells_ragged :
    Representable ragged 3 ∧ ∃ g : Grid Pixel, render ragged Palette.standard 3 = .ok g ∧ g.width = 6 ∧ g.height = 6 ∧
      g.get? 1 2 = some ⟨⟨51, 76, 178⟩, 255⟩ ∧ g.get? 3 0 = some ⟨⟨0, 0, 0⟩, 255⟩ ∧
      g.get? 2 5 = some ⟨⟨240, 240, 240⟩, 255⟩ ∧ g.get? 5 3 = some ⟨⟨0, 0, 0⟩, 255⟩ ∧
      render { ragged with rows := [[0x62, 0x7A], [0x30], [0x31, 0x31]] } Palette.standard 3 = .ok g := by
  have fits : Representable ragged 3 := ⟨by decide, by decide, by decide⟩
  obtain ⟨g, drawn, wide, high, pixels, same⟩ := render_shows_cells ragged Palette.standard 3 fits
  refine ⟨fits, g, drawn, wide, high, ?_, ?_, ?_, ?_, same _ ?_⟩
  · exact pixels 1 2 (by decide) (by decide) (by decide) (by decide)
  · exact pixels 3 0 (by decide) (by decide) (by decide) (by decide)
  · exact pixels 2 5 (by decide) (by decide) (by decide) (by decide)
  · exact pixels 5 3 (by decide) (by decide) (by decide) (by decide)
  · intro x y left right top bottom
    have width : ragged.width.toInt = 2 := by decide
    have height : ragged.height.toInt = 2 := by decide
    obtain rfl | rfl : x = 0 ∨ x = 1 := by omega
    · obtain rfl | rfl : y = 0 ∨ y = 1 := by omega
      · rfl
      · rfl
    · obtain rfl | rfl : y = 0 ∨ y = 1 := by omega
      · rfl
      · rfl

end Preview

end BlitReel
