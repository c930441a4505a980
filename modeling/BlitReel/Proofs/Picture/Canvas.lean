import Mathlib
import BlitReel.Preview

/-!
# When a canvas can be had

The sides of a canvas are words of 64 bits, and a negative one counts as far as the positive one. A picture of that size
can be had if the octets of a row can be counted and all octets can be allocated (`Picture.checkSize_eq_ok_iff`), and a
canvas to paint on needs an index of its rows besides (`Preview.HasCanvas`). Drawing a preview fails exactly where
there is no canvas (`Preview.render_eq_error_iff`).
-/

namespace BlitReel

namespace Picture

/-- A side is counted from its start, but the lowest word has no counterpart. -/
theorem toInt_extent {side : Int64} (ordinary : side.toInt ≠ -2 ^ 63) : (extent side).toInt = side.toInt.natAbs := by
  have zero : (0 : Int64).toInt = 0 := by decide
  have low := side.le_toInt
  have high := side.toInt_lt
  unfold extent
  split
  · rename_i negative
    rw [Int64.lt_iff_toInt_lt, zero] at negative
    rw [Int64.toInt_neg, Int.bmod_eq_of_le] <;> omega
  · rename_i positive
    rw [Int64.lt_iff_toInt_lt, zero] at positive
    omega

theorem extent_neg_iff {side : Int64} : extent side < 0 ↔ side.toInt = -2 ^ 63 := by
  have zero : (0 : Int64).toInt = 0 := by decide
  constructor
  · intro negative
    by_contra ordinary
    rw [Int64.lt_iff_toInt_lt, zero, toInt_extent ordinary] at negative
    omega
  · intro lowest
    obtain rfl : side = Int64.minValue := Int64.toInt_inj.1 lowest
    decide

/-- A picture can be had if its sides are no lowest words, the octets of a row can be counted and all octets can be
allocated. -/
theorem checkSize_eq_ok_iff {width height : Int64} :
    checkSize width height = .ok () ↔ height.toInt ≠ -2 ^ 63 ∧ 4 * width.toInt.natAbs < 2 ^ 64 ∧
      4 * width.toInt.natAbs * height.toInt.natAbs ≤ 2 ^ 48 := by
  have counted : maxImage = 2 ^ 63 - 1 := by decide
  have allocated : maxAllocation = 2 ^ 48 := by decide
  have lined : maxRow = 2 ^ 64 - 1 := by decide
  unfold checkSize
  dsimp only
  simp only [counted, allocated, lined, extent_neg_iff]
  by_cases lowest : width.toInt = -2 ^ 63 ∨ height.toInt = -2 ^ 63
  · rw [if_pos (by tauto)]
    simp only [reduceCtorEq, false_iff]
    omega
  · rw [not_or] at lowest
    have octets : 4 * (width.toInt.natAbs : Int) * height.toInt.natAbs =
        (4 * width.toInt.natAbs * height.toInt.natAbs : Nat) := by push_cast; rfl
    rw [toInt_extent lowest.1, toInt_extent lowest.2, octets]
    split
    · simp only [reduceCtorEq, false_iff]
      omega
    split
    · simp only [reduceCtorEq, false_iff]
      omega
    · simp only [true_iff]
      omega

end Picture

namespace Preview

/-- A canvas with these sides can be had: the octets of a row can be counted, and the index of the rows and all octets
can be allocated. -/
structure HasCanvas (width height : Int64) : Prop where
  row : 4 * width.toInt.natAbs < 2 ^ 64
  rows : 8 * height.toInt.natAbs ≤ 2 ^ 48
  octets : 4 * width.toInt.natAbs * height.toInt.natAbs ≤ 2 ^ 48

instance (width height : Int64) : Decidable (HasCanvas width height) :=
  decidable_of_iff (4 * width.toInt.natAbs < 2 ^ 64 ∧ 8 * height.toInt.natAbs ≤ 2 ^ 48 ∧
      4 * width.toInt.natAbs * height.toInt.natAbs ≤ 2 ^ 48)
    ⟨fun ⟨row, rows, octets⟩ => ⟨row, rows, octets⟩, fun h => ⟨h.row, h.rows, h.octets⟩⟩

theorem checkRows_eq_ok_iff {height : Int64} (ordinary : height.toInt ≠ -2 ^ 63) :
    checkRows height = .ok () ↔ 8 * height.toInt.natAbs ≤ 2 ^ 48 := by
  have allocated : maxAllocation = 2 ^ 48 := by decide
  unfold checkRows rowIndexSize
  rw [allocated, Picture.toInt_extent ordinary]
  split
  · simp only [reduceCtorEq, false_iff]
    omega
  · simp only [true_iff]
    omega

/-- Both checks of a canvas pass exactly if it can be had. -/
theorem hasCanvas_iff {width height : Int64} :
    HasCanvas width height ↔ Picture.checkSize width height = .ok () ∧ checkRows height = .ok () := by
  rw [Picture.checkSize_eq_ok_iff]
  constructor
  · rintro ⟨row, rows, octets⟩
    have ordinary : height.toInt ≠ -2 ^ 63 := by omega
    exact ⟨⟨ordinary, row, octets⟩, (checkRows_eq_ok_iff ordinary).2 rows⟩
  · rintro ⟨⟨ordinary, row, octets⟩, indexed⟩
    exact ⟨row, (checkRows_eq_ok_iff ordinary).1 indexed, octets⟩

/-- The number of pixels to a side of a cell: the scale, but one at least. -/
def side (scale : Int64) : Int64 := if scale < 1 then 1 else scale

/-- The cells of a frame painted on a black canvas of sides that may be negative. -/
def painted (f : Frame) (p : Palette) (width height side : Int) : Grid Pixel :=
  paintRows p ⟨(-width).toNat, (-height).toNat, side.toNat⟩ 0 f.rows
    (Grid.ofFn width.natAbs height.natAbs fun _ _ => Pixel.solid .black)

/-- A frame is painted once both checks of its canvas have passed. -/
theorem render_eq (f : Frame) (p : Palette) (scale : Int64) :
    render f p scale = (Picture.checkSize (f.width * side scale) (f.height * side scale)).bind fun _ =>
      (checkRows (f.height * side scale)).bind fun _ =>
        .ok (painted f p (f.width * side scale).toInt (f.height * side scale).toInt (side scale).toInt) := rfl

theorem render_of_hasCanvas {f : Frame} {scale : Int64}
    (canvas : HasCanvas (f.width * side scale) (f.height * side scale)) (p : Palette) :
    render f p scale =
      .ok (painted f p (f.width * side scale).toInt (f.height * side scale).toInt (side scale).toInt) := by
  obtain ⟨size, rows⟩ := hasCanvas_iff.1 canvas
  rw [render_eq, size, rows]
  rfl

/-- A frame cannot be drawn exactly if there is no canvas for it. -/
theorem render_eq_error_iff (f : Frame) (p : Palette) (scale : Int64) :
    (∃ e, render f p scale = .error e) ↔ ¬ HasCanvas (f.width * side scale) (f.height * side scale) := by
  constructor
  · rintro ⟨e, fails⟩ canvas
    rw [render_of_hasCanvas canvas] at fails
    cases fails
  · intro none
    rw [hasCanvas_iff] at none
    rw [render_eq]
    cases size : Picture.checkSize (f.width * side scale) (f.height * side scale) with
    | error e => exact ⟨e, rfl⟩
    | ok u =>
      cases rows : checkRows (f.height * side scale) with
      | error e => exact ⟨e, rfl⟩
      | ok u => exact absurd ⟨size, rows⟩ none

end Preview

end BlitReel
