import Mathlib
import BlitReel.Picture.Resample
import BlitReel.Proofs.Geometry
import BlitReel.Proofs.Picture.Canvas
import BlitReel.Proofs.Picture.Grid

/-!
# Pictures as raw frames

Whatever its size, a picture is drawn on the grid that is asked for, and its colours are laid out row by row with three
octets to a cell (`Grid.slice_pixels`). So it fills exactly one raw frame of a checked geometry (`Picture.toRgb_eq`,
`Picture.length_drawn`).
-/

namespace BlitReel

namespace Grid

variable {α : Type}

/-- The rows of a grid, one after the other, are its cells. -/
theorem rows_eq (g : Grid α) : ((List.range g.height).flatMap fun y => (g.row y).toList) = g.cells.toList := by
  have upTo (n : Nat) (le : n ≤ g.height) :
      ((List.range n).flatMap fun y => (g.row y).toList) = g.cells.toList.take (n * g.width) := by
    induction n with
    | zero => simp
    | succ n ih =>
      rw [List.range_succ, List.flatMap_append, ih (by omega), List.flatMap_singleton, row, Array.toList_extract,
        List.extract_eq_take_drop, ← Nat.sub_mul, Nat.add_sub_cancel_left, Nat.one_mul, Nat.succ_mul, List.take_add]
  rw [upTo g.height le_rfl, List.take_of_length_le]
  rw [Array.length_toList, g.size_eq, Nat.mul_comm]

theorem pixels_eq (g : Grid Rgb) : g.pixels = g.cells.toList.flatMap Rgb.octets := by
  rw [pixels, ← rows_eq, List.flatMap_assoc]

theorem length_flatMap_octets (cs : List Rgb) : (cs.flatMap Rgb.octets).length = cs.length * 3 := by
  induction cs with
  | nil => rfl
  | cons c cs ih =>
    rw [List.flatMap_cons, List.length_append, ih, List.length_cons, Rgb.octets]
    simp only [List.length_cons, List.length_nil]
    omega

theorem slice_flatMap_octets {cs : List Rgb} {i : Nat} {c : Rgb} (found : cs[i]? = some c) :
    ((cs.flatMap Rgb.octets).drop (i * 3)).take 3 = c.octets := by
  induction cs generalizing i with
  | nil => cases found
  | cons d cs ih =>
    cases i with
    | zero =>
      cases found
      rfl
    | succ i =>
      rw [← ih found, Nat.succ_mul, Nat.add_comm, ← List.drop_drop]
      rfl

theorem length_pixels (g : Grid Rgb) : g.pixels.length = g.width * g.height * 3 := by
  rw [pixels_eq, length_flatMap_octets, Array.length_toList, g.size_eq]

/-- The colour in a column and row stands at its place among the raw pixels. -/
theorem slice_pixels {g : Grid Rgb} {x y : Nat} {c : Rgb} (found : g.get? x y = some c) :
    (g.pixels.drop ((y * g.width + x) * 3)).take 3 = [c.r, c.g, c.b] := by
  rw [get?] at found
  split at found
  · rw [pixels_eq]
    exact slice_flatMap_octets (by simpa using found)
  · cases found

theorem exists_get? (g : Grid α) {x y : Nat} (column : x < g.width) (row : y < g.height) : ∃ a, g.get? x y = some a := by
  rw [get?, if_pos ⟨column, row⟩, ← Option.isSome_iff_exists]
  simpa [g.size_eq] using index_lt column row

end Grid

namespace Lanczos

theorem size_resize (g : Grid Shade) (width height : Nat) :
    (resize g width height).width = width ∧ (resize g width height).height = height := by
  unfold resize
  split
  · rename_i same
    simpa using same
  split
  · rename_i wide
    exact ⟨beq_iff_eq.1 wide, rfl⟩
  split
  · rename_i high
    exact ⟨rfl, beq_iff_eq.1 high⟩
  · exact ⟨rfl, rfl⟩

end Lanczos

namespace Picture

theorem size_drawn (p : Picture) (width height : Nat) :
    (p.drawn width height).width = width ∧ (p.drawn width height).height = height := by
  unfold drawn
  split
  · exact ⟨rfl, rfl⟩
  · exact Lanczos.size_resize _ width height

/-- On a checked geometry every picture is brought to the size of the grid. -/
theorem toRgb_eq (p : Picture) {g : Geometry} (sound : g.Sound) :
    p.toRgb g = .ok (p.drawn g.width.toInt.toNat g.height.toInt.toNat).pixels := by
  have zero : (0 : Int64).toInt = 0 := rfl
  have wide := sound.width_pos
  have high := sound.height_pos
  have area : (g.width.toInt.natAbs * g.height.toInt.natAbs : Int) = g.width.toInt * g.height.toInt := by
    rw [Int.natAbs_of_nonneg wide.le, Int.natAbs_of_nonneg high.le]
  have size : checkSize g.width g.height = .ok () := by
    have narrow := sound.width_le
    have cells := sound.cells
    rw [checkSize_eq_ok_iff, Nat.mul_assoc]
    refine ⟨?_, ?_, ?_⟩ <;> omega
  have counted : ¬ g.frameSize < 0 := by
    rw [Int64.lt_iff_toInt_lt, zero, ← sound.natCast_octets]
    omega
  have full : ¬ (g.width ≤ 0 || g.height ≤ 0) = true := by
    rw [Bool.or_eq_true, decide_eq_true_eq, decide_eq_true_eq, Int64.le_iff_toInt_le, Int64.le_iff_toInt_le, zero]
    omega
  rw [toRgb, size]
  simp only [bind, Except.bind, if_neg counted, if_neg full]
  rfl

/-- So it fills exactly one raw frame. -/
theorem length_drawn (p : Picture) {g : Geometry} (sound : g.Sound) :
    (p.drawn g.width.toInt.toNat g.height.toInt.toNat).pixels.length = g.octets := by
  obtain ⟨width, height⟩ := p.size_drawn g.width.toInt.toNat g.height.toInt.toNat
  rw [Grid.length_pixels, width, height, ← sound.octets_eq]

end Picture

end BlitReel
