import Mathlib
import BlitReel.Proofs.Assembler
import BlitReel.Proofs.Frame.Encoding
import BlitReel.Proofs.Settings

/-!
# Offsets that do not wrap

The check of a geometry is exact, although it divides and never forms the product of the sides, and settings are
checked along the same line. For what passes, the size of a frame and its double are the true ones, and so is the
offset of every octet (`Sound.toInt_offset`), which lies within the frame.
-/

namespace BlitReel

namespace Geometry

/-- A geometry is only ever refused as an option. -/
theorem cause_of_validate {g : Geometry} {f : Failure} (refused : g.validate = .error f) :
    f.cause = .invalidOptions := by
  unfold validate at refused
  cases checked : g.check with
  | ok u => simp [checked, Except.mapError] at refused
  | error fault =>
    rw [checked] at refused
    cases refused
    rfl

namespace Sound

variable {g : Geometry} (h : g.Sound)

include h

/-- The number of a cell, counted row by row, is below the number of cells. -/
theorem cell_lt {y x : Int} (row : y < g.height.toInt) (column : x < g.width.toInt) :
    y * g.width.toInt + x < g.width.toInt * g.height.toInt := by
  have rows := Int.mul_le_mul_of_nonneg_right (Int.add_one_le_of_lt row) (Int.le_of_lt h.width_pos)
  rw [Int.add_mul, Int.one_mul, Int.mul_comm g.height.toInt] at rows
  omega

/-- The offset of the last octet of a cell is computed without wrapping. -/
theorem toInt_offset {y x : Int64} (low : 0 ≤ y) (row : y < g.height) (left : 0 ≤ x) (column : x < g.width) :
    ((y * g.width + x) * 3 + 2).toInt = (y.toInt * g.width.toInt + x.toInt) * 3 + 2 := by
  rw [Int64.le_iff_toInt_le, show (0 : Int64).toInt = 0 from rfl] at low left
  rw [Int64.lt_iff_toInt_lt] at row column
  have cells := h.cells
  have inside := h.cell_lt row column
  have start : 0 ≤ y.toInt * g.width.toInt := Int.mul_nonneg low (Int.le_of_lt h.width_pos)
  have rows : (y * g.width).toInt = y.toInt * g.width.toInt := by
    rw [Int64.toInt_mul]
    exact Int.bmod_eq_of_le (by omega) (by omega)
  have cell : (y * g.width + x).toInt = y.toInt * g.width.toInt + x.toInt := by
    rw [Int64.toInt_add, rows]
    exact Int.bmod_eq_of_le (by omega) (by omega)
  have two : (2 : Int64).toInt = 2 := rfl
  rw [Frame.toInt_offset (by omega) (by decide) (by omega), cell, two]

theorem offset_lt {y x : Int64} (low : 0 ≤ y) (row : y < g.height) (left : 0 ≤ x) (column : x < g.width) :
    (y * g.width + x) * 3 + 2 < g.frameSize := by
  have offset := h.toInt_offset low row left column
  rw [Int64.lt_iff_toInt_lt] at row column
  have inside := h.cell_lt row column
  rw [Int64.lt_iff_toInt_lt, offset, h.toInt_frameSize]
  omega

/-- So the octet is there in every raw frame of the right size. -/
theorem octetAt_offset {y x : Int64} (low : 0 ≤ y) (row : y < g.height) (left : 0 ≤ x) (column : x < g.width)
    {pix : ByteArray} (full : (pix.size : Int) = g.frameSize.toInt) :
    ∃ b, Frame.octetAt pix ((y * g.width + x) * 3 + 2).toInt = .ok b := by
  have offset := h.toInt_offset low row left column
  have inside := Int64.lt_iff_toInt_lt.1 (h.offset_lt low row left column)
  rw [Int64.le_iff_toInt_le, show (0 : Int64).toInt = 0 from rfl] at low left
  have start : 0 ≤ y.toInt * g.width.toInt := Int.mul_nonneg low (Int.le_of_lt h.width_pos)
  exact Frame.octetAt_ok (by omega) (by omega)

end Sound

end Geometry

/-- Settings are refused for their grid by the check of the grid itself. -/
theorem Settings.check_eq_geometry_iff {s : Settings} {f : Geometry.Fault} :
    s.check = .error (.geometry f) ↔ s.geometry.check = .error f := by
  unfold check
  cases grid : s.geometry.check with
  | error f' => simp [Except.mapError, bind, Except.bind]
  | ok u =>
    -- what is checked after the grid has faults of its own
    simp only [Except.mapError, bind, Except.bind, throw, throwThe, MonadExceptOf.throw, pure, Except.pure,
      reduceCtorEq, iff_false]
    intro refused
    split at refused
    · cases refused
    · split at refused
      · split at refused
        · cases refused
        · split at refused <;> cases refused
      · split at refused <;> cases refused

namespace Geometry

/-- **The check of a geometry is exact.** It accepts the sides that are positive and have a product of at most `2 ^ 24`
as whole numbers, and refuses all others as options; settings are refused for their grid in the same cases and by the
same fault. For a geometry that is accepted no product wraps: the size of a frame is the true one, an assembler is made
for it with twice its room, and the last octet of every cell has an offset within it. -/
theorem validate_exact (g : Geometry) :
    (g.validate = .ok () ↔ 1 ≤ g.width.toInt ∧ 1 ≤ g.height.toInt ∧ g.width.toInt * g.height.toInt ≤ 2 ^ 24) ∧
    (∀ f, g.validate = .error f → f.cause = .invalidOptions) ∧
    (∀ s : Settings, s.geometry = g →
      (∀ f, s.check = .error (.geometry f) ↔ g.check = .error f) ∧
      (s.validate = .ok () ↔ g.validate = .ok () ∧ Settings.isRate s.fps = true ∧ s.Counts)) ∧
    (g.validate = .ok () →
      g.frameSize.toInt = 3 * g.width.toInt * g.height.toInt ∧
      (g.frameSize * 2).toInt = 2 * g.frameSize.toInt ∧
      (∃ a, Assembler.new g.frameSize = .ok a ∧ (a.frameSize : Int) = g.frameSize.toInt) ∧
      ∀ y x : Int64, 0 ≤ y → y < g.height → 0 ≤ x → x < g.width →
        ((y * g.width + x) * 3 + 2).toInt = (y.toInt * g.width.toInt + x.toInt) * 3 + 2 ∧
        (y * g.width + x) * 3 + 2 < g.frameSize ∧
        ∀ pix : ByteArray, (pix.size : Int) = g.frameSize.toInt →
          ∃ b, Frame.octetAt pix ((y * g.width + x) * 3 + 2).toInt = .ok b) := by
  refine ⟨?_, fun f => cause_of_validate, ?_, ?_⟩
  · rw [validate_eq_ok_iff]
    constructor
    · intro sound
      exact ⟨sound.width_pos, sound.height_pos, sound.cells⟩
    · rintro ⟨width, height, cells⟩
      exact ⟨width, height, cells⟩
  · rintro s rfl
    refine ⟨fun f => Settings.check_eq_geometry_iff, ?_⟩
    rw [Settings.validate_eq_ok_iff, validate_eq_ok_iff]
  · intro valid
    have sound := validate_eq_ok_iff.1 valid
    refine ⟨?_, ?_, ⟨_, Assembler.new_ok sound, sound.natCast_octets⟩, ?_⟩
    · rw [sound.toInt_frameSize]
      ring
    · rw [sound.toInt_frameSize_double]
      ring
    · intro y x low row left column
      exact ⟨sound.toInt_offset low row left column, sound.offset_lt low row left column,
        fun pix full => sound.octetAt_offset low row left column full⟩

/-- The last cell of the largest square grid; one column more is refused. -/
theorem validate_exact_square :
    Geometry.validate ⟨4096, 4096⟩ = .ok () ∧ Geometry.validate ⟨4097, 4096⟩ ≠ .ok () ∧
      Geometry.frameSize ⟨4096, 4096⟩ = 50331648 ∧ (4095 * 4096 + 4095) * 3 + 2 < (50331648 : Int64) := by
  have valid : Geometry.validate ⟨4096, 4096⟩ = .ok () := (validate_exact ⟨4096, 4096⟩).1.2 (by decide)
  obtain ⟨size, -, -, offsets⟩ := (validate_exact ⟨4096, 4096⟩).2.2.2 valid
  have value : Geometry.frameSize ⟨4096, 4096⟩ = 50331648 := Int64.toInt_inj.1 (size.trans (by decide))
  obtain ⟨-, inside, -⟩ := offsets 4095 4095 (by decide) (by decide) (by decide) (by decide)
  refine ⟨valid, ?_, value, ?_⟩
  · intro wide
    exact absurd ((validate_exact ⟨4097, 4096⟩).1.1 wide) (by decide)
  · rwa [value] at inside

end Geometry

end BlitReel
