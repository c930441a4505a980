import Mathlib
import BlitReel.Geometry

/-!
# Checked geometries

A geometry that passes its check has two positive sides and at most `2 ^ 24` cells as whole numbers,
so that the wrapping products of the definitions are the true ones.
-/

namespace BlitReel.Geometry

/-- The true number of octets of a raw frame. -/
def octets (g : Geometry) : Nat := g.frameSize.toInt.toNat

/-- Both sides are positive and the true number of cells is within the bound. -/
structure Sound (g : Geometry) : Prop where
  width_pos : 0 < g.width.toInt
  height_pos : 0 < g.height.toInt
  cells : g.width.toInt * g.height.toInt ≤ 16777216

theorem toInt_maxCells_div {h : Int64} (pos : 0 < h.toInt) : (maxCells / h).toInt = 16777216 / h.toInt := by
  have nonneg : (0 : Int) ≤ 16777216 / h.toInt := Int.ediv_nonneg (by decide) (by omega)
  have small : (16777216 : Int) / h.toInt ≤ 16777216 := Int.ediv_le_self _ (by decide)
  have whole : maxCells.toInt = 16777216 := by decide
  rw [Int64.toInt_div, whole, Int.tdiv_eq_ediv_of_nonneg (by decide)]
  exact Int.bmod_eq_of_le (by omega) (by omega)

/-- The check is exactly soundness. -/
theorem check_eq_ok_iff {g : Geometry} : g.check = .ok () ↔ g.Sound := by
  have zero : (0 : Int64).toInt = 0 := by decide
  unfold check
  constructor
  · intro h
    split at h <;> rename_i hw
    · cases h
    split at h <;> rename_i hh
    · cases h
    split at h <;> rename_i hc
    · cases h
    rw [Int64.le_iff_toInt_le, zero] at hw hh
    rw [gt_iff_lt, Int64.lt_iff_toInt_lt, toInt_maxCells_div (by omega)] at hc
    exact ⟨by omega, by omega, Int.mul_le_of_le_ediv (by omega) (by omega)⟩
  · intro h
    have hw := h.width_pos
    have hh := h.height_pos
    have bound := (Int.le_ediv_iff_mul_le hh).2 h.cells
    rw [if_neg (by rw [Int64.le_iff_toInt_le, zero]; omega),
      if_neg (by rw [Int64.le_iff_toInt_le, zero]; omega),
      if_neg (by rw [gt_iff_lt, Int64.lt_iff_toInt_lt, toInt_maxCells_div hh]; omega)]

theorem validate_eq_ok_iff {g : Geometry} : g.validate = .ok () ↔ g.Sound := by
  rw [← check_eq_ok_iff, validate]
  cases g.check <;> simp [Except.mapError]

namespace Sound

variable {g : Geometry} (h : g.Sound)

include h

theorem width_le : g.width.toInt ≤ 16777216 := by
  have := h.cells
  have := h.width_pos
  have := h.height_pos
  nlinarith

theorem height_le : g.height.toInt ≤ 16777216 := by
  have := h.cells
  have := h.width_pos
  have := h.height_pos
  nlinarith

theorem cells_pos : 0 < g.width.toInt * g.height.toInt := Int.mul_pos h.width_pos h.height_pos

theorem toInt_frameSize : g.frameSize.toInt = g.width.toInt * g.height.toInt * 3 := by
  have pos := h.cells_pos
  have bound := h.cells
  have three : (3 : Int64).toInt = 3 := by decide
  have area : (g.width * g.height).toInt = g.width.toInt * g.height.toInt := by
    rw [Int64.toInt_mul]
    exact Int.bmod_eq_of_le (by omega) (by omega)
  rw [frameSize, Int64.toInt_mul, area, three]
  exact Int.bmod_eq_of_le (by omega) (by omega)

theorem octets_eq : g.octets = g.width.toInt.toNat * g.height.toInt.toNat * 3 := by
  have hw := h.width_pos
  have hh := h.height_pos
  rw [octets, h.toInt_frameSize, Int.toNat_mul (by positivity) (by decide), Int.toNat_mul (by omega) (by omega)]
  rfl

theorem three_le_octets : 3 ≤ g.octets := by
  rw [octets, h.toInt_frameSize]
  have := h.cells_pos
  omega

theorem octets_pos : 0 < g.octets := Nat.lt_of_lt_of_le (by decide) h.three_le_octets

theorem octets_le : g.octets ≤ 50331648 := by
  rw [octets, h.toInt_frameSize]
  have := h.cells
  omega

theorem natCast_octets : (g.octets : Int) = g.frameSize.toInt := by
  have := h.cells_pos
  rw [octets, h.toInt_frameSize]
  omega

/-- The room for two frames can be counted. -/
theorem toInt_frameSize_double : (g.frameSize * 2).toInt = g.frameSize.toInt * 2 := by
  have size := h.natCast_octets
  have le := h.octets_le
  have two : (2 : Int64).toInt = 2 := by decide
  rw [Int64.toInt_mul, two]
  exact Int.bmod_eq_of_le (by omega) (by omega)

end Sound

end BlitReel.Geometry
