import Mathlib
import BlitReel.Number.Binary64

/-!
# Doubles that compare

A double that is greater than another one is a number. With `isInfinite` excluded it is finite, so it
has a spelling.
-/

namespace BlitReel.Binary64

open Float.Model

theorem shape_eq_nan {x : Float} (h : shape x = .nan) :
    x.toBits.toNat >>> 52 % 2048 = 2047 ∧ x.toBits.toNat % 0x10000000000000 ≠ 0 := by
  unfold shape at h
  dsimp only at h
  split at h <;> rename_i biased
  · split at h <;> rename_i fraction
    · cases h
    · exact ⟨by simpa using biased, by simpa using fraction⟩
  · split at h <;> cases h

theorem unpack_nan {x : Float} (h : shape x = .nan) : x.toModel.unpack = .notANumber := by
  obtain ⟨biased, fraction⟩ := shape_eq_nan h
  have exponent : @UnpackedFloat.unpackExponent Format.binary64 x.toModel.toBits.toBitVec = -1#_ := by
    apply BitVec.eq_of_toNat_eq
    simpa [UnpackedFloat.unpackExponent, Float.toBits] using biased
  have mantissa : @UnpackedFloat.unpackMantissa Format.binary64 x.toModel.toBits.toBitVec ≠ 0#_ := by
    intro zero
    have value := congrArg BitVec.toNat zero
    exact fraction (by simpa [UnpackedFloat.unpackMantissa, Float.toBits] using value)
  rw [Float.Model.unpack, UnpackedFloat.unpack]
  simp only [exponent, mantissa, ↓reduceIte]

theorem not_lt_nan {x y : Float} (h : shape x = .nan) : ¬ y < x := by
  intro lt
  have below : y.toModel.unpack.lt x.toModel.unpack = true :=
    @of_decide_eq_true (y.toModel < x.toModel) _ lt
  rw [unpack_nan h] at below
  cases unpacked : y.toModel.unpack <;> simp [unpacked, UnpackedFloat.lt, UnpackedFloat.compare] at below

theorem isFinite_of_gt {x y : Float} (gt : x > y) (bounded : isInfinite x = false) : isFinite x = true := by
  unfold isInfinite at bounded
  unfold isFinite
  cases form : shape x with
  | nan => exact absurd gt (not_lt_nan form)
  | infinite negative => simp [form] at bounded
  | finite negative m e => rfl

end BlitReel.Binary64
