import Mathlib
import BlitReel.Proofs.Number.Whole

/-!
# Dividing by a count

A positive double with a leading bit is a number `m * 2 ^ e` whose mantissa `m` has 53 bits (`Led`). Its quotient by a
count is again such a number; its mantissa is that of the true quotient, rounded in the last place
(`Led.div_ofNat`). Counts up to `2 ^ 50` differ by more than two roundings can hide, so a greater count
gives a smaller quotient (`div_ofNat_lt`).
-/

namespace BlitReel.Binary64

open Float.Model
open Float.Model.UnpackedFloat

/-! Rounding. -/

theorem mantissa_ofMantissaAndAccuracy (m : Nat) (accuracy : Accuracy) :
    (ExtendedMantissa.ofMantissaAndAccuracy m accuracy).mantissa = m := by
  cases accuracy with
  | exact => rfl
  | inexact order => cases order <;> rfl

theorem mantissa_shiftRight (x : ExtendedMantissa) (k : Nat) : (x >>> k).mantissa = x.mantissa / 2 ^ k := by
  induction k with
  | zero => exact (Nat.div_one _).symm
  | succ k ih =>
    show (x >>> k).mantissa / 2 = _
    rw [ih, Nat.div_div_eq_div_mul, Nat.pow_succ]

/-- No bit is lost of a number that ends with as many zeros as it is shifted. -/
theorem shiftRight_exact (m k : Nat) :
    ExtendedMantissa.ofMantissaAndAccuracy (m * 2 ^ k) .exact >>> k = ⟨m, false, false⟩ := by
  induction k generalizing m with
  | zero =>
    rw [Nat.pow_zero, Nat.mul_one]
    rfl
  | succ k ih =>
    show (ExtendedMantissa.ofMantissaAndAccuracy (m * 2 ^ (k + 1)) .exact >>> k).shiftRightOne = _
    rw [Nat.pow_succ, Nat.mul_comm (2 ^ k), ← Nat.mul_assoc, ih (m * 2), ExtendedMantissa.shiftRightOne]
    simp

theorem roundedMantissa_bounds (x : ExtendedMantissa) :
    x.mantissa ≤ x.roundedMantissa ∧ x.roundedMantissa ≤ x.mantissa + 1 := by
  rcases x with ⟨m, half, more⟩
  cases half <;> cases more <;>
    simp [ExtendedMantissa.roundedMantissa, ExtendedMantissa.accuracy, Accuracy.roundToNearestEven]
  omega

/-- A mantissa of 53 bits and more is shifted by the bits that it has too many. -/
theorem shiftToTargetExponent_eq {p k : Nat} {e : Int} (length : p.log2 = 52 + k) (low : -1074 ≤ e + k)
    (accuracy : Accuracy) : shiftToTargetExponent Format.binary64 p e accuracy =
      (ExtendedMantissa.ofMantissaAndAccuracy p accuracy >>> k, e + k) := by
  have target : Format.binary64.targetExponent (totalExponent p e) = e + k := by
    simp [Format.targetExponent, totalExponent, Format.mantissaBits, Format.minExponent, length]
    omega
  have shift : (e + k - e).toNat = k := by omega
  rw [shiftToTargetExponent, target, shiftToExponent, shift]

/-- A mantissa of 53 bits is found again when zeros follow it. -/
theorem shiftToTargetExponent_exact {m k : Nat} {e : Int} (least : 2 ^ 52 ≤ m) (most : m < 2 ^ 53)
    (low : -1074 ≤ e + k) :
    shiftToTargetExponent Format.binary64 (m * 2 ^ k) e .exact = (⟨m, false, false⟩, e + k) := by
  have length : (m * 2 ^ k).log2 = 52 + k := by
    rw [Nat.log2_eq_iff (by positivity), Nat.pow_add, Nat.add_right_comm, Nat.pow_add]
    exact ⟨Nat.mul_le_mul_right _ least, Nat.mul_lt_mul_of_pos_right most (Nat.two_pow_pos k)⟩
  rw [shiftToTargetExponent_eq length low, shiftRight_exact]

theorem roundWithAccuracy_exact {m k : Nat} {e : Int} (least : 2 ^ 52 ≤ m) (most : m < 2 ^ 53) (low : -1074 ≤ e + k)
    (sign : Sign) (pos : 0 < m) :
    roundWithAccuracy Format.binary64 sign (m * 2 ^ k) e .exact = .finite sign m (e + k) pos := by
  have again := shiftToTargetExponent_exact (k := 0) (e := e + k) least most (by simpa using low)
  simp only [pow_zero, Nat.mul_one, Int.natCast_zero, Int.add_zero] at again
  have whole : (ExtendedMantissa.mk m false false).roundedMantissa = m := rfl
  unfold roundWithAccuracy
  rw [shiftToTargetExponent_exact least most low]
  dsimp only
  rw [whole, again]
  exact dif_neg (Nat.ne_of_gt pos)

/-- Rounding leaves a mantissa of 53 bits; one more bit carries over into the exponent. -/
theorem roundWithAccuracy_eq {p k : Nat} {e : Int} (length : p.log2 = 52 + k) (low : -1074 ≤ e + k)
    (accuracy : Accuracy) (sign : Sign) :
    ∃ m j pos, roundWithAccuracy Format.binary64 sign p e accuracy = .finite sign m (e + (j : Nat)) pos ∧
      2 ^ 52 ≤ m ∧ m < 2 ^ 53 ∧ j ≤ k + 1 ∧ p / 2 ^ k * 2 ^ k ≤ m * 2 ^ j ∧ m * 2 ^ j ≤ (p / 2 ^ k + 1) * 2 ^ k := by
  have nonzero : p ≠ 0 := by
    rintro rfl
    simp at length
    omega
  obtain ⟨least, most⟩ := (Nat.log2_eq_iff nonzero).1 length
  have bounds := roundedMantissa_bounds (ExtendedMantissa.ofMantissaAndAccuracy p accuracy >>> k)
  rw [mantissa_shiftRight, mantissa_ofMantissaAndAccuracy] at bounds
  have lower : 2 ^ 52 ≤ p / 2 ^ k := by
    rw [Nat.le_div_iff_mul_le (Nat.two_pow_pos k), ← Nat.pow_add]
    exact least
  have upper : p / 2 ^ k < 2 ^ 53 := by
    rw [Nat.div_lt_iff_lt_mul (Nat.two_pow_pos k), ← Nat.pow_add, show 53 + k = 52 + k + 1 by omega]
    exact most
  unfold roundWithAccuracy
  rw [shiftToTargetExponent_eq length low]
  dsimp only
  generalize (ExtendedMantissa.ofMantissaAndAccuracy p accuracy >>> k).roundedMantissa = r at bounds ⊢
  -- the rounded mantissa has 53 bits, or it is a power of two with one more
  obtain ⟨m, i, rfl, small, least', most'⟩ : ∃ m i, r = m * 2 ^ i ∧ i ≤ 1 ∧ 2 ^ 52 ≤ m ∧ m < 2 ^ 53 := by
    by_cases carries : r = 2 ^ 53
    · exact ⟨2 ^ 52, 1, carries, by omega, by omega, by omega⟩
    · exact ⟨r, 0, by omega, by omega, by omega, by omega⟩
  have shifted : m * 2 ^ (k + i) = m * 2 ^ i * 2 ^ k := by ring
  rw [shiftToTargetExponent_exact least' most' (by omega)]
  dsimp only
  refine ⟨m, k + i, by omega, ?_, least', most', by omega, ?_, ?_⟩
  · rw [dif_neg (by omega)]
    congr 1
    omega
  · rw [shifted]
    exact Nat.mul_le_mul_right _ bounds.1
  · rw [shifted]
    exact Nat.mul_le_mul_right _ bounds.2

/-! Doubles with a leading bit. -/

/-- A double is the number `m * 2 ^ e`, and `m` has 53 bits. -/
structure Led (x : Float) (m : Nat) (e : Int) : Prop where
  least : 2 ^ 52 ≤ m
  most : m < 2 ^ 53
  parts : ∃ pos, x.toModel.unpack = .finite .positive m e pos

theorem log2_eq {m : Nat} (least : 2 ^ 52 ≤ m) (most : m < 2 ^ 53) : m.log2 = 52 :=
  (Nat.log2_eq_iff (by omega)).2 ⟨least, most⟩

theorem toNat_pack {m : Nat} {e : Int} (least : 2 ^ 52 ≤ m) (most : m < 2 ^ 53) (low : -1074 ≤ e) (high : e ≤ 971)
    (pos : 0 < m) : (UnpackedFloat.pack Format.binary64 (.finite .positive m e pos)).toNat = composed m e := by
  have biased : (e + Format.binary64.exponentBias + (52 : Nat)).toNat = (e + 1075).toNat := by
    rw [show Format.binary64.exponentBias = 1023 from rfl]
    omega
  have join := Nat.two_pow_add_eq_or_of_lt (Nat.mod_lt m (Nat.two_pow_pos 52)) (e + 1075).toNat
  have value : composed m e = 2 ^ 52 * (e + 1075).toNat + m % 2 ^ 52 := by
    unfold composed
    omega
  rw [UnpackedFloat.pack]
  dsimp only
  rw [log2_eq least most, biased, if_neg (by omega), if_pos (show 52 + 1 = Format.binary64.mantissaBits from rfl),
    packComponents, BitVec.toNat_append, BitVec.toNat_append, BitVec.toNat_ofNat, BitVec.toNat_ofNat,
    Nat.mod_eq_of_lt (by omega : (e + 1075).toNat < 2 ^ 11), show Sign.positive.toBitVec.toNat = 0 from rfl,
    Nat.zero_shiftLeft, Nat.zero_or, Nat.shiftLeft_eq, Nat.mul_comm, value]
  exact join.symm

/-- Such a number is a double as far as exponents go. -/
theorem led_pack {m : Nat} {e : Int} (least : 2 ^ 52 ≤ m) (most : m < 2 ^ 53) (low : -1074 ≤ e) (high : e ≤ 971)
    (pos : 0 < m) : Led (.ofModel (.pack (.finite .positive m e pos))) m e := by
  have value : (Float.Model.pack (.finite .positive m e pos)).toBits.toNat = composed m e :=
    toNat_pack least most low high pos
  refine ⟨least, most, pos, ?_⟩
  show (Float.Model.pack (.finite .positive m e pos)).unpack = _
  generalize Float.Model.pack (.finite .positive m e pos) = x at value ⊢
  unfold composed at value
  have normal : Normal x.toBits := ⟨by omega, by omega⟩
  have mantissa : 0x10000000000000 + x.toBits.toNat % 0x10000000000000 = m := by omega
  have exponent : (x.toBits.toNat / 0x10000000000000 - 1075 : Int) = e := by omega
  obtain ⟨_, parts⟩ := normal.unpack_eq
  simp only [mantissa, exponent] at parts
  exact parts

theorem Led.lt {x y : Float} {m n : Nat} {e f : Int} (hx : Led x m e) (hy : Led y n f)
    (less : e < f ∨ e = f ∧ m < n) : x < y := by
  obtain ⟨_, left⟩ := hx.parts
  obtain ⟨_, right⟩ := hy.parts
  refine @decide_eq_true (x.toModel < y.toModel) _ ?_
  change x.toModel.unpack.lt y.toModel.unpack = true
  rw [left, right, UnpackedFloat.lt, UnpackedFloat.compare, beq_iff_eq, Option.some.injEq, Ordering.then_eq_lt,
    Int.compare_eq_lt, Int.compare_eq_eq, Nat.compare_eq_lt]
  exact less

/-- A number below `2 ^ 53` is a double. -/
theorem led_toFloat {n : Nat} (nonzero : n ≠ 0) (small : n < 2 ^ 53) :
    Led n.toUInt64.toFloat (n * 2 ^ (52 - n.log2)) (n.log2 - 52) := by
  have log : n.log2 < 53 := (Nat.log2_lt nonzero).2 small
  obtain ⟨least, most⟩ := short_bounds nonzero (by omega)
  have word : n.toUInt64.toNat = n := UInt64.toNat_ofNat_of_lt (small.trans (by decide))
  have target : Format.binary64.targetExponent (totalExponent n 0) = n.log2 - 52 := by
    simp [Format.targetExponent, totalExponent, Format.mantissaBits, Format.minExponent]
    omega
  have shift : (0 - (n.log2 - 52 : Int)).toNat = 52 - n.log2 := by omega
  have exponent : (0 : Int) - (52 - n.log2 : Nat) = n.log2 - 52 := by omega
  have exact := roundWithAccuracy_exact (k := 0) (e := n.log2 - 52) least most (by omega) .positive (by omega)
  simp only [pow_zero, Nat.mul_one, Int.natCast_zero, Int.add_zero] at exact
  have unpacked : UnpackedFloat.ofUInt64 Format.binary64 n.toUInt64 =
      .finite .positive (n * 2 ^ (52 - n.log2)) (n.log2 - 52) (by omega) := by
    rw [UnpackedFloat.ofUInt64, UnpackedFloat.ofNat, UnpackedFloat.ofInt, UnpackedFloat.normalize, word,
      Int.compare_eq_gt.2 (by omega)]
    dsimp only
    rw [Int.toNat_natCast, UnpackedFloat.round, target, decreaseExponent, shift]
    dsimp only
    rw [exponent, Nat.shiftLeft_eq, exact]
  have packed := led_pack least most (by omega) (by omega) (by omega : 0 < n * 2 ^ (52 - n.log2)) (e := n.log2 - 52)
  rw [← unpacked] at packed
  exact packed

theorem led_ofNat {n : Nat} (nonzero : n ≠ 0) (small : n < 2 ^ 53) :
    Led (Float.ofNat n) (n * 2 ^ (52 - n.log2)) (n.log2 - 52) := by
  have log : n.log2 < 53 := (Nat.log2_lt nonzero).2 small
  have fast : Float.ofNat n = n.toUInt64.toFloat * Float.ofBits 0x3FF0000000000000 := by
    show Float.ofScientific n false 0 = _
    rw [Float.ofScientific, dif_pos ⟨small, by decide⟩]
    rfl
  have one : ∃ pos, (Float.ofBits 0x3FF0000000000000).toModel.unpack = .finite .positive (2 ^ 52) (-52) pos :=
    (⟨by decide, by decide⟩ : Normal 0x3FF0000000000000).unpack_ofBits
  have whole := led_toFloat nonzero small
  generalize n * 2 ^ (52 - n.log2) = m at whole ⊢
  obtain ⟨pos, left⟩ := whole.parts
  obtain ⟨_, right⟩ := one
  have exact := roundWithAccuracy_exact (k := 52) (e := n.log2 - 52 + -52) whole.least whole.most (by omega) .positive
    pos
  have exponent : (n.log2 - 52 + -52 + (52 : Nat) : Int) = n.log2 - 52 := by omega
  have product : n.toUInt64.toFloat * Float.ofBits 0x3FF0000000000000 =
      .ofModel (.pack (.finite .positive m (n.log2 - 52) pos)) := by
    show Float.ofModel (.pack (UnpackedFloat.mul _ _ _)) = _
    rw [left, right, UnpackedFloat.mul, show Sign.positive * Sign.positive = Sign.positive from rfl, exact]
    simp only [exponent]
  rw [fast, product]
  exact led_pack whole.least whole.most (by omega) (by omega) pos

/-! Quotients. -/

/-- The quotient of mantissas of 53 bits is formed with 53 more bits. -/
theorem divCore_eq {m n : Nat} {e f : Int} (hm : m.log2 = 52) (hn : n.log2 = 52) (low : -1074 ≤ e - f - 53) :
    divCore Format.binary64 m e n f = (m * 2 ^ 53 / n, e - f - 53, accuracyOfFraction (m * 2 ^ 53 % n) n) := by
  have target : Format.binary64.targetExponent (totalExponent m e - totalExponent n f) = e - f - 53 := by
    simp [Format.targetExponent, totalExponent, Format.mantissaBits, Format.minExponent, hm, hn]
    omega
  have least : min (e - f) (e - f - 53) = e - f - 53 := by omega
  have shift : (e - f - (e - f - 53)).toNat = 53 := by omega
  rw [divCore, target, least, shift, Nat.shiftLeft_eq]

/-- A quotient by a count, between the last places of the true one. -/
theorem Led.div_ofNat {x : Float} {m : Nat} {e : Int} (h : Led x m e) (low : -900 ≤ e) (high : e ≤ 900) {n : Nat}
    (nonzero : n ≠ 0) (small : n < 2 ^ 53) :
    ∃ r j : Nat, Led (x / Float.ofNat n) r (e - n.log2 - 1 + j) ∧ m * 2 ^ (n.log2 + 1) / n ≤ r * 2 ^ j + 1 ∧
      r * 2 ^ j ≤ m * 2 ^ (n.log2 + 1) / n + 2 := by
  have log : n.log2 < 53 := (Nat.log2_lt nonzero).2 small
  have count := led_ofNat nonzero small
  obtain ⟨_, left⟩ := h.parts
  obtain ⟨_, right⟩ := count.parts
  have least := h.least
  have most := h.most
  have least' := count.least
  have most' := count.most
  have core := divCore_eq (e := e) (f := n.log2 - 52) (log2_eq least most) (log2_eq least' most') (by omega)
  have quotient : m * 2 ^ 53 / (n * 2 ^ (52 - n.log2)) = m * 2 ^ (n.log2 + 1) / n := by
    rw [← Nat.mul_div_mul_right (m * 2 ^ (n.log2 + 1)) n (Nat.two_pow_pos (52 - n.log2)), Nat.mul_assoc m,
      ← Nat.pow_add, show n.log2 + 1 + (52 - n.log2) = 53 by omega]
  have lower : 2 ^ 52 ≤ m * 2 ^ 53 / (n * 2 ^ (52 - n.log2)) := by
    rw [Nat.le_div_iff_mul_le (by omega)]
    exact Nat.mul_le_mul least (by omega)
  have upper : m * 2 ^ 53 / (n * 2 ^ (52 - n.log2)) < 2 ^ 54 := by
    rw [Nat.div_lt_iff_lt_mul (by omega)]
    omega
  rw [quotient] at lower upper core
  generalize m * 2 ^ (n.log2 + 1) / n = p at lower upper core ⊢
  obtain ⟨k, few, length⟩ : ∃ k, k ≤ 1 ∧ p.log2 = 52 + k := by
    have least := (Nat.le_log2 (by omega)).2 lower
    have most := (Nat.log2_lt (by omega)).2 upper
    exact ⟨p.log2 - 52, by omega, by omega⟩
  obtain ⟨r, j, pos, rounded, least, most, near, below, above⟩ :=
    roundWithAccuracy_eq length (by omega : -1074 ≤ e - (n.log2 - 52) - 53 + (k : Int))
      (accuracyOfFraction (m * 2 ^ 53 % (n * 2 ^ (52 - n.log2))) (n * 2 ^ (52 - n.log2))) .positive
  have exponent : (e - (n.log2 - 52) - 53 + j : Int) = e - n.log2 - 1 + j := by omega
  have divided : x / Float.ofNat n = .ofModel (.pack (.finite .positive r (e - n.log2 - 1 + j) pos)) := by
    show Float.ofModel (.pack (UnpackedFloat.div _ _ _)) = _
    rw [left, right, UnpackedFloat.div, core]
    dsimp only
    rw [show Sign.positive / Sign.positive = Sign.positive from rfl, rounded]
    simp only [exponent]
  refine ⟨r, j, ?_, ?_, ?_⟩
  · rw [divided]
    exact led_pack least most (by omega) (by omega) pos
  · rcases Nat.le_one_iff_eq_zero_or_eq_one.1 few with rfl | rfl <;> omega
  · rcases Nat.le_one_iff_eq_zero_or_eq_one.1 few with rfl | rfl <;> omega

/-! Quotients by different counts. -/

/-- Quotients of one number by counts up to `2 ^ 50` keep their order when the greater one loses a unit and the smaller
one gains two, as long as the number is so large that they have more than 52 bits. -/
theorem quotients_apart {a b d n p q : Nat} (pos : 0 < a) (less : a < b) (few : b ≤ 2 ^ 50) (large : 2 ^ 52 * a < n)
    (below : n / a ≤ p + 1) (above : q ≤ n * 2 ^ d / b + 2) : q < p * 2 ^ d := by
  by_contra crossed
  rw [Nat.not_lt] at crossed
  have unit := Nat.two_pow_pos d
  generalize 2 ^ d = u at above crossed unit
  have left : n + 1 ≤ (p + 2) * a := by
    have ceiling := Nat.lt_mul_div_succ n pos
    have raised := Nat.mul_le_mul_left a (by omega : n / a + 1 ≤ p + 2)
    rw [Nat.mul_comm a (p + 2)] at raised
    omega
  have right : p * u * b ≤ n * u + 2 * b := by
    have floor := Nat.div_mul_le_self (n * u) b
    have lowered := Nat.mul_le_mul_right b (crossed.trans above)
    rw [Nat.add_mul] at lowered
    omega
  have gap : n * (b - a) < 4 * a * b := by
    obtain ⟨c, rfl⟩ := Nat.exists_eq_add_of_lt less
    have scaled := Nat.mul_le_mul_right (u * (a + c + 1)) left
    have scaled' := Nat.mul_le_mul_right a right
    have units : a * (a + c + 1) ≤ a * (a + c + 1) * u := Nat.le_mul_of_pos_right _ unit
    have together : n * (c + 1) * u < 4 * a * (a + c + 1) * u := by nlinarith
    rw [show a + c + 1 - a = c + 1 by omega]
    exact Nat.lt_of_mul_lt_mul_right together
  have wide : 4 * a * b ≤ 2 ^ 52 * a * (b - a) :=
    calc 4 * a * b ≤ 4 * a * 2 ^ 50 := Nat.mul_le_mul_left _ few
      _ = 2 ^ 52 * a * 1 := by ring
      _ ≤ 2 ^ 52 * a * (b - a) := Nat.mul_le_mul_left _ (by omega)
  have grown := Nat.mul_le_mul_right (b - a) (Nat.le_of_lt large)
  omega

/-- The greater count gives the smaller quotient. -/
theorem Led.div_ofNat_lt {x : Float} {m : Nat} {e : Int} (h : Led x m e) (low : -900 ≤ e) (high : e ≤ 900) {a b : Nat}
    (nonzero : a ≠ 0) (less : a < b) (few : b ≤ 2 ^ 50) : x / Float.ofNat b < x / Float.ofNat a := by
  obtain ⟨p, j, ledA, below, -⟩ := h.div_ofNat low high nonzero (by omega)
  obtain ⟨q, i, ledB, -, above⟩ := h.div_ofNat low high (by omega : b ≠ 0) (by omega)
  have logs : a.log2 ≤ b.log2 := (Nat.le_log2 (by omega)).2 ((Nat.log2_self_le nonzero).trans (Nat.le_of_lt less))
  obtain ⟨d, difference⟩ := Nat.exists_eq_add_of_le logs
  have least := h.least
  have large : 2 ^ 52 * a < m * 2 ^ (a.log2 + 1) := Nat.mul_lt_mul_of_le_of_lt least Nat.lt_log2_self (by omega)
  rw [difference, Nat.add_right_comm, Nat.pow_add, ← Nat.mul_assoc] at above
  have ordered := quotients_apart (by omega) less few large below above
  apply ledB.lt ledA
  have bounds := And.intro ledA.most ledB.least
  by_contra crossed
  -- otherwise the quotient by `b` is at least as great, read with the exponent of the true one
  have more : p * 2 ^ j * 2 ^ d ≤ q * 2 ^ i := by
    rw [Nat.mul_assoc, ← Nat.pow_add]
    rcases Nat.lt_or_ge (j + d) i with wider | narrower
    · calc p * 2 ^ (j + d) ≤ 2 ^ 53 * 2 ^ (j + d) := Nat.mul_le_mul_right _ (by omega)
        _ = 2 ^ 52 * 2 ^ (j + d + 1) := by ring
        _ ≤ q * 2 ^ i := Nat.mul_le_mul ledB.least (Nat.pow_le_pow_right (by decide) wider)
    · obtain rfl : i = j + d := by omega
      exact Nat.mul_le_mul_right _ (by omega)
  omega

theorem ne_of_lt {x y : Float} (less : x < y) : x ≠ y := by
  rintro rfl
  have before : x.toModel.unpack.lt x.toModel.unpack = true := @of_decide_eq_true (x.toModel < x.toModel) _ less
  cases parts : x.toModel.unpack with
  | infinity sign => cases sign <;> simp [parts, UnpackedFloat.lt, UnpackedFloat.compare] at before
  | notANumber => simp [parts, UnpackedFloat.lt, UnpackedFloat.compare] at before
  | zero sign => simp [parts, UnpackedFloat.lt, UnpackedFloat.compare] at before
  | finite sign m e pos => cases sign <;> simp [parts, UnpackedFloat.lt, UnpackedFloat.compare] at before

/-! Doubles of moderate size. -/

/-- A positive double that is neither tiny nor huge. -/
structure Moderate (x : Float) : Prop where
  low : 1e-200 ≤ x
  high : x ≤ 1e200

theorem bounds_of_unpack {x : Float.Model} {sign : Sign} {m : Nat} {e : Int} {pos : 0 < m}
    (parts : x.unpack = .finite sign m e pos) (low : -1074 < e) : 2 ^ 52 ≤ m ∧ m < 2 ^ 53 := by
  unfold Float.Model.unpack UnpackedFloat.unpack at parts
  dsimp only at parts
  split at parts
  · split at parts <;> cases parts
  split at parts
  · rename_i unled
    split at parts
    · cases parts
    · -- without a leading bit the exponent is the least one
      cases parts
      rw [unled] at low
      exact absurd low (by decide)
  · cases parts
    have fraction : (@unpackMantissa Format.binary64 x.toBits.toBitVec).toNat < 2 ^ 52 := BitVec.isLt _
    have join := Nat.two_pow_add_eq_or_of_lt fraction 1
    have led : (1#1 ++ @unpackMantissa Format.binary64 x.toBits.toBitVec).toNat =
        2 ^ 52 + (@unpackMantissa Format.binary64 x.toBits.toBitVec).toNat := by
      rw [BitVec.toNat_append]
      simpa [Nat.shiftLeft_eq] using join.symm
    omega

theorem Moderate.led {x : Float} (h : Moderate x) : ∃ m e, Led x m e ∧ -900 ≤ e ∧ e ≤ 900 := by
  have least : (1e-200 : Float) = Float.ofBits 0x16687E92154EF7AC := by decide +kernel
  have greatest : (1e200 : Float) = Float.ofBits 0x6974E718D7D7625A := by decide +kernel
  obtain ⟨_, low⟩ : ∃ pos, (Float.ofBits 0x16687E92154EF7AC).toModel.unpack =
      .finite .positive 0x187E92154EF7AC (-717) pos :=
    (⟨by decide, by decide⟩ : Normal 0x16687E92154EF7AC).unpack_ofBits
  obtain ⟨_, high⟩ : ∃ pos, (Float.ofBits 0x6974E718D7D7625A).toModel.unpack =
      .finite .positive 0x14E718D7D7625A 612 pos :=
    (⟨by decide, by decide⟩ : Normal 0x6974E718D7D7625A).unpack_ofBits
  have above : (1e-200 : Float).toModel.unpack.le x.toModel.unpack = true := @of_decide_eq_true (_ ≤ _) _ h.low
  have below : x.toModel.unpack.le (1e200 : Float).toModel.unpack = true := @of_decide_eq_true (_ ≤ _) _ h.high
  rw [least, low] at above
  rw [greatest, high] at below
  cases parts : x.toModel.unpack with
  | infinity sign => cases sign <;> simp [parts, UnpackedFloat.le, UnpackedFloat.compare] at above below
  | notANumber => simp [parts, UnpackedFloat.le, UnpackedFloat.compare] at above
  | zero sign => simp [parts, UnpackedFloat.le, UnpackedFloat.compare] at above
  | finite sign m e pos =>
    cases sign with
    | negative => simp [parts, UnpackedFloat.le, UnpackedFloat.compare] at above
    | positive =>
      simp only [parts, UnpackedFloat.le, UnpackedFloat.compare, Option.any_some, Ordering.isLE_then_iff_or,
        Int.compare_eq_lt, Int.compare_eq_eq] at above below
      obtain ⟨least, most⟩ := bounds_of_unpack parts (by omega)
      exact ⟨m, e, ⟨least, most, pos, parts⟩, by omega, by omega⟩

theorem div_ofNat_lt {x : Float} (h : Moderate x) {a b : Nat} (nonzero : a ≠ 0) (less : a < b) (few : b ≤ 2 ^ 50) :
    x / Float.ofNat b < x / Float.ofNat a := by
  obtain ⟨m, e, led, low, high⟩ := h.led
  exact led.div_ofNat_lt low high nonzero less few

theorem zero_div_ofNat {n : Nat} (nonzero : n ≠ 0) (few : n ≤ 2 ^ 50) : (0 : Float) / Float.ofNat n = 0 := by
  obtain ⟨_, count⟩ := (led_ofNat nonzero (by omega)).parts
  have zero : (0 : Float) = Float.ofBits 0 := by decide +kernel
  have none : (Float.ofBits 0).toModel.unpack = .zero .positive := rfl
  rw [zero]
  show Float.ofModel (.pack (UnpackedFloat.div _ _ _)) = _
  rw [count, none, UnpackedFloat.div]
  rfl

/-- Whether a count may take the place of a smaller one as a divisor: not unless there is nothing to divide. -/
theorem div_ofNat_eq_iff {x : Float} (usual : x = 0 ∨ Moderate x) {a b : Nat} (le : a ≤ b) (few : b ≤ 2 ^ 50)
    (empty : a = 0 → x = 0) : x / Float.ofNat b = x / Float.ofNat a ↔ a = b ∨ a ≠ 0 ∧ x = 0 := by
  rcases Nat.eq_or_lt_of_le le with rfl | less
  · simp
  have nonzero : ¬ Moderate 0 := fun h => absurd h.low (by decide +kernel)
  rcases usual with rfl | moderate
  · rw [zero_div_ofNat (by omega) few]
    rcases Nat.eq_zero_or_pos a with rfl | pos
    · have undefined : (0 : Float) ≠ 0 / Float.ofNat 0 := by decide +kernel
      simp [undefined, Nat.ne_of_lt less]
    · have some : a ≠ 0 := by omega
      simp [zero_div_ofNat some (by omega), some]
  · have x_ne : x ≠ 0 := by
      rintro rfl
      exact nonzero moderate
    have apart := ne_of_lt (div_ofNat_lt moderate (fun none => x_ne (empty none)) less few)
    simp [apart, x_ne, Nat.ne_of_lt less]

end BlitReel.Binary64
