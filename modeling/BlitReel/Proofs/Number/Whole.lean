import Mathlib
import BlitReel.Proofs.Number.Numeral

/-!
# Doubles of whole numbers

Positive doubles with a leading bit stand in the order of their bits (`ofBits_le_ofBits`). The double nearest to a
whole number has the length of the number in its exponent and the first 53 bits, rounded, behind it (`nearest_whole`),
so that rounding keeps the number on its side of every bound that is itself a double (`sixty_le_of_nearest`). Digits
alone are read as the double nearest to their value.
-/

namespace BlitReel

namespace Binary64

open Float.Model

/-- The bits of a positive double with a leading bit. -/
structure Normal (u : UInt64) : Prop where
  least : 0x10000000000000 ≤ u.toNat
  greatest : u.toNat < 0x7FF0000000000000

namespace Normal

variable {u : UInt64} (h : Normal u)

include h

theorem unpack_eq : ∃ pos, UnpackedFloat.unpack Format.binary64 u.toBitVec =
    .finite .positive (0x10000000000000 + u.toNat % 0x10000000000000) (u.toNat / 0x10000000000000 - 1075 : Int) pos := by
  have least := h.least
  have greatest := h.greatest
  have exponent : (@UnpackedFloat.unpackExponent Format.binary64 u.toBitVec).toNat = u.toNat / 0x10000000000000 := by
    simp [UnpackedFloat.unpackExponent]
    omega
  have mantissa : (@UnpackedFloat.unpackMantissa Format.binary64 u.toBitVec).toNat = u.toNat % 0x10000000000000 := by
    simp [UnpackedFloat.unpackMantissa]
  have sign : @UnpackedFloat.unpackSign Format.binary64 u.toBitVec = 0#1 := by
    apply BitVec.eq_of_toNat_eq
    simp [UnpackedFloat.unpackSign]
    omega
  have leading : (1#1 ++ @UnpackedFloat.unpackMantissa Format.binary64 u.toBitVec).toNat =
      0x10000000000000 + u.toNat % 0x10000000000000 := by
    have join := Nat.two_pow_add_eq_or_of_lt (Nat.mod_lt u.toNat (Nat.two_pow_pos 52)) 1
    rw [BitVec.toNat_append, mantissa]
    simpa [Nat.shiftLeft_eq] using join.symm
  have ordinary : @UnpackedFloat.unpackExponent Format.binary64 u.toBitVec ≠ -1#11 := by
    intro same
    rw [same, show (-1#11 : BitVec 11).toNat = 2047 from rfl] at exponent
    omega
  have led : @UnpackedFloat.unpackExponent Format.binary64 u.toBitVec ≠ 0#11 := by
    intro same
    rw [same, show (0#11 : BitVec 11).toNat = 0 from rfl] at exponent
    omega
  refine ⟨by omega, ?_⟩
  rw [UnpackedFloat.unpack]
  simp only [ordinary, led, if_false, leading, sign, exponent, UnpackedFloat.Sign.ofBitVec, if_true]
  rfl

/-- Such bits are kept when a double is made of them. -/
theorem toBits_ofBits : (Float.ofBits u).toBits = u := by
  have least := h.least
  have greatest := h.greatest
  obtain ⟨pos, parts⟩ := h.unpack_eq
  have fraction : u.toNat % 0x10000000000000 < 2 ^ 52 := Nat.mod_lt _ (by decide)
  have log : (0x10000000000000 + u.toNat % 0x10000000000000).log2 = 52 := by
    rw [Nat.log2_eq_iff (by omega)]
    omega
  have biased : ((u.toNat / 0x10000000000000 - 1075 : Int) + Format.binary64.exponentBias + (52 : Nat)).toNat =
      u.toNat / 0x10000000000000 := by
    rw [show Format.binary64.exponentBias = 1023 from rfl]
    omega
  have packed : UnpackedFloat.pack Format.binary64 (UnpackedFloat.unpack Format.binary64 u.toBitVec) = u.toBitVec := by
    rw [parts, UnpackedFloat.pack]
    dsimp only
    rw [log, biased, if_neg (by omega), if_pos (show 52 + 1 = Format.binary64.mantissaBits from rfl)]
    apply BitVec.eq_of_toNat_eq
    have join := Nat.two_pow_add_eq_or_of_lt fraction (u.toNat / 0x10000000000000)
    rw [UnpackedFloat.packComponents, BitVec.toNat_append, BitVec.toNat_append, BitVec.toNat_ofNat, BitVec.toNat_ofNat,
      Nat.mod_eq_of_lt (by omega : u.toNat / 0x10000000000000 < 2 ^ 11), Nat.add_mod_left, Nat.mod_mod,
      show UnpackedFloat.Sign.positive.toBitVec.toNat = 0 from rfl, Nat.zero_shiftLeft, Nat.zero_or, Nat.shiftLeft_eq,
      Nat.mul_comm, ← join]
    exact Nat.div_add_mod _ _
  exact congrArg UInt64.ofBitVec packed

theorem unpack_ofBits : ∃ pos, (Float.ofBits u).toModel.unpack =
    .finite .positive (0x10000000000000 + u.toNat % 0x10000000000000) (u.toNat / 0x10000000000000 - 1075 : Int) pos := by
  obtain ⟨pos, parts⟩ := h.unpack_eq
  have bits : (Float.ofBits u).toModel.toBits = u := h.toBits_ofBits
  exact ⟨pos, by rw [Float.Model.unpack, bits, parts]⟩

end Normal

/-- Positive doubles with a leading bit are in the order of their bits. -/
theorem ofBits_le_ofBits {u v : UInt64} (hu : Normal u) (hv : Normal v) (le : u.toNat ≤ v.toNat) :
    Float.ofBits u ≤ Float.ofBits v := by
  obtain ⟨_, partsU⟩ := hu.unpack_ofBits
  obtain ⟨_, partsV⟩ := hv.unpack_ofBits
  refine @decide_eq_true ((Float.ofBits u).toModel ≤ (Float.ofBits v).toModel) _ ?_
  change (Float.ofBits u).toModel.unpack.le (Float.ofBits v).toModel.unpack = true
  rw [partsU, partsV, UnpackedFloat.le, UnpackedFloat.compare]
  simp only [Option.any_some]
  rw [Ordering.isLE_then_iff_or, Int.compare_eq_lt, Int.compare_eq_eq, Nat.isLE_compare]
  omega

/-- The bits of a double that is made of a mantissa with a leading bit. A mantissa of one bit more carries over into
the exponent. -/
def composed (m : Nat) (e : Int) : Nat := (e + 1075).toNat * 0x10000000000000 + (m - 0x10000000000000)

theorem assemble_eq_some {m : Nat} {e : Int} {x : Float} (least : 0x10000000000000 ≤ m) (most : m ≤ 0x20000000000000)
    (low : -1074 ≤ e) (h : assemble false m e = some x) :
    x = Float.ofBits (UInt64.ofNat (composed m e)) ∧ composed m e < 0x7FF0000000000000 := by
  unfold assemble at h
  by_cases carries : m = 0x20000000000000
  · rw [if_pos (by simpa using carries)] at h
    dsimp only at h
    split at h
    · cases h
    · rename_i small
      have shift := Nat.shiftLeft_eq (e + 1 + 1075).toNat 52
      have carried : composed m e = ((e + 1 + 1075).toNat <<< 52) + (0x10000000000000 - 0x10000000000000) + 0 := by
        unfold composed
        omega
      rw [if_neg (by omega), if_neg (by decide), ← carried] at h
      refine ⟨(Option.some.inj h).symm, ?_⟩
      unfold composed
      omega
  · rw [if_neg (by simpa using carries)] at h
    dsimp only at h
    split at h
    · cases h
    · rename_i small
      have shift := Nat.shiftLeft_eq (e + 1075).toNat 52
      have plain : composed m e = ((e + 1075).toNat <<< 52) + (m - 0x10000000000000) + 0 := by
        unfold composed
        omega
      rw [if_neg (by omega), if_neg (by decide), ← plain] at h
      refine ⟨(Option.some.inj h).symm, ?_⟩
      unfold composed
      omega

theorem roundRatio_bounds (n d : Nat) : n / d ≤ roundRatio n d ∧ roundRatio n d ≤ n / d + 1 := by
  unfold roundRatio
  dsimp only
  split <;> omega

theorem roundRatio_one (n : Nat) : roundRatio n 1 = n := by
  simp [roundRatio, Nat.mod_one]

/-- The first 53 bits of a number, rounded. -/
def leading (n : Nat) : Nat :=
  if n.log2 ≤ 52 then n * 2 ^ (52 - n.log2) else roundRatio n (2 ^ (n.log2 - 52))

theorem short_bounds {n : Nat} (pos : n ≠ 0) (short : n.log2 ≤ 52) :
    2 ^ 52 ≤ n * 2 ^ (52 - n.log2) ∧ n * 2 ^ (52 - n.log2) < 2 ^ 53 := by
  have least := Nat.mul_le_mul_right (2 ^ (52 - n.log2)) (Nat.log2_self_le pos)
  have most := Nat.mul_lt_mul_of_pos_right (@Nat.lt_log2_self n) (Nat.two_pow_pos (52 - n.log2))
  rw [← Nat.pow_add] at least most
  rw [show n.log2 + (52 - n.log2) = 52 by omega] at least
  rw [show n.log2 + 1 + (52 - n.log2) = 53 by omega] at most
  exact ⟨least, most⟩

theorem long_bounds {n : Nat} (pos : n ≠ 0) (long : 52 ≤ n.log2) :
    2 ^ 52 * 2 ^ (n.log2 - 52) ≤ n ∧ n < 2 ^ 53 * 2 ^ (n.log2 - 52) := by
  rw [← Nat.pow_add, ← Nat.pow_add, show 52 + (n.log2 - 52) = n.log2 by omega,
    show 53 + (n.log2 - 52) = n.log2 + 1 by omega]
  exact ⟨Nat.log2_self_le pos, Nat.lt_log2_self⟩

theorem leading_bounds {n : Nat} (pos : n ≠ 0) : 0x10000000000000 ≤ leading n ∧ leading n ≤ 0x20000000000000 := by
  unfold leading
  split
  · rename_i short
    have bounds := short_bounds pos short
    omega
  · rename_i long
    obtain ⟨least, most⟩ := long_bounds pos (by omega)
    have rounded := roundRatio_bounds n (2 ^ (n.log2 - 52))
    have least := (Nat.le_div_iff_mul_le (Nat.two_pow_pos (n.log2 - 52))).2 least
    have most := (Nat.div_lt_iff_lt_mul (Nat.two_pow_pos (n.log2 - 52))).2 most
    omega

/-- A number beside a power of two, so that their ratio has 53 bits before the point. -/
theorem scaleDown_whole (n : Nat) : scaleDown n 1 (n.log2 - 52) =
    if n.log2 ≤ 52 then (n * 2 ^ (52 - n.log2), 1) else (n, 2 ^ (n.log2 - 52)) := by
  unfold scaleDown
  by_cases short : n.log2 < 52
  · have places : (-((n.log2 : Int) - 52)).toNat = 52 - n.log2 := by omega
    rw [if_neg (by omega), if_pos (by omega), places, Nat.shiftLeft_eq]
  · have places : ((n.log2 : Int) - 52).toNat = n.log2 - 52 := by omega
    rw [if_pos (by omega), places, Nat.one_shiftLeft]
    split
    · have exactly : n.log2 = 52 := by omega
      simp [exactly]
    · rfl

/-- The double nearest to a number. -/
theorem nearest_whole {n : Nat} (pos : n ≠ 0) : nearest false n 1 = assemble false (leading n) (n.log2 - 52) := by
  have rounded : roundRatio (scaleDown n 1 (n.log2 - 52)).1 (scaleDown n 1 (n.log2 - 52)).2 = leading n := by
    rw [scaleDown_whole, leading]
    split
    · exact roundRatio_one _
    · rfl
  have wide : ¬ (scaleDown n 1 (n.log2 - 52)).1 < (scaleDown n 1 (n.log2 - 52)).2 <<< 52 := by
    rw [scaleDown_whole, Nat.not_lt, Nat.shiftLeft_eq, Nat.mul_comm]
    split
    · rename_i short
      exact (short_bounds pos short).1
    · rename_i long
      exact (long_bounds pos (by omega)).1
  have unit : Nat.log2 1 = 0 := by decide
  unfold nearest
  rw [if_neg (by simpa using pos)]
  simp only [unit, Int.natCast_zero, Int.sub_zero, wide, if_false]
  rw [max_eq_left (by unfold minExponent; omega), rounded]

/-- Rounding does not take a number below sixty. -/
theorem sixty_le_of_nearest {n : Nat} {x : Float} (large : 60 ≤ n) (h : nearest false n 1 = some x) : x ≥ 60.0 := by
  have pos : n ≠ 0 := by omega
  have log : 5 ≤ n.log2 := (Nat.le_log2 pos).2 (by omega)
  obtain ⟨least, most⟩ := leading_bounds pos
  rw [nearest_whole pos] at h
  obtain ⟨rfl, small⟩ := assemble_eq_some least most (by omega) h
  have bits : 0x404E000000000000 ≤ composed (leading n) (n.log2 - 52) := by
    rcases log.eq_or_lt with log | log
    · -- of the numbers with six bits those from sixty on are doubles themselves
      have exactly : leading n = n * 2 ^ 47 := by
        rw [leading, if_pos (by omega), ← log]
      unfold composed
      omega
    · unfold composed
      omega
  have value : (UInt64.ofNat (composed (leading n) (n.log2 - 52))).toNat = composed (leading n) (n.log2 - 52) :=
    UInt64.toNat_ofNat_of_lt (small.trans (by decide))
  have sixty : (60.0 : Float) = Float.ofBits 0x404E000000000000 := by decide +kernel
  rw [ge_iff_le, sixty]
  apply ofBits_le_ofBits
  · exact ⟨by decide, by decide⟩
  · exact ⟨by omega, by omega⟩
  · rw [value]
    exact bits

end Binary64

namespace Numeral

/-- A word of a natural number is that number exactly as far as words go. -/
theorem toInt_ofNat_eq_iff {n : Nat} : (Int64.ofNat n).toInt = n ↔ n < 2 ^ 63 := by
  constructor
  · intro same
    have most := (Int64.ofNat n).toInt_lt
    omega
  · exact Int64.toInt_ofNat_of_lt

/-- Digits alone are read as the word of their value, if there is one. -/
theorem readInt_digits {ds : Octets} (digits : ∀ b ∈ ds, Octets.isDigit b = true) {x : Int64} :
    readInt ds = .ok x ↔ ds ≠ [] ∧ value ds < 2 ^ 63 ∧ x = Int64.ofNat (value ds) := by
  rw [readInt_of_takeSign (takeSign_of_digits digits), if_neg (by decide)]
  constructor
  · rintro ⟨ne, -, same⟩
    have small : value ds < 2 ^ 63 := by
      have most := x.toInt_lt
      omega
    refine ⟨ne, small, ?_⟩
    rw [← Int64.toInt_inj, same, toInt_ofNat_eq_iff.2 small]
  · rintro ⟨ne, small, rfl⟩
    exact ⟨ne, digits, toInt_ofNat_eq_iff.2 small⟩

theorem hexValue?_of_isDigit {b : UInt8} (digit : Octets.isDigit b = true) :
    Octets.hexValue? b = some (b.toNat - 48) ∧ b.toNat - 48 < 10 ∧ b ≠ 95 ∧ b ≠ 46 := by
  rw [Octets.hexValue?, if_pos digit]
  rw [Octets.isDigit, Bool.and_eq_true, decide_eq_true_eq, decide_eq_true_eq, UInt8.le_iff_toNat_le,
    UInt8.le_iff_toNat_le] at digit
  have low : (48 : UInt8).toNat = 48 := rfl
  have high : (57 : UInt8).toNat = 57 := rfl
  refine ⟨rfl, by omega, ?_, ?_⟩
  · rintro rfl
    exact absurd digit.2 (by decide)
  · rintro rfl
    exact absurd digit.1 (by decide)

/-- Digits before a point are all taken. -/
theorem takeMantissa_digits {ds : Octets} (digits : ∀ b ∈ ds, Octets.isDigit b = true) (m : Mantissa)
    (whole : m.sawPoint = false) :
    takeMantissa 10 ds m =
      ({ m with value := m.value * 10 ^ ds.length + value ds, sawDigit := m.sawDigit || !ds.isEmpty }, []) := by
  induction ds generalizing m with
  | nil => simp [takeMantissa, value]
  | cons b ds ih =>
    obtain ⟨hex, small, notUnderscore, notPoint⟩ := hexValue?_of_isDigit (digits b (by simp))
    rw [takeMantissa, if_neg (by simpa using notUnderscore), if_neg (by simpa using notPoint), hex]
    dsimp only
    rw [if_pos small, ih fun d mem => digits d (by simp [mem])]
    · simp only [value_cons, List.length_cons, whole, Bool.false_eq_true, if_false]
      simp
      ring
    · exact whole

theorem lowerAscii_of_isDigit {b : UInt8} (digit : Octets.isDigit b = true) : Octets.lowerAscii b = b := by
  revert b
  decide +kernel

theorem named?_digits {ds : Octets} (digits : ∀ b ∈ ds, Octets.isDigit b = true) : named? ds = none := by
  have lower : ds.map Octets.lowerAscii = ds := by
    conv_rhs => rw [← List.map_id ds]
    exact List.map_congr_left fun b mem => lowerAscii_of_isDigit (digits b mem)
  have other {name : Octets} (letter : ∃ b ∈ name, Octets.isDigit b = false) : (ds == name) = false := by
    rw [beq_eq_false_iff_ne]
    rintro rfl
    obtain ⟨b, mem, letter⟩ := letter
    rw [digits b mem] at letter
    cases letter
  rw [named?]
  simp only [lower, takeSign_of_digits digits]
  rw [other ⟨105, by decide, by decide⟩, other ⟨105, by decide, by decide⟩, other ⟨110, by decide, by decide⟩]
  rfl

/-- Digits have no mark of another base. -/
theorem marksHex_digits {ds : Octets} (digits : ∀ b ∈ ds, Octets.isDigit b = true) : marksHex ds = false := by
  unfold marksHex
  split
  · rename_i x _ _
    have digit := digits x (by simp)
    rw [lowerAscii_of_isDigit digit, beq_eq_false_iff_ne]
    rintro rfl
    exact absurd digit (by decide)
  · rfl

/-- Digits alone are read as the double nearest to their value, if there is one. -/
theorem readFloat_digits {ds : Octets} (ne : ds ≠ []) (digits : ∀ b ∈ ds, Octets.isDigit b = true) :
    (readFloat ds).toOption = Binary64.nearest false (value ds) 1 := by
  have mantissa := takeMantissa_digits digits {} rfl
  have scaled : Binary64.ofScaled false 10 (value ds) 0 = Binary64.nearest false (value ds) 1 := by
    unfold Binary64.ofScaled
    dsimp only
    split
    · rename_i zero
      rw [beq_iff_eq.1 zero]
    · simp
  unfold readFloat
  simp only [named?_digits digits, takeSign_of_digits digits, marksHex_digits digits, Bool.false_eq_true, if_false,
    mantissa, readExponent, bind, Except.bind, pure, Except.pure]
  simp only [Nat.zero_mul, Nat.zero_add, Bool.false_or, Bool.not_not, List.isEmpty_iff, ne, if_false, Int.natCast_zero,
    Int.sub_zero, scaled, Bool.false_and, Bool.false_eq_true]
  cases Binary64.nearest false (value ds) 1 <;> rfl

end Numeral

end BlitReel
