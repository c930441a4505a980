import Mathlib
import BlitReel.Number.Numeral
import BlitReel.Proofs.Text.Octets

/-!
# Whole numbers

A whole number is read from exactly the octet strings that are decimal numerals of it: an optional
sign and at least one digit, with a value within 64 bits. The digits are taken in from the left and
no partial value exceeds the whole one, so the range check on the way refuses nothing that the check
at the end would not. The decimal spelling of a word is such a numeral, so it reads as that word.
-/

namespace BlitReel.Numeral

/-- The number that a run of decimal digits stands for. -/
def value (ds : Octets) : Nat := Nat.ofDigits 10 (ds.reverse.map fun b => b.toNat - 48)

theorem value_cons (b : UInt8) (ds : Octets) : value (b :: ds) = (b.toNat - 48) * 10 ^ ds.length + value ds := by
  simp only [value, List.reverse_cons, List.map_append, List.map_cons, List.map_nil, Nat.ofDigits_append,
    Nat.ofDigits_singleton, List.length_map, List.length_reverse]
  ring

/-- Digits are read exactly if they are digits and the number they extend `acc` to is in range. -/
theorem digitsValue_eq_ok_iff {ds : Octets} {acc n : Nat} (small : acc < 0x10000000000000000) :
    digitsValue ds acc = .ok n ↔
      (∀ b ∈ ds, Octets.isDigit b = true) ∧ n = acc * 10 ^ ds.length + value ds ∧ n < 0x10000000000000000 := by
  induction ds generalizing acc with
  | nil =>
    simp only [digitsValue, Except.ok.injEq, List.not_mem_nil, false_implies, implies_true, true_and,
      List.length_nil, pow_zero, mul_one, value, List.reverse_nil, List.map_nil, Nat.ofDigits_nil, add_zero]
    omega
  | cons b ds ih =>
    have whole : acc * 10 ^ (b :: ds).length + value (b :: ds) =
        (acc * 10 + (b.toNat - 48)) * 10 ^ ds.length + value ds := by
      rw [value_cons, List.length_cons]
      ring
    rw [digitsValue, List.forall_mem_cons, whole]
    by_cases digit : Octets.isDigit b = true
    · simp only [digit, Bool.not_true, Bool.false_eq_true, ↓reduceIte, true_and]
      by_cases range : acc * 10 + (b.toNat - 48) < 0x10000000000000000
      · rw [if_neg (by omega), ih range]
      · -- the value of all the digits is at least the value of these
        have grows : acc * 10 + (b.toNat - 48) ≤ (acc * 10 + (b.toNat - 48)) * 10 ^ ds.length :=
          Nat.le_mul_of_pos_right _ (by positivity)
        rw [if_pos (by omega)]
        simp only [reduceCtorEq, false_iff, not_and, not_lt]
        omega
    · simp [digit]

/-- A decimal numeral of a whole number: digits, after a sign or not. -/
inductive Decimal : Octets → Int → Prop where
  | plain {ds : Octets} (ne : ds ≠ []) (digits : ∀ b ∈ ds, Octets.isDigit b = true) : Decimal ds (value ds)
  | plus {ds : Octets} (ne : ds ≠ []) (digits : ∀ b ∈ ds, Octets.isDigit b = true) : Decimal (43 :: ds) (value ds)
  | minus {ds : Octets} (ne : ds ≠ []) (digits : ∀ b ∈ ds, Octets.isDigit b = true) : Decimal (45 :: ds) (-(value ds))

/-- What is read after a sign, or after none. -/
theorem readInt_of_takeSign {s ds : Octets} {negative : Bool} {x : Int64} (sign : takeSign s = (negative, ds)) :
    readInt s = .ok x ↔ ds ≠ [] ∧ (∀ b ∈ ds, Octets.isDigit b = true) ∧
      x.toInt = if negative then -(value ds : Int) else value ds := by
  have least := x.le_toInt
  have greatest := x.toInt_lt
  have digitsValue_iff (n : Nat) := @digitsValue_eq_ok_iff ds 0 n (by decide)
  simp only [Nat.zero_mul, Nat.zero_add] at digitsValue_iff
  by_cases empty : ds = []
  · simp [readInt, sign, empty, bind, Except.bind, throw, throwThe, MonadExceptOf.throw]
  cases run : digitsValue ds 0 with
  | error fault =>
    have refused : ¬((∀ b ∈ ds, Octets.isDigit b = true) ∧ value ds < 0x10000000000000000) := by
      rintro ⟨digits, range⟩
      have := (digitsValue_iff (value ds)).2 ⟨digits, rfl, range⟩
      simp [run] at this
    simp only [readInt, sign, List.isEmpty_iff, empty, run, bind, Except.bind, ↓reduceIte, reduceCtorEq, false_iff]
    rintro ⟨-, digits, same⟩
    apply refused ⟨digits, _⟩
    split at same <;> omega
  | ok n =>
    obtain ⟨digits, rfl, range⟩ := (digitsValue_iff n).1 run
    have word {k : Int} (low : -2 ^ 63 ≤ k) (high : k < 2 ^ 63) : Int64.ofInt k = x ↔ x.toInt = k := by
      rw [← Int64.toInt_inj, Int64.toInt_ofInt_of_le low high]
      exact eq_comm
    simp only [readInt, sign, List.isEmpty_iff, empty, run, bind, Except.bind, pure, Except.pure, ↓reduceIte, ne_eq,
      not_false_eq_true, true_and, and_iff_right digits, throw, throwThe, MonadExceptOf.throw]
    cases negative with
    | true =>
      simp only [↓reduceIte]
      split
      · simp only [reduceCtorEq, false_iff]
        omega
      · rw [Except.ok.injEq, word (by omega) (by omega)]
    | false =>
      simp only [Bool.false_eq_true, ↓reduceIte]
      split
      · simp only [reduceCtorEq, false_iff]
        omega
      · rw [Except.ok.injEq, ← Int64.ofInt_eq_ofNat, word (by omega) (by omega)]

/-- Digits start with no sign. -/
theorem takeSign_of_digits {ds : Octets} (digits : ∀ b ∈ ds, Octets.isDigit b = true) :
    takeSign ds = (false, ds) := by
  rw [takeSign]
  · rintro rest rfl
    exact absurd (digits 43 (by simp)) (by decide)
  · rintro rest rfl
    exact absurd (digits 45 (by simp)) (by decide)

/-- A word is read from the decimal numerals of its value and from nothing else. -/
theorem readInt_eq_ok_iff {s : Octets} {x : Int64} : readInt s = .ok x ↔ Decimal s x.toInt := by
  constructor
  · intro read
    rcases sign : takeSign s with ⟨negative, ds⟩
    obtain ⟨ne, digits, same⟩ := (readInt_of_takeSign sign).1 read
    unfold takeSign at sign
    split at sign
    · cases sign
      rw [same]
      exact .plus ne digits
    · cases sign
      rw [same]
      exact .minus ne digits
    · cases sign
      rw [same]
      exact .plain ne digits
  · intro numeral
    generalize same : x.toInt = n at numeral
    cases numeral with
    | plain ne digits => exact (readInt_of_takeSign (takeSign_of_digits digits)).2 ⟨ne, digits, same⟩
    | @plus ds ne digits =>
      have sign : takeSign (43 :: ds) = (false, ds) := rfl
      exact (readInt_of_takeSign sign).2 ⟨ne, digits, same⟩
    | @minus ds ne digits =>
      have sign : takeSign (45 :: ds) = (true, ds) := rfl
      exact (readInt_of_takeSign sign).2 ⟨ne, digits, same⟩

theorem value_ofAscii {cs : List Char} (digits : ∀ c ∈ cs, c.isDigit = true) :
    value (cs.map Octets.ofAscii) = Nat.ofDigitChars 10 cs 0 := by
  induction cs with
  | nil => rfl
  | cons c cs ih =>
    have octet := Octets.toNat_ofAscii (Octets.ascii_of_isDigit (digits c (by simp)))
    have first : Nat.ofDigitChars 10 (c :: cs) 0 = 10 ^ cs.length * (c.toNat - 48) + Nat.ofDigitChars 10 cs 0 := by
      rw [Nat.ofDigitChars_cons, Nat.mul_zero, Nat.zero_add]
      exact Nat.ofDigitChars_eq_ofDigitChars_zero
    rw [List.map_cons, value_cons, ih fun d hd => digits d (by simp [hd]), List.length_map, octet, first, Nat.mul_comm]

theorem value_ofNat (n : Nat) : value (Octets.ofNat n) = n := by
  rw [Octets.ofNat_eq, value_ofAscii fun c hc => Nat.isDigit_of_mem_toDigits (by decide) (by decide) hc]
  exact Nat.ofDigitChars_ten_toDigits

theorem decimal_ofInt (n : Int) : Decimal (Octets.ofInt n) n := by
  have digits : ∀ b ∈ Octets.ofNat n.natAbs, Octets.isDigit b = true := fun _ => Octets.isDigit_of_mem_ofNat
  have ne := Octets.ofNat_ne_nil n.natAbs
  have magnitude := value_ofNat n.natAbs
  rw [Octets.ofInt_eq]
  split
  · rename_i negative
    have same : n = -(value (Octets.ofNat n.natAbs) : Int) := by omega
    nth_rewrite 2 [same]
    exact .minus ne digits
  · rename_i nonneg
    have same : n = (value (Octets.ofNat n.natAbs) : Int) := by omega
    nth_rewrite 2 [same]
    exact .plain ne digits

/-- The decimal spelling of a word reads as that word. -/
theorem readInt_ofInt (x : Int64) : readInt (Octets.ofInt x.toInt) = .ok x :=
  readInt_eq_ok_iff.2 (decimal_ofInt x.toInt)

end BlitReel.Numeral
