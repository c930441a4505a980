import Mathlib
import BlitReel.Proofs.Except
import BlitReel.Proofs.Number.Whole
import BlitReel.Proofs.Text.Words
import BlitReel.Timestamp

/-!
# Timestamps of hours, minutes and seconds

Of a timestamp made of digits between colons, the first part is bounded only by what a word can hold, and the other
parts are below sixty. What is accepted is the exact number of nanoseconds as far as a word can hold it
(`parse_hours_iff`, `parse_minutes_iff`); larger numbers wrap.
-/

namespace BlitReel

namespace Blank

/-- A visible text has nothing to trim. -/
theorem trim_visible {s : Octets} (visible : ∀ b ∈ s, 32 < b.toNat ∧ b.toNat < 127) : trim s = s := by
  have none {rs : List Rune} (clear : ∀ r ∈ rs, isBlankRune r = false) : rs.dropWhile isBlankRune = rs := by
    cases rs with
    | nil => rfl
    | cons r rs => rw [List.dropWhile_cons_of_neg (by simp [clear r])]
  have clear := runes_visible visible
  rw [trim, none clear, none fun r mem => clear r (List.mem_reverse.1 mem), List.reverse_reverse, spell_runes]

end Blank

namespace Timestamp

open Numeral (value)

/-- The nanoseconds of so many hours, minutes and seconds. -/
def clock (hours minutes seconds : Nat) : Nat := (3600 * hours + 60 * minutes + seconds) * 10 ^ 9

/-- Digits that spell a number below a bound. -/
def Below (part : Octets) (bound : Nat) : Prop := part ≠ [] ∧ value part < bound

instance (part : Octets) (bound : Nat) : Decidable (Below part bound) := inferInstanceAs (Decidable (_ ∧ _))

/-- Numbers of seconds below sixty are doubles, and their nanoseconds are exact. -/
theorem scaled_nearest : ∀ n < 60, ∃ x, Binary64.nearest false n 1 = some x ∧ x ≥ 0.0 ∧ Binary64.isInfinite x = false ∧
    ¬ x ≥ 60.0 ∧ scaled x 1000000000.0 = Int64.ofNat (clock 0 0 n) := by
  have table : ∀ n < 60, (Binary64.nearest false n 1).any (fun x =>
      x ≥ 0.0 && !Binary64.isInfinite x && !(x ≥ 60.0 : Bool) && scaled x 1000000000.0 == Int64.ofNat (clock 0 0 n)) = true := by
    decide +kernel
  intro n small
  have entry := table n small
  cases near : Binary64.nearest false n 1 with
  | none =>
    rw [near] at entry
    cases entry
  | some x =>
    rw [near] at entry
    simp only [Option.any_some, Bool.and_eq_true, decide_eq_true_eq, Bool.not_eq_true', decide_eq_false_iff_not,
      beq_iff_eq] at entry
    obtain ⟨⟨⟨nonneg, finite⟩, below⟩, exactly⟩ := entry
    exact ⟨x, rfl, nonneg, finite, below, exactly⟩

section Digits

variable {part : Octets} (digits : ∀ b ∈ part, Octets.isDigit b = true)

include digits

theorem readCount_digits :
    readCount part = if Below part (2 ^ 63) then some (Int64.ofNat (value part)) else none := by
  unfold readCount
  split
  · rename_i n read
    obtain ⟨ne, small, rfl⟩ := (Numeral.readInt_digits digits).1 read
    have zero : (0 : Int64).toInt = 0 := rfl
    have nonneg : ¬ Int64.ofNat (value part) < 0 := by
      rw [Int64.lt_iff_toInt_lt, zero, Numeral.toInt_ofNat_eq_iff.2 small]
      omega
    rw [if_neg nonneg, if_pos ⟨ne, small⟩]
  · rename_i fault refused
    rw [if_neg]
    rintro ⟨ne, small⟩
    rw [(Numeral.readInt_digits digits).2 ⟨ne, small, rfl⟩] at refused
    cases refused

theorem readHours_digits (s : Octets) :
    readHours s part =
      if Below part (2 ^ 63) then .ok (Int64.ofNat (clock (value part) 0 0)) else .error (.invalid s) := by
  have scaled : Int64.ofNat (value part) * hour = Int64.ofNat (clock (value part) 0 0) := by
    rw [clock, show (3600 * value part + 60 * 0 + 0) * 10 ^ 9 = value part * 3600000000000 by ring, Int64.ofNat_mul]
    rfl
  rw [readHours, readCount_digits digits]
  by_cases below : Below part (2 ^ 63)
  · simp only [below, if_true, scaled]
  · simp only [below, if_false]

theorem readMinutes_digits (first : Bool) (s : Octets) :
    readMinutes first s part =
      if Below part (if first then 2 ^ 63 else 60) then .ok (Int64.ofNat (clock 0 (value part) 0))
      else .error (.invalid s) := by
  have scaled : Int64.ofNat (value part) * minute = Int64.ofNat (clock 0 (value part) 0) := by
    rw [clock, show (3600 * 0 + 60 * value part + 0) * 10 ^ 9 = value part * 60000000000 by ring, Int64.ofNat_mul]
    rfl
  rw [readMinutes, readCount_digits digits]
  by_cases counted : Below part (2 ^ 63)
  · have bounded : Int64.ofNat (value part) ≥ 60 ↔ 60 ≤ value part := by
      have sixty : (60 : Int64).toInt = 60 := rfl
      rw [ge_iff_le, Int64.le_iff_toInt_le, sixty, Numeral.toInt_ofNat_eq_iff.2 counted.2]
      omega
    simp only [counted, if_true, bounded, scaled]
    cases first with
    | true => simpa using counted
    | false => by_cases below : value part < 60 <;> simp [Below, counted.1, below, Nat.not_le.2, Nat.not_lt.1]
  · have out : ¬ Below part (if first then 2 ^ 63 else 60) := by
      rintro ⟨ne, below⟩
      refine counted ⟨ne, below.trans_le ?_⟩
      split <;> decide
    simp only [counted, out, if_false]

omit digits in
theorem readAmount_eq (s : Octets) :
    readAmount s = (Numeral.readFloat s).toOption.filter fun x => x ≥ 0.0 && !Binary64.isInfinite x := by
  unfold readAmount
  cases Numeral.readFloat s with
  | error fault => rfl
  | ok x => simp [Except.toOption, Option.filter]

theorem readSeconds_digits (s : Octets) :
    readSeconds false s part =
      if Below part 60 then .ok (Int64.ofNat (clock 0 0 (value part))) else .error (.seconds s) := by
  rw [readSeconds, readAmount_eq]
  by_cases empty : part = []
  · rw [if_neg fun below => below.1 empty, empty]
    rfl
  rw [Numeral.readFloat_digits empty digits]
  by_cases small : value part < 60
  · obtain ⟨x, near, nonneg, finite, below, exactly⟩ := scaled_nearest _ small
    rw [near, if_pos ⟨empty, small⟩]
    simp [nonneg, finite, below, exactly, Option.filter]
  · rw [if_neg fun below => small below.2]
    cases near : Binary64.nearest false (value part) 1 with
    | none => rfl
    | some x =>
      have large := Binary64.sixty_le_of_nearest (Nat.not_lt.1 small) near
      rw [Option.filter_some]
      split
      · rename_i y kept
        split at kept
        · cases kept
          simp [large]
        · cases kept
      · rfl

end Digits

theorem ofNat_clock (hours minutes seconds : Nat) :
    Int64.ofNat (clock hours 0 0) + Int64.ofNat (clock 0 minutes 0) + Int64.ofNat (clock 0 0 seconds) =
      Int64.ofNat (clock hours minutes seconds) := by
  have sum : clock hours minutes seconds = clock hours 0 0 + clock 0 minutes 0 + clock 0 0 seconds := by
    unfold clock
    ring
  rw [sum, Int64.ofNat_add, Int64.ofNat_add]

theorem visible_of_isDigit {b : UInt8} (digit : Octets.isDigit b = true) : 32 < b.toNat ∧ b.toNat < 127 ∧ b ≠ 0x3A := by
  revert b
  decide +kernel

theorem splitOn_digits {part : Octets} (digits : ∀ b ∈ part, Octets.isDigit b = true) : Octets.splitOn 0x3A part = [part] :=
  Octets.splitOn_of_not_mem fun mem => (visible_of_isDigit (digits _ mem)).2.2 rfl

/-- Digits with a colon among them are read by their parts. -/
theorem parse_parts {s : Octets} (marks : ∀ b ∈ s, Octets.isDigit b = true ∨ b = 0x3A) (colon : 0x3A ∈ s) :
    parse s = parseParts s (Octets.splitOn 0x3A s) := by
  have full : s.isEmpty = false := List.isEmpty_eq_false_iff.2 (List.ne_nil_of_mem colon)
  have visible : ∀ b ∈ s, 32 < b.toNat ∧ b.toNat < 127 := by
    intro b mem
    rcases marks b mem with digit | rfl
    · exact ⟨(visible_of_isDigit digit).1, (visible_of_isDigit digit).2.1⟩
    · decide
  rw [parse]
  simp only [Blank.trim_visible visible, full, Bool.false_eq_true, if_false, List.contains_iff_mem.2 colon, if_true]

section Clock

variable {hours minutes seconds : Octets} (hDigits : ∀ b ∈ hours, Octets.isDigit b = true)
  (mDigits : ∀ b ∈ minutes, Octets.isDigit b = true) (sDigits : ∀ b ∈ seconds, Octets.isDigit b = true)

include mDigits sDigits

/-- A timestamp of minutes and seconds. -/
theorem parse_minutes_iff {d : Int64} :
    parse (minutes ++ 0x3A :: seconds) = .ok d ↔
      (Below minutes (2 ^ 63) ∧ Below seconds 60) ∧ d = Int64.ofNat (clock 0 (value minutes) (value seconds)) := by
  have marks : ∀ b ∈ minutes ++ 0x3A :: seconds, Octets.isDigit b = true ∨ b = 0x3A := by
    intro b mem
    rcases List.mem_append.1 mem with mem | mem
    · exact Or.inl (mDigits b mem)
    · exact (List.mem_cons.1 mem).symm.imp_left (sDigits b)
  have total := ofNat_clock 0 (value minutes) (value seconds)
  rw [show Int64.ofNat (clock 0 0 0) = 0 from rfl, Int64.zero_add] at total
  rw [parse_parts marks (by simp), Octets.splitOn_append_cons, splitOn_digits mDigits, splitOn_digits sDigits]
  generalize minutes ++ 0x3A :: seconds = s
  simp only [List.singleton_append, parseParts, Except.bind_eq_ok_iff, readMinutes_digits mDigits,
    readSeconds_digits sDigits, Except.ite_eq_ok_iff, if_true]
  constructor
  · rintro ⟨_, ⟨minutesFit, rfl⟩, _, ⟨secondsFit, rfl⟩, same⟩
    exact ⟨⟨minutesFit, secondsFit⟩, (Except.ok.inj same).symm.trans total⟩
  · rintro ⟨⟨minutesFit, secondsFit⟩, rfl⟩
    exact ⟨_, ⟨minutesFit, rfl⟩, _, ⟨secondsFit, rfl⟩, congrArg Except.ok total⟩

include hDigits

/-- A timestamp of hours, minutes and seconds. -/
theorem parse_hours_iff {d : Int64} :
    parse (hours ++ 0x3A :: (minutes ++ 0x3A :: seconds)) = .ok d ↔
      (Below hours (2 ^ 63) ∧ Below minutes 60 ∧ Below seconds 60) ∧
        d = Int64.ofNat (clock (value hours) (value minutes) (value seconds)) := by
  have marks : ∀ b ∈ hours ++ 0x3A :: (minutes ++ 0x3A :: seconds), Octets.isDigit b = true ∨ b = 0x3A := by
    intro b mem
    simp only [List.mem_append, List.mem_cons] at mem
    rcases mem with mem | mem | mem | mem | mem
    · exact Or.inl (hDigits b mem)
    · exact Or.inr mem
    · exact Or.inl (mDigits b mem)
    · exact Or.inr mem
    · exact Or.inl (sDigits b mem)
  have total := ofNat_clock (value hours) (value minutes) (value seconds)
  rw [parse_parts marks (by simp), Octets.splitOn_append_cons, Octets.splitOn_append_cons, splitOn_digits hDigits,
    splitOn_digits mDigits, splitOn_digits sDigits]
  generalize hours ++ 0x3A :: (minutes ++ 0x3A :: seconds) = s
  simp only [List.singleton_append, parseParts, Except.bind_eq_ok_iff, readHours_digits hDigits, readMinutes_digits mDigits,
    readSeconds_digits sDigits, Except.ite_eq_ok_iff, Bool.false_eq_true, if_false]
  constructor
  · rintro ⟨_, ⟨hoursFit, rfl⟩, _, ⟨minutesFit, rfl⟩, _, ⟨secondsFit, rfl⟩, same⟩
    exact ⟨⟨hoursFit, minutesFit, secondsFit⟩, (Except.ok.inj same).symm.trans total⟩
  · rintro ⟨⟨hoursFit, minutesFit, secondsFit⟩, rfl⟩
    exact ⟨_, ⟨hoursFit, rfl⟩, _, ⟨minutesFit, rfl⟩, _, ⟨secondsFit, rfl⟩, congrArg Except.ok total⟩

end Clock

/-- Digits between colons are accepted when the first part is a word and the others are below sixty. What is returned is
the exact number of nanoseconds if and only if that number is a word: nothing is refused for being too long. -/
theorem parse_exact_iff (hours minutes seconds : Octets) (hDigits : ∀ b ∈ hours, Octets.isDigit b = true)
    (mDigits : ∀ b ∈ minutes, Octets.isDigit b = true) (sDigits : ∀ b ∈ seconds, Octets.isDigit b = true) :
    (let text := hours ++ 0x3A :: (minutes ++ 0x3A :: seconds)
      let total := clock (value hours) (value minutes) (value seconds)
      ((∃ d, parse text = .ok d) ↔ Below hours (2 ^ 63) ∧ Below minutes 60 ∧ Below seconds 60) ∧
        ∀ d, parse text = .ok d → (d.toInt = total ↔ total < 2 ^ 63)) ∧
    (let text := minutes ++ 0x3A :: seconds
      let total := clock 0 (value minutes) (value seconds)
      ((∃ d, parse text = .ok d) ↔ Below minutes (2 ^ 63) ∧ Below seconds 60) ∧
        ∀ d, parse text = .ok d → (d.toInt = total ↔ total < 2 ^ 63)) := by
  have long (d : Int64) := @parse_hours_iff hours minutes seconds hDigits mDigits sDigits d
  have short (d : Int64) := @parse_minutes_iff minutes seconds mDigits sDigits d
  refine ⟨⟨?_, ?_⟩, ?_, ?_⟩
  · simp only [long, exists_and_left, exists_eq, and_true]
  · intro d accepted
    rw [((long d).1 accepted).2]
    exact Numeral.toInt_ofNat_eq_iff
  · simp only [short, exists_and_left, exists_eq, and_true]
  · intro d accepted
    rw [((short d).1 accepted).2]
    exact Numeral.toInt_ofNat_eq_iff

/-- The last second that a word can hold. -/
theorem parse_exact_iff_last : ∃ d, parse (Octets.ofString "2562047:47:16") = .ok d ∧ d.toInt = 9223372036000000000 := by
  have text : Octets.ofString "2562047:47:16" =
      Octets.ofString "2562047" ++ 0x3A :: (Octets.ofString "47" ++ 0x3A :: Octets.ofString "16") := by decide +kernel
  obtain ⟨⟨accepted, exactly⟩, -⟩ := parse_exact_iff (Octets.ofString "2562047") (Octets.ofString "47")
    (Octets.ofString "16") (by decide +kernel) (by decide +kernel) (by decide +kernel)
  obtain ⟨d, parsed⟩ := accepted.2 (by decide +kernel)
  refine ⟨d, by rw [text, parsed], ?_⟩
  exact ((exactly d parsed).2 (by decide +kernel)).trans (by decide +kernel)

/-- An hour later the nanoseconds wrap: the timestamp is accepted and lies before zero. -/
theorem parse_wraps : ∃ d, parse (Octets.ofString "2562048:00:00") = .ok d ∧ d.toInt < 0 :=
  ⟨-9223371273709551616, by decide +kernel, by decide⟩

end Timestamp

end BlitReel
