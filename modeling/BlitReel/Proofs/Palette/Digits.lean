import Mathlib
import BlitReel.Palette.Basic

/-!
# The digits of a checked palette

The check never asks whether every digit of the alphabet is there. It counts the entries, and finds
each digit in the alphabet and not among the digits it has seen. Sixteen different digits of sixteen
are all of them, so the check passes exactly if the digits are those of the alphabet in some order:
`check_eq_ok_iff`. From then on digits and entries determine each other (`lookup?_eq_some_iff`).
-/

namespace BlitReel.Palette

variable {p : Palette} {e : PaletteEntry} {d : UInt8}

theorem isDigit_iff_mem : isDigit d = true ↔ d ∈ alphabet := by
  rw [isDigit, List.contains_eq_mem, decide_eq_true_iff]

theorem nodup_alphabet : alphabet.Nodup := by decide

/-- What the scan of a palette checks, with the digits that it has seen before. -/
theorem checkDigits_eq_ok_iff {seen : Octets} :
    checkDigits p seen = .ok () ↔
      (∀ e ∈ p, e.digit ∈ alphabet ∧ e.digit ∉ seen) ∧ (p.map (·.digit)).Nodup := by
  induction p generalizing seen with
  | nil => simp [checkDigits]
  | cons e p ih =>
    rw [checkDigits]
    by_cases digit : e.digit ∈ alphabet
    · rw [if_neg (by simp [isDigit_iff_mem.2 digit])]
      by_cases known : e.digit ∈ seen
      · simp [known]
      rw [if_neg (by simpa using known), ih]
      simp only [List.mem_cons, not_or, List.map_cons, List.nodup_cons, List.mem_map]
      -- what the rest may not have because it is seen by then, it may not have because it would be there twice
      constructor
      · rintro ⟨later, distinct⟩
        refine ⟨?_, ?_, distinct⟩
        · rintro x (rfl | mem)
          · exact ⟨digit, known⟩
          · exact ⟨(later x mem).1, (later x mem).2.2⟩
        · rintro ⟨x, mem, same⟩
          exact (later x mem).2.1 same
      · rintro ⟨all, others, distinct⟩
        refine ⟨fun x mem => ?_, distinct⟩
        obtain ⟨sound, fresh⟩ := all x (Or.inr mem)
        exact ⟨sound, fun same => others ⟨x, mem, same⟩, fresh⟩
    · rw [if_pos (by simpa [isDigit] using digit)]
      simp [digit]

/-- The digits of a palette that passes its check are those of the alphabet in some order. -/
theorem check_eq_ok_iff : p.check = .ok () ↔ (p.map (·.digit)).Perm alphabet := by
  rw [check]
  constructor
  · intro h
    split at h <;> rename_i count
    · cases h
    obtain ⟨digits, distinct⟩ := checkDigits_eq_ok_iff.1 h
    have within : p.map (·.digit) ⊆ alphabet := by
      intro d mem
      obtain ⟨e, entry, rfl⟩ := List.mem_map.1 mem
      exact (digits e entry).1
    refine (List.subperm_of_subset distinct within).perm_of_length_le ?_
    rw [List.length_map, not_not.1 count]
  · intro perm
    have count : p.length = alphabet.length := by simpa using perm.length_eq
    rw [if_neg (not_not.2 count), checkDigits_eq_ok_iff]
    refine ⟨fun e mem => ⟨perm.mem_iff.1 (List.mem_map_of_mem mem), by simp⟩, ?_⟩
    exact perm.nodup_iff.2 nodup_alphabet

section Checked

variable (accepted : p.check = .ok ())

include accepted

theorem nodup_of_check : (p.map (·.digit)).Nodup := (check_eq_ok_iff.1 accepted).nodup_iff.2 nodup_alphabet

theorem mem_alphabet_iff : d ∈ alphabet ↔ ∃ e ∈ p, e.digit = d := by
  rw [← (check_eq_ok_iff.1 accepted).mem_iff, List.mem_map]

theorem isDigit_of_check : ∀ e ∈ p, isDigit e.digit = true := fun e mem =>
  isDigit_iff_mem.2 ((mem_alphabet_iff accepted).2 ⟨e, mem, rfl⟩)

theorem ne_nil_of_check : p ≠ [] := by
  rintro rfl
  cases accepted

/-- Each entry is found under its digit, and nothing else is. -/
theorem lookup?_eq_some_iff : p.lookup? d = some e ↔ e ∈ p ∧ e.digit = d := by
  constructor
  · intro found
    exact ⟨List.mem_of_find?_eq_some found, by simpa using List.find?_some found⟩
  · rintro ⟨mem, rfl⟩
    have some : (p.lookup? e.digit).isSome = true := by
      rw [lookup?, List.find?_isSome]
      exact ⟨e, mem, by simp⟩
    obtain ⟨x, found⟩ := Option.isSome_iff_exists.1 some
    have same : x.digit = e.digit := by simpa using List.find?_some found
    rw [found, List.inj_on_of_nodup_map (nodup_of_check accepted) (List.mem_of_find?_eq_some found) mem same]

theorem isSome_lookup?_iff : (p.lookup? d).isSome = true ↔ d ∈ alphabet := by
  simp only [Option.isSome_iff_exists, lookup?_eq_some_iff accepted, mem_alphabet_iff accepted]

end Checked

end BlitReel.Palette
