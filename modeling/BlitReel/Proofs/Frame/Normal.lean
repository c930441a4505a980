import Mathlib
import BlitReel.Proofs.Frame.RoundTrip

/-!
# Texts in normal form

Many texts read as one frame; the text that the frame itself has is their normal form. It reads as
that frame again, with one exception: rows of width zero are empty lines, and the last of them has no
line feed behind it, so that it is not seen and the reader misses a row.
-/

namespace BlitReel.Frame

namespace Consistent

variable {f : Frame} (h : f.Consistent)

include h

theorem rows_eq_nil_iff : f.rows = [] ↔ f.height = 0 := by
  have count := h.rows_length
  rw [← List.length_eq_zero_iff, ← Int64.toInt_inj, Int64.toInt_zero]
  omega

/-- The last row is empty exactly if there are rows and they are of width zero. -/
theorem getLast?_eq_iff : f.rows.getLast? = some [] ↔ f.width = 0 ∧ f.height ≠ 0 := by
  rw [ne_eq, ← h.rows_eq_nil_iff, ← Int64.toInt_inj, Int64.toInt_zero]
  constructor
  · intro last
    have mem := List.mem_of_getLast? last
    have width := h.row_length [] mem
    exact ⟨by simpa using width.symm, List.ne_nil_of_mem mem⟩
  · rintro ⟨width, ne⟩
    have length := h.row_length _ (List.getLast_mem ne)
    rw [width] at length
    have empty : f.rows.getLast ne = [] := List.eq_nil_of_length_eq_zero (by omega)
    rw [List.getLast?_eq_some_getLast ne, empty]

/-- A frame with empty rows reads back one row short of its header. -/
theorem parse_text_hollow (last : f.rows.getLast? = some []) (short : ∀ row ∈ f.rows, row.length < maxLine) :
    parse f.text = .error (.rowCount (f.rows.length - 1) f.height) := by
  have lines := rawLines_text h.clear
  rw [if_pos last] at lines
  have present : 0 < f.rows.length := List.length_pos_of_mem (List.mem_of_getLast? last)
  have rest : ∀ row ∈ f.rows.dropLast.map dropReturn, row ∈ f.rows := by
    intro row mem
    rw [List.map_dropLast, h.map_dropReturn] at mem
    exact List.mem_of_mem_dropLast mem
  have taken : parseRows f.width f.rows.dropLast 0 [] = .ok (f.rows.dropLast.map dropReturn).reverse := by
    refine parseRows_eq_ok_iff.2 ⟨fun row mem => short row (List.mem_of_mem_dropLast mem), fun row mem => ?_, by simp⟩
    exact ⟨h.row_length row (rest row mem), h.digits row (rest row mem)⟩
  have count := h.rows_length
  rw [parse_of_rows lines f.length_headerLine f.parseHeader_headerLine taken, if_neg]
  · simp
  · simp only [List.length_reverse, List.length_map, List.length_dropLast]
    omega

end Consistent

/-- **Normal forms are stable, but for empty rows.** A frame that any text reads as is read again from
its own text exactly if its width is not zero or it has no rows. A frame with rows of width zero has
a text that is refused because it is one row short. -/
theorem parse_text_of_parse {data : Octets} {f : Frame} (read : parse data = .ok f) :
    (parse f.text = .ok f ↔ f.width ≠ 0 ∨ f.height = 0) ∧
    (f.width = 0 → f.height ≠ 0 → parse f.text = .error (.rowCount (f.rows.length - 1) f.height)) := by
  obtain ⟨consistent, short⟩ := consistent_of_parse read
  by_cases last : f.rows.getLast? = some []
  · have refused := consistent.parse_text_hollow last short
    obtain ⟨width, height⟩ := consistent.getLast?_eq_iff.1 last
    simp [refused, width, height]
  · have again := consistent.parse_text short last
    rw [consistent.getLast?_eq_iff] at last
    exact ⟨iff_of_true again ((not_and_or.1 last).imp_right not_not.1), fun width height => absurd ⟨width, height⟩ last⟩

/-- A header with signs, blanks and a carriage return, and no rows, has a normal form that is read
again; three empty rows have not. -/
theorem parse_text_of_parse_degenerate :
    parse (text ⟨-5, 0, []⟩) = .ok ⟨-5, 0, []⟩ ∧ parse (text ⟨0, 3, [[], [], []]⟩) = .error (.rowCount 2 3) := by
  have signed : parse (Octets.ofString " -5\t+0 \x0d\n") = .ok ⟨-5, 0, []⟩ := rfl
  have hollow : parse (Octets.ofString "0 3\n\n\x0d\n\n") = .ok ⟨0, 3, [[], [], []]⟩ := rfl
  exact ⟨(parse_text_of_parse signed).1.2 (by decide), (parse_text_of_parse hollow).2 (by decide) (by decide)⟩

/-- The smallest text whose normal form is not read again. -/
theorem normal_form_unreadable :
    ∃ f, parse (Octets.ofString "0 1\n\n") = .ok f ∧ f.text = Octets.ofString "0 1\n" ∧
      parse f.text = .error (.rowCount 0 1) :=
  ⟨⟨0, 1, [[]]⟩, rfl, rfl, rfl⟩

end BlitReel.Frame
