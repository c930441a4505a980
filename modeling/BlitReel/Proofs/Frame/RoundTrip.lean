import Mathlib
import BlitReel.Proofs.Frame.Encoding
import BlitReel.Proofs.Frame.Reading

/-!
# Frames read back

The text of a frame is its header line and its rows, joined by line feeds; none of these lines holds
a line feed or ends in a carriage return, so the reader sees exactly them, except that it does not see
a last row that is empty. A regular frame whose rows are shorter than the longest line reads back as
itself (`Regular.parse_text`), one with longer rows does not read at all (`Regular.parse_text_wide`).
-/

namespace BlitReel

namespace Frame

/-- Rows and columns as the frame itself says, at least one of each, in digits. -/
structure Regular (f : Frame) : Prop where
  width_pos : 0 < f.width.toInt
  height_pos : 0 < f.height.toInt
  rows_length : (f.rows.length : Int) = f.height.toInt
  row_length : ∀ row ∈ f.rows, (row.length : Int) = f.width.toInt
  digits : ∀ row ∈ f.rows, ∀ d ∈ row, Palette.isDigit d = true

/-- The header line without its line feed. -/
def headerLine (f : Frame) : Octets := Octets.ofInt f.width.toInt ++ 0x20 :: Octets.ofInt f.height.toInt

theorem visible_of_mem_ofInt {n : Int} {b : UInt8} (h : b ∈ Octets.ofInt n) : 32 < b.toNat ∧ b.toNat < 127 := by
  have digit (mem : b ∈ Octets.ofNat n.natAbs) : 32 < b.toNat ∧ b.toNat < 127 := by
    have range := Octets.isDigit_of_mem_ofNat mem
    simp only [Octets.isDigit, Bool.and_eq_true, decide_eq_true_eq, UInt8.le_iff_toNat_le, UInt8.reduceToNat] at range
    omega
  rw [Octets.ofInt_eq] at h
  split at h
  · rcases List.mem_cons.1 h with rfl | h
    · decide
    · exact digit h
  · exact digit h

theorem ofInt_ne_nil (n : Int) : Octets.ofInt n ≠ [] := by
  rw [Octets.ofInt_eq]
  split
  · simp
  · exact Octets.ofNat_ne_nil _

theorem length_ofInt_le (x : Int64) : (Octets.ofInt x.toInt).length ≤ 20 := by
  have low := x.le_toInt
  have high := x.toInt_lt
  have digits : (Octets.ofNat x.toInt.natAbs).length ≤ 19 := by
    rw [Octets.ofNat_eq, List.length_map, Nat.length_toDigits_le_iff (by decide) (by decide)]
    omega
  rw [Octets.ofInt_eq]
  split
  · rw [List.length_cons]
    omega
  · omega

theorem dropReturn_of_forall {line : Octets} (h : ∀ b ∈ line, b ≠ 0x0D) : dropReturn line = line := by
  rw [dropReturn, if_neg]
  intro last
  exact h _ (List.mem_of_getLast? (by simpa using last)) rfl

theorem ne_control_of_isDigit {b : UInt8} (h : Palette.isDigit b = true) : b ≠ 0x0A ∧ b ≠ 0x0D := by
  constructor <;> rintro rfl <;> exact absurd h (by decide)

section Header

variable (f : Frame)

theorem headerLine_clear : ∀ b ∈ f.headerLine, b ≠ 0x0A ∧ b ≠ 0x0D := by
  have visible : ∀ b : UInt8, 32 < b.toNat ∧ b.toNat < 127 → b ≠ 0x0A ∧ b ≠ 0x0D := by
    rintro b ⟨low, -⟩
    constructor <;> rintro rfl <;> exact absurd low (by decide)
  intro b hb
  rcases List.mem_append.1 hb with hb | hb
  · exact visible b (visible_of_mem_ofInt hb)
  · rcases List.mem_cons.1 hb with rfl | hb
    · decide
    · exact visible b (visible_of_mem_ofInt hb)

theorem length_headerLine : f.headerLine.length < maxLine := by
  have := length_ofInt_le f.width
  have := length_ofInt_le f.height
  simp only [headerLine, List.length_append, List.length_cons, maxLine]
  omega

theorem dropReturn_headerLine : dropReturn f.headerLine = f.headerLine :=
  dropReturn_of_forall fun b hb => (f.headerLine_clear b hb).2

theorem parseHeader_headerLine : parseHeader (dropReturn f.headerLine) = .ok (f.width, f.height) := by
  rw [dropReturn_headerLine]
  refine parseHeader_eq_ok_iff.2 ⟨Octets.ofInt f.width.toInt, Octets.ofInt f.height.toInt, ?_,
    Numeral.decimal_ofInt _, Numeral.decimal_ofInt _⟩
  exact Blank.words_pair (fun _ => visible_of_mem_ofInt) (fun _ => visible_of_mem_ofInt) (ofInt_ne_nil _)
    (ofInt_ne_nil _)

end Header

/-- The reader sees the header line and the rows, but not a last row that is empty. -/
theorem rawLines_text {f : Frame} (clear : ∀ row ∈ f.rows, (0x0A : UInt8) ∉ row) :
    rawLines f.text = f.headerLine :: if f.rows.getLast? = some [] then f.rows.dropLast else f.rows := by
  have head : (0x0A : UInt8) ∉ f.headerLine := fun mem => (f.headerLine_clear _ mem).1 rfl
  have parts : Octets.splitOn 0x0A f.text =
      f.headerLine :: Octets.splitOn 0x0A (f.rows.intersperse [0x0A]).flatten := by
    have text : f.text = f.headerLine ++ 0x0A :: (f.rows.intersperse [0x0A]).flatten := by
      simp [text, header, headerLine]
    rw [text, Octets.splitOn_append_cons, Octets.splitOn_of_not_mem head, List.singleton_append]
  rw [rawLines, parts]
  by_cases none : f.rows = []
  · -- the empty piece behind the header is no line
    rw [none]
    rfl
  · rw [Octets.splitOn_join clear none, List.getLast?_cons_of_ne_nil none]
    simp only [beq_iff_eq]
    split
    · exact List.dropLast_cons_of_ne_nil none
    · rfl

namespace Consistent

variable {f : Frame} (h : f.Consistent)

include h

theorem clear : ∀ row ∈ f.rows, (0x0A : UInt8) ∉ row := fun row mem hb =>
  (ne_control_of_isDigit (h.digits row mem _ hb)).1 rfl

theorem map_dropReturn : f.rows.map dropReturn = f.rows := by
  calc f.rows.map dropReturn = f.rows.map id := List.map_congr_left fun row mem =>
        dropReturn_of_forall fun b hb => (ne_control_of_isDigit (h.digits row mem b hb)).2
    _ = f.rows := List.map_id _

/-- A consistent frame with short rows, the last one not empty, reads back as itself. -/
theorem parse_text (short : ∀ row ∈ f.rows, row.length < maxLine) (last : f.rows.getLast? ≠ some []) :
    parse f.text = .ok f := by
  refine parse_eq_ok_iff.2 ⟨f.headerLine, f.rows, ?_, ?_, f.parseHeader_headerLine, h.map_dropReturn.symm, h⟩
  · rw [rawLines_text h.clear, if_neg last]
  · exact List.forall_mem_cons.2 ⟨f.length_headerLine, short⟩

end Consistent

namespace Regular

variable {f : Frame} (h : f.Regular)

include h

theorem consistent : f.Consistent := ⟨h.rows_length, h.row_length, h.digits⟩

theorem rows_ne_nil : f.rows ≠ [] := by
  intro e
  have := h.rows_length
  have := h.height_pos
  simp only [e, List.length_nil, Nat.cast_zero] at *
  omega

theorem last_ne_nil : f.rows.getLast? ≠ some [] := by
  intro e
  have := h.row_length [] (List.mem_of_getLast? e)
  have := h.width_pos
  simp only [List.length_nil, Nat.cast_zero] at *
  omega

/-- A regular frame with short rows reads back as itself. -/
theorem parse_text (short : f.width.toInt < 1048576) : parse f.text = .ok f := by
  refine h.consistent.parse_text (fun row mem => ?_) h.last_ne_nil
  have := h.row_length row mem
  simp only [maxLine]
  omega

/-- A regular frame with rows that are too long for a line does not read. -/
theorem parse_text_wide (wide : 1048576 ≤ f.width.toInt) : parse f.text = .error .lineTooLong := by
  obtain ⟨row, rest, split⟩ := List.exists_cons_of_ne_nil h.rows_ne_nil
  have long := h.row_length row (by simp [split])
  have refused : readLine row = .error .lineTooLong := by
    rw [readLine, if_pos (by simp only [maxLine]; omega)]
  have header : readLine f.headerLine = .ok (dropReturn f.headerLine) :=
    readLine_eq_ok_iff.2 ⟨f.length_headerLine, rfl⟩
  rw [parse, rawLines_text h.consistent.clear, if_neg h.last_ne_nil]
  simp only [header, f.parseHeader_headerLine, bind, Except.bind, split, parseRows, refused]

end Regular

/-- An encoded frame is regular. -/
theorem regular_of_encode {raw : RawFrame} {g : Geometry} {p : Palette} {f : Frame} (sound : g.Sound)
    (palette : p.check = .ok ()) (length : raw.pix.length = g.octets) (encoded : encode raw g p = .ok f) :
    f.Regular := by
  obtain ⟨f', encoded', shaped, drawn⟩ := encode_ok sound (Palette.ne_nil_of_check palette) length
  obtain rfl : f' = f := by simpa [encoded] using encoded'.symm
  have hw := sound.width_pos
  have hh := sound.height_pos
  refine ⟨by rw [shaped.width]; exact hw, by rw [shaped.height]; exact hh, ?_, ?_, ?_⟩
  · rw [shaped.rows_length, shaped.height]
    omega
  · intro row mem
    rw [shaped.row_length row mem, shaped.width]
    omega
  · intro row mem d hd
    obtain ⟨e, he, rfl⟩ := drawn.mem row mem d hd
    exact Palette.isDigit_of_check palette e he

theorem length_of_encode {raw : RawFrame} {g : Geometry} {p : Palette} {f : Frame} (encoded : encode raw g p = .ok f) :
    (raw.pix.length : Int) = g.frameSize.toInt := by
  by_contra ne
  rw [encode, if_pos ne] at encoded
  cases encoded

theorem regular_of_valid {raw : RawFrame} {g : Geometry} {p : Palette} {f : Frame} (geometry : g.validate = .ok ())
    (palette : p.check = .ok ()) (encoded : encode raw g p = .ok f) : f.Regular := by
  have sound := Geometry.validate_eq_ok_iff.1 geometry
  have length := length_of_encode encoded
  rw [← sound.natCast_octets] at length
  exact regular_of_encode sound palette (by exact_mod_cast length) encoded

/-- **Frames read back.** Every raw frame of a valid geometry is encoded. Below a width of `2 ^ 20`
the text of the frame reads back as that frame, and no other frame of any valid encoding has this
text; from there on the reader refuses the first row as too long. -/
theorem parse_text_of_encode {g : Geometry} {p : Palette} {raw : RawFrame} (geometry : g.validate = .ok ())
    (palette : p.check = .ok ()) (length : (raw.pix.length : Int) = g.frameSize.toInt) :
    ∃ f, encode raw g p = .ok f ∧ f.width = g.width ∧ f.height = g.height ∧
      (f.width.toInt < 2 ^ 20 → parse f.text = .ok f ∧
        ∀ g' p' raw' f', g'.validate = .ok () → Palette.check p' = .ok () → encode raw' g' p' = .ok f' →
          f'.text = f.text → f' = f) ∧
      (2 ^ 20 ≤ f.width.toInt → ∃ fault, parse f.text = .error fault ∧
        fault.message = "bufio.Scanner: token too long") := by
  have sound := Geometry.validate_eq_ok_iff.1 geometry
  have count : raw.pix.length = g.octets := by
    rw [← sound.natCast_octets] at length
    exact_mod_cast length
  obtain ⟨f, encoded, shaped, -⟩ := encode_ok sound (Palette.ne_nil_of_check palette) count
  have regular := regular_of_valid geometry palette encoded
  refine ⟨f, encoded, shaped.width, shaped.height, fun short => ⟨regular.parse_text short, ?_⟩, fun wide =>
    ⟨.lineTooLong, regular.parse_text_wide wide, rfl⟩⟩
  intro g' p' raw' f' geometry' palette' encoded' same
  have back := regular.parse_text short
  have regular' := regular_of_valid geometry' palette' encoded'
  rw [← same] at back
  rcases lt_or_ge f'.width.toInt 1048576 with short' | wide'
  · simpa [regular'.parse_text short'] using back
  · simp [regular'.parse_text_wide wide'] at back

/-- A frame of two cells, and one just too wide to be read. -/
theorem parse_text_of_encode_boundary :
    (∃ f, encode ⟨1, [240, 240, 240, 0, 0, 0]⟩ ⟨2, 1⟩ Palette.standard = .ok f ∧ parse f.text = .ok f) ∧
    ∃ f, encode ⟨1, List.replicate 3145728 0⟩ ⟨1048576, 1⟩ Palette.standard = .ok f ∧
      ∃ fault, parse f.text = .error fault ∧ fault.message = "bufio.Scanner: token too long" := by
  constructor
  · obtain ⟨f, encoded, width, -, back, -⟩ :=
      @parse_text_of_encode ⟨2, 1⟩ Palette.standard ⟨1, [240, 240, 240, 0, 0, 0]⟩ rfl rfl rfl
    exact ⟨f, encoded, (back (by rw [width]; decide)).1⟩
  · obtain ⟨f, encoded, width, -, -, refused⟩ :=
      @parse_text_of_encode ⟨1048576, 1⟩ Palette.standard ⟨1, List.replicate 3145728 0⟩ rfl rfl
        (by rw [List.length_replicate]; rfl)
    exact ⟨f, encoded, refused (by rw [width]; decide)⟩

end Frame

end BlitReel
