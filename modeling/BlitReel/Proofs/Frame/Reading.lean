import Mathlib
import BlitReel.Frame.Parser
import BlitReel.Proofs.Number.Numeral
import BlitReel.Proofs.Text.Words

/-!
# Which texts read as frames

A text reads as a frame exactly if its lines are short enough, its first line has two words that are
decimal numerals of a width and a height, and the other lines are that many rows of that many digits:
`Frame.parse_eq_ok_iff`. Each function of the reader has one lemma that says when it succeeds.
-/

namespace BlitReel

theorem Palette.isDigit_iff {b : UInt8} :
    isDigit b = true ↔ (0x30 ≤ b ∧ b ≤ 0x39) ∨ (0x61 ≤ b ∧ b ≤ 0x66) := by
  have digits : alphabet = [0x30, 0x31, 0x32, 0x33, 0x34, 0x35, 0x36, 0x37, 0x38, 0x39, 0x61, 0x62, 0x63, 0x64, 0x65,
    0x66] := by decide
  simp only [isDigit, digits, List.contains_eq_mem, List.mem_cons, List.not_mem_nil, or_false, decide_eq_true_eq,
    UInt8.le_iff_toNat_le, ← UInt8.toNat_inj, UInt8.reduceToNat]
  omega

namespace Frame

/-- As many rows and columns as the frame itself says, in digits. -/
structure Consistent (f : Frame) : Prop where
  rows_length : (f.rows.length : Int) = f.height.toInt
  row_length : ∀ row ∈ f.rows, (row.length : Int) = f.width.toInt
  digits : ∀ row ∈ f.rows, ∀ d ∈ row, Palette.isDigit d = true

theorem length_dropReturn_le (line : Octets) : (dropReturn line).length ≤ line.length := by
  rw [dropReturn]
  split
  · simp
  · exact le_refl _

theorem readLine_eq_ok_iff {piece line : Octets} :
    readLine piece = .ok line ↔ piece.length < maxLine ∧ dropReturn piece = line := by
  rw [readLine]
  split
  · simp only [reduceCtorEq, false_iff]
    omega
  · rename_i short
    simp [not_le.1 short]

theorem checkRow_eq_ok_iff {width : Int64} {n : Nat} {row : Octets} :
    checkRow width n row = .ok () ↔ (row.length : Int) = width.toInt ∧ ∀ d ∈ row, Palette.isDigit d = true := by
  rw [checkRow]
  split
  · rename_i length
    simp [length]
  · rename_i length
    split
    · rename_i d found
      have mem := List.mem_of_find?_eq_some found
      have odd := List.find?_some found
      simp only [reduceCtorEq, false_iff, not_and, not_forall]
      exact fun _ => ⟨d, mem, by simpa using odd⟩
    · rename_i none
      rw [List.find?_eq_none] at none
      simpa [not_not.1 length] using none

/-- The rows are the lines after the header, if these are short, wide and plain as they should be. -/
theorem parseRows_eq_ok_iff {width : Int64} {pieces : List Octets} {count : Nat} {done rows : List Octets} :
    parseRows width pieces count done = .ok rows ↔
      (∀ piece ∈ pieces, piece.length < maxLine) ∧
      (∀ row ∈ pieces.map dropReturn, (row.length : Int) = width.toInt ∧ ∀ d ∈ row, Palette.isDigit d = true) ∧
      rows = (pieces.map dropReturn).reverse ++ done := by
  induction pieces generalizing count done with
  | nil => simp [parseRows, @eq_comm _ done]
  | cons piece pieces ih =>
    rw [parseRows, List.map_cons, List.forall_mem_cons, List.forall_mem_cons, List.reverse_cons, List.append_assoc,
      List.singleton_append]
    rcases line : readLine piece with fault | row
    · have long : ¬piece.length < maxLine := fun short => by
        simp [readLine_eq_ok_iff.2 ⟨short, rfl⟩] at line
      simp [long]
    obtain ⟨short, rfl⟩ := readLine_eq_ok_iff.1 line
    rcases check : checkRow width (count + 1) (dropReturn piece) with fault | _
    · have bad : ¬((dropReturn piece).length = width.toInt ∧ ∀ d ∈ dropReturn piece, Palette.isDigit d = true) :=
        fun good => by simp [checkRow_eq_ok_iff.2 good] at check
      simp only [check, reduceCtorEq, false_iff]
      exact fun all => bad all.2.1.1
    · have good := checkRow_eq_ok_iff.1 check
      simp only [check, ih, short, true_and, and_iff_right good]

/-- A header is two words, each a decimal numeral of a word. -/
theorem parseHeader_eq_ok_iff {line : Octets} {width height : Int64} :
    parseHeader line = .ok (width, height) ↔
      ∃ a b, Blank.words line = [a, b] ∧ Numeral.Decimal a width.toInt ∧ Numeral.Decimal b height.toInt := by
  simp only [← Numeral.readInt_eq_ok_iff]
  rw [parseHeader]
  split
  · rename_i a b words
    rw [words]
    rcases first : Numeral.readInt a with fault | w
    · simp [first, Except.mapError, bind, Except.bind]
    · rcases second : Numeral.readInt b with fault | h
      · simp [second, Except.mapError, bind, Except.bind]
      · simp [first, second, Except.mapError, bind, Except.bind, pure, Except.pure]
  · rename_i other
    simp only [reduceCtorEq, false_iff]
    rintro ⟨a, b, words, -⟩
    exact other a b words

/-- What comes of lines whose header and rows are read. -/
theorem parse_of_rows {data first : Octets} {pieces rows : List Octets} {width height : Int64}
    (lines : rawLines data = first :: pieces) (short : first.length < maxLine)
    (header : parseHeader (dropReturn first) = .ok (width, height))
    (read : parseRows width pieces 0 [] = .ok rows) :
    parse data = if (rows.length : Int) = height.toInt then .ok ⟨width, height, rows.reverse⟩
      else .error (.rowCount rows.length height) := by
  have line : readLine first = .ok (dropReturn first) := readLine_eq_ok_iff.2 ⟨short, rfl⟩
  rw [parse, lines]
  simp only [line, header, read, bind, Except.bind, pure, Except.pure, throw, throwThe, MonadExceptOf.throw, ne_eq,
    ite_not]

/-- Lines are read as a frame exactly if they are short, the first one is a header and the others are
the rows that it announces. -/
theorem parse_eq_ok_iff {data : Octets} {f : Frame} :
    parse data = .ok f ↔ ∃ first pieces, rawLines data = first :: pieces ∧
      (∀ piece ∈ first :: pieces, piece.length < maxLine) ∧
      parseHeader (dropReturn first) = .ok (f.width, f.height) ∧ f.rows = pieces.map dropReturn ∧ f.Consistent := by
  constructor
  · intro read
    rcases lines : rawLines data with _ | ⟨first, pieces⟩
    · simp [parse, lines, throw, throwThe, MonadExceptOf.throw] at read
    rcases line : readLine first with fault | header
    · simp [parse, lines, line, bind, Except.bind] at read
    obtain ⟨short, rfl⟩ := readLine_eq_ok_iff.1 line
    rcases size : parseHeader (dropReturn first) with fault | ⟨width, height⟩
    · simp [parse, lines, line, size, bind, Except.bind] at read
    rcases taken : parseRows width pieces 0 [] with fault | rows
    · simp [parse, lines, line, size, taken, bind, Except.bind] at read
    rw [parse_of_rows lines short size taken] at read
    obtain ⟨shorts, good, rfl⟩ := parseRows_eq_ok_iff.1 taken
    rw [List.append_nil, List.reverse_reverse, List.length_reverse] at read
    split at read
    · rename_i count
      cases read
      exact ⟨first, pieces, rfl, List.forall_mem_cons.2 ⟨short, shorts⟩, size, rfl,
        ⟨count, fun row mem => (good row mem).1, fun row mem => (good row mem).2⟩⟩
    · cases read
  · rintro ⟨first, pieces, lines, short, header, rows, consistent⟩
    rw [List.forall_mem_cons] at short
    have taken : parseRows f.width pieces 0 [] = .ok f.rows.reverse := by
      rw [parseRows_eq_ok_iff, ← rows, List.append_nil]
      exact ⟨short.2, fun row mem => ⟨consistent.row_length row mem, consistent.digits row mem⟩, rfl⟩
    rw [parse_of_rows lines short.1 header taken, List.length_reverse, if_pos consistent.rows_length,
      List.reverse_reverse]

/-- A frame that was read is consistent and its rows are short. -/
theorem consistent_of_parse {data : Octets} {f : Frame} (read : parse data = .ok f) :
    f.Consistent ∧ ∀ row ∈ f.rows, row.length < maxLine := by
  obtain ⟨first, pieces, -, short, -, rows, consistent⟩ := parse_eq_ok_iff.1 read
  refine ⟨consistent, fun row mem => ?_⟩
  rw [rows] at mem
  obtain ⟨piece, inside, rfl⟩ := List.mem_map.1 mem
  exact (length_dropReturn_le piece).trans_lt (short piece (List.mem_cons_of_mem _ inside))

/-- The lines of a text: the pieces between line feeds, without a last one that is empty, each without
one carriage return at its end. -/
def lines (data : Octets) : List Octets :=
  let pieces := List.splitOn 0x0A data
  (if pieces.getLast? = some [] then pieces.dropLast else pieces).map fun piece =>
    if piece.getLast? = some 0x0D then piece.dropLast else piece

theorem lines_eq (data : Octets) : lines data = (rawLines data).map dropReturn := by
  simp only [lines, rawLines, Octets.splitOn_eq, beq_iff_eq]
  congr 1
  funext piece
  simp only [dropReturn, beq_iff_eq]

theorem mem_splitOn_of_mem_rawLines {data piece : Octets} (mem : piece ∈ rawLines data) :
    piece ∈ List.splitOn 0x0A data := by
  rw [← Octets.splitOn_eq]
  simp only [rawLines] at mem
  split at mem
  · exact List.mem_of_mem_dropLast mem
  · exact mem

/-- A frame that was read has the size that the first line says and the other lines as its rows. -/
theorem lines_of_parse {data : Octets} {f : Frame} (read : parse data = .ok f) :
    ∃ first a b, lines data = first :: f.rows ∧ Blank.words first = [a, b] ∧
      Numeral.Decimal a f.width.toInt ∧ Numeral.Decimal b f.height.toInt := by
  obtain ⟨first, pieces, split, -, header, rows, -⟩ := parse_eq_ok_iff.1 read
  obtain ⟨a, b, words, width, height⟩ := parseHeader_eq_ok_iff.1 header
  exact ⟨dropReturn first, a, b, by rw [lines_eq, split, List.map_cons, rows], words, width, height⟩

/-- **Which texts are frames.** A text whose pieces between line feeds are shorter than `2 ^ 20` octets
reads as a frame exactly if it has a first line, white space divides that line into two words, these
are decimal numerals of two 64-bit words, as many lines follow as the second says, and each of them
has as many octets as the first says, all of them digits. The frame has that width, that height and
those lines. -/
theorem parse_succeeds_iff {data : Octets} (short : ∀ piece ∈ List.splitOn 0x0A data, piece.length < 2 ^ 20) :
    ((∃ f, parse data = .ok f) ↔ ∃ (first : Octets) (rows : List Octets) (a b : Octets) (width height : Int64),
      lines data = first :: rows ∧ (Blank.stretches (Utf8.runes first)).map Blank.spell = [a, b] ∧
      Numeral.Decimal a width.toInt ∧ Numeral.Decimal b height.toInt ∧ (rows.length : Int) = height.toInt ∧
      ∀ row ∈ rows, (row.length : Int) = width.toInt ∧
        ∀ d ∈ row, (0x30 ≤ d ∧ d ≤ 0x39) ∨ (0x61 ≤ d ∧ d ≤ 0x66)) ∧
    ∀ f, parse data = .ok f → ∃ first a b, lines data = first :: f.rows ∧
      (Blank.stretches (Utf8.runes first)).map Blank.spell = [a, b] ∧
      Numeral.Decimal a f.width.toInt ∧ Numeral.Decimal b f.height.toInt := by
  simp only [← Blank.words_eq, ← Palette.isDigit_iff]
  refine ⟨⟨?_, ?_⟩, fun f read => lines_of_parse read⟩
  · rintro ⟨f, read⟩
    obtain ⟨first, a, b, split, words, width, height⟩ := lines_of_parse read
    obtain ⟨consistent, -⟩ := consistent_of_parse read
    exact ⟨first, f.rows, a, b, f.width, f.height, split, words, width, height, consistent.rows_length,
      fun row mem => ⟨consistent.row_length row mem, consistent.digits row mem⟩⟩
  · rintro ⟨first, rows, a, b, w, h, split, words, width, height, count, good⟩
    rw [lines_eq, List.map_eq_cons_iff] at split
    obtain ⟨piece, pieces, split, rfl, rfl⟩ := split
    refine ⟨⟨w, h, pieces.map dropReturn⟩, parse_eq_ok_iff.2 ⟨piece, pieces, split, fun x mem => ?_, ?_, rfl, ?_⟩⟩
    · exact short x (mem_splitOn_of_mem_rawLines (split ▸ mem))
    · exact parseHeader_eq_ok_iff.2 ⟨a, b, words, width, height⟩
    · exact ⟨count, fun row mem => (good row mem).1, fun row mem => (good row mem).2⟩

/-- A text with carriage returns, a sign, a leading zero and white space beyond ASCII is a frame. -/
theorem parse_succeeds_iff_foreign :
    ∃ f, parse [0xC2, 0xA0, 0x2B, 0x31, 0xE3, 0x80, 0x80, 0x30, 0x32, 0x0D, 0x0A, 0x30, 0x0D, 0x0A, 0x66, 0x0A] = .ok f ∧
      f.rows = [[0x30], [0x66]] := by
  obtain ⟨reads, frame⟩ := @parse_succeeds_iff
    [0xC2, 0xA0, 0x2B, 0x31, 0xE3, 0x80, 0x80, 0x30, 0x32, 0x0D, 0x0A, 0x30, 0x0D, 0x0A, 0x66, 0x0A] (by decide)
  obtain ⟨f, read⟩ := reads.2
    ⟨[0xC2, 0xA0, 0x2B, 0x31, 0xE3, 0x80, 0x80, 0x30, 0x32], [[0x30], [0x66]], [0x2B, 0x31], [0x30, 0x32], 1, 2,
      by decide, by decide, .plus (by decide) (by simp [Octets.isDigit]), .plain (by decide) (by simp [Octets.isDigit]),
      by decide, by simp⟩
  obtain ⟨first, a, b, split, -⟩ := frame f read
  exact ⟨f, read, (List.cons.inj split).2.symm⟩

end Frame

end BlitReel
