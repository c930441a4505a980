import Mathlib
import BlitReel.Frame.ColourError
import BlitReel.Proofs.Geometry
import BlitReel.Proofs.Palette.Digits
import BlitReel.Proofs.Palette.Nearest

/-!
# Encoding of whole frames

A raw frame is encoded if it fills its grid, and the digits of its pixels cut into rows are then the
frame: `Frame.encode_eq_ok_iff`. So the frame has the shape of the geometry and each cell shows the
pixel at its place (`Frame.encode_shaped`), and a raw frame of the size of a sound geometry is always
encoded (`Frame.encode_ok`). The colour error of a frame is always defined, because every cell has its
three octets in the raw frame: `Frame.meanError_ok`.
-/

namespace BlitReel

namespace Palette

/-- Pixel `k` of the octets is complete, and `d` is the digit of its colour. -/
def Shows (p : Palette) (pix : Octets) (k : Nat) (d : UInt8) : Prop :=
  ∃ r g b, pix[k * 3]? = some r ∧ pix[k * 3 + 1]? = some g ∧ pix[k * 3 + 2]? = some b ∧ p.nearest r g b = .ok d

theorem shows_succ (p : Palette) (r g b : UInt8) (pix : Octets) (k : Nat) (d : UInt8) :
    p.Shows (r :: g :: b :: pix) (k + 1) d ↔ p.Shows pix k d := by
  have place : (k + 1) * 3 = k * 3 + 1 + 1 + 1 := by omega
  simp only [Shows, place, List.getElem?_cons_succ]

theorem Shows.unique {p : Palette} {pix : Octets} {k : Nat} {d d' : UInt8} (h : p.Shows pix k d)
    (h' : p.Shows pix k d') : d = d' := by
  obtain ⟨r, g, b, red, green, blue, near⟩ := h
  obtain ⟨r', g', b', red', green', blue', near'⟩ := h'
  obtain rfl : r = r' := by simpa [red] using red'
  obtain rfl : g = g' := by simpa [green] using green'
  obtain rfl : b = b' := by simpa [blue] using blue'
  simpa [near] using near'

theorem Shows.mem {p : Palette} {pix : Octets} {k : Nat} {d : UInt8} (h : p.Shows pix k d) : ∃ e ∈ p, e.digit = d := by
  obtain ⟨r, g, b, -, -, -, near⟩ := h
  obtain ⟨e, leads, digit⟩ := nearest_eq_ok_iff.1 near
  exact ⟨e, leads.mem, digit⟩

theorem digitsAux_ok {p : Palette} (ne : p ≠ []) (pix done : Octets) :
    ∃ ds : Octets, digitsAux p pix done = .ok (ds.reverse ++ done) ∧ ds.length = pix.length / 3 ∧
      ∀ k d, ds[k]? = some d → p.Shows pix k d := by
  fun_induction digitsAux p pix done with
  | case1 r g b rest done d near ih =>
    obtain ⟨ds, run, length, shows⟩ := ih
    refine ⟨d :: ds, ?_, ?_, ?_⟩
    · simpa using run
    · simp only [List.length_cons, length]
      omega
    · intro k x hx
      cases k with
      | zero =>
        obtain rfl : d = x := by simpa using hx
        exact ⟨r, g, b, rfl, rfl, rfl, near⟩
      | succ k => exact (shows_succ p r g b rest k x).2 (shows k x (by simpa using hx))
  | case2 r g b rest done c near =>
    obtain ⟨e, -, near'⟩ := nearest_leads ne r g b
    simp [near] at near'
  | case3 pix done short =>
    refine ⟨[], by simp, ?_, by simp⟩
    -- fewer than three octets are left
    rcases pix with _ | ⟨r, _ | ⟨g, _ | ⟨b, rest⟩⟩⟩
    · simp
    · simp
    · simp
    · exact absurd rfl (short r g b rest)

/-- Every complete pixel gets the digit of its colour. -/
theorem digits_ok {p : Palette} (ne : p ≠ []) (pix : Octets) :
    ∃ ds, p.digits pix = .ok ds ∧ ds.length = pix.length / 3 ∧ ∀ k d, ds[k]? = some d → p.Shows pix k d := by
  obtain ⟨ds, run, length, shows⟩ := digitsAux_ok ne pix []
  exact ⟨ds, by simp [digits, run, Except.map], length, shows⟩

/-- The digits of octets are as many as the complete pixels, and each shows its own. -/
theorem digits_eq_ok_iff {p : Palette} (ne : p ≠ []) {pix ds : Octets} :
    p.digits pix = .ok ds ↔ ds.length = pix.length / 3 ∧ ∀ k d, ds[k]? = some d → p.Shows pix k d := by
  obtain ⟨ds', run, length, shows⟩ := digits_ok ne pix
  rw [run, Except.ok.injEq]
  constructor
  · rintro rfl
    exact ⟨length, shows⟩
  · rintro ⟨length', shows'⟩
    refine List.ext_getElem (length.trans length'.symm) fun k inside inside' => ?_
    exact (shows k _ (List.getElem?_eq_getElem inside)).unique (shows' k _ (List.getElem?_eq_getElem inside'))

end Palette

namespace Frame

theorem pieces_append {α : Type} (size n : Nat) (xs : List α) (done : List (List α)) :
    pieces size n xs done = done.reverse ++ (List.range n).map fun i => (xs.drop (i * size)).take size := by
  induction n generalizing xs done with
  | zero => simp [pieces]
  | succ n ih =>
    rw [pieces, ih, List.range_succ_eq_map]
    simp [List.drop_drop, Nat.succ_mul, Nat.add_comm]

/-- The pieces of a sequence are its consecutive stretches. -/
theorem pieces_eq {α : Type} (size n : Nat) (xs : List α) :
    pieces size n xs [] = (List.range n).map fun i => (xs.drop (i * size)).take size := by
  rw [pieces_append]
  rfl

/-- A frame has as many rows and columns as a geometry says. -/
structure Shaped (f : Frame) (g : Geometry) : Prop where
  width : f.width = g.width
  height : f.height = g.height
  rows_length : f.rows.length = g.height.toInt.toNat
  row_length : ∀ row ∈ f.rows, row.length = g.width.toInt.toNat

theorem length_row {α : Type} {xs : List α} {w h i : Nat} (length : xs.length = w * h) (hi : i < h) :
    ((xs.drop (i * w)).take w).length = w := by
  have room : i * w + w ≤ w * h := by
    rw [← Nat.succ_mul, Nat.mul_comm w]
    exact Nat.mul_le_mul_right w hi
  rw [List.length_take, List.length_drop, length]
  omega

/-- Cell `x` of row `y` shows the pixel that many rows and columns from the start. -/
def Drawn (f : Frame) (g : Geometry) (p : Palette) (pix : Octets) : Prop :=
  ∀ y row x d, f.rows[y]? = some row → row[x]? = some d → p.Shows pix (y * g.width.toInt.toNat + x) d

theorem Drawn.mem {f : Frame} {g : Geometry} {p : Palette} {pix : Octets} (h : f.Drawn g p pix) :
    ∀ row ∈ f.rows, ∀ d ∈ row, ∃ e ∈ p, e.digit = d := by
  intro row memRow d memDigit
  obtain ⟨y, hy⟩ := List.getElem?_of_mem memRow
  obtain ⟨x, hx⟩ := List.getElem?_of_mem memDigit
  exact (h y row x d hy hx).mem

/-- Column `x` of piece `y` is the element `x` places after `y` whole pieces. -/
theorem getElem?_pieces {α : Type} {size n : Nat} {xs : List α} {y x : Nat} {row : List α} {a : α}
    (hy : (pieces size n xs [])[y]? = some row) (hx : row[x]? = some a) : xs[y * size + x]? = some a := by
  rw [pieces_eq, List.getElem?_map] at hy
  obtain ⟨i, place, rfl⟩ := Option.map_eq_some_iff.1 hy
  obtain ⟨inside, rfl⟩ := List.getElem?_eq_some_iff.1 place
  rw [List.getElem_range, List.getElem?_take] at hx
  split at hx
  · rwa [List.getElem?_drop] at hx
  · cases hx

/-- So many octets fill a grid, and its rows are not too large to be had. -/
structure Fits (length : Nat) (g : Geometry) : Prop where
  size : (length : Int) = g.frameSize.toInt
  height_nonneg : 0 ≤ g.height.toInt
  height_le : g.height.toInt * rowHeaderSize ≤ maxAllocation
  width_nonneg : 0 < g.height.toInt → 0 ≤ g.width.toInt
  width_le : 0 < g.height.toInt → g.width.toInt ≤ maxAllocation
  full : 0 < g.height.toInt → g.width.toInt * g.height.toInt * 3 = length

/-- The octets of a frame that has rows are three for each cell, as whole numbers. -/
theorem Fits.length_eq {length : Nat} {g : Geometry} (h : Fits length g) (rows : 0 < g.height.toInt) :
    length = g.width.toInt.toNat * g.height.toInt.toNat * 3 := by
  have width := h.width_nonneg rows
  zify
  rw [Int.toNat_of_nonneg width, Int.toNat_of_nonneg rows.le, h.full rows]

theorem fits_of_sound {length : Nat} {g : Geometry} (sound : g.Sound) (size : length = g.octets) : Fits length g := by
  have hw := sound.width_pos
  have wl := sound.width_le
  have hh := sound.height_pos
  have hl := sound.height_le
  have count : (length : Int) = g.frameSize.toInt := by rw [size, sound.natCast_octets]
  refine ⟨count, hh.le, ?_, fun _ => hw.le, fun _ => ?_, fun _ => ?_⟩
  · simp only [maxAllocation, rowHeaderSize]
    omega
  · simp only [maxAllocation]
    omega
  · rw [count, sound.toInt_frameSize]

/-- A raw frame that fills its grid is encoded as the digits of its pixels, cut into rows. -/
theorem encode_eq_ok_iff {raw : RawFrame} {g : Geometry} {p : Palette} {f : Frame} :
    encode raw g p = .ok f ↔ Fits raw.pix.length g ∧ ∃ ds, p.digits raw.pix = .ok ds ∧
      f = ⟨g.width, g.height, pieces g.width.toInt.toNat g.height.toInt.toNat ds []⟩ := by
  constructor
  · intro h
    rw [encode] at h
    split at h <;> rename_i size
    · cases h
    split at h <;> rename_i height
    · cases h
    split at h <;> rename_i width
    · cases h
    split at h <;> rename_i full
    · cases h
    refine ⟨⟨by omega, by omega, by omega, fun rows => by omega, fun rows => by omega, fun rows => by omega⟩, ?_⟩
    rw [encodeRows] at h
    cases run : p.digits raw.pix with
    | error c =>
      rw [run] at h
      cases h
    | ok ds =>
      rw [run] at h
      cases h
      exact ⟨ds, rfl, rfl⟩
  · rintro ⟨fits, ds, run, rfl⟩
    have size := fits.size
    have nonneg := fits.height_nonneg
    have height := fits.height_le
    have width := fits.width_nonneg
    have width' := fits.width_le
    have full := fits.full
    rw [encode, if_neg (by omega), if_neg (by omega), if_neg (by omega), if_neg (by omega), encodeRows, run]
    rfl

/-- Whatever is encoded has the shape of the geometry and shows the pixels cell by cell. -/
theorem encode_shaped {raw : RawFrame} {g : Geometry} {p : Palette} (ne : p ≠ []) {f : Frame}
    (encoded : encode raw g p = .ok f) : f.Shaped g ∧ f.Drawn g p raw.pix := by
  obtain ⟨fits, ds, run, rfl⟩ := encode_eq_ok_iff.1 encoded
  obtain ⟨total, shows⟩ := (Palette.digits_eq_ok_iff ne).1 run
  refine ⟨⟨rfl, rfl, ?_, ?_⟩, fun y row x d hy hx => shows _ d (getElem?_pieces hy hx)⟩
  · simp [pieces_eq]
  · intro row mem
    simp only [pieces_eq, List.mem_map, List.mem_range] at mem
    obtain ⟨i, inside, rfl⟩ := mem
    have rows : 0 < g.height.toInt := by omega
    have cells : ds.length = g.width.toInt.toNat * g.height.toInt.toNat := by
      rw [total, fits.length_eq rows]
      omega
    exact length_row cells inside

/-- A raw frame of the right size is encoded to the shape of the geometry, cell by cell. -/
theorem encode_ok {raw : RawFrame} {g : Geometry} {p : Palette} (sound : g.Sound) (ne : p ≠ [])
    (length : raw.pix.length = g.octets) : ∃ f, encode raw g p = .ok f ∧ f.Shaped g ∧ f.Drawn g p raw.pix := by
  obtain ⟨ds, run, -⟩ := Palette.digits_ok ne raw.pix
  have encoded := encode_eq_ok_iff.2 ⟨fits_of_sound sound length, ds, run, rfl⟩
  exact ⟨_, encoded, encode_shaped ne encoded⟩

/-! The colour error of a frame that has its octets. -/

theorem octetAt_ok {pix : ByteArray} {i : Int} (nonneg : 0 ≤ i) (lt : i < pix.size) :
    ∃ b, octetAt pix i = .ok b := by
  have inside : i.toNat < pix.size := by omega
  refine ⟨pix[i.toNat], ?_⟩
  rw [octetAt, if_neg (by omega)]
  simp [getElem?_pos pix i.toNat inside]

/-- The octets of a cell inside a raw frame have places that do not wrap. -/
theorem toInt_offset {cell k : Int64} (nonneg : 0 ≤ cell.toInt) (hk : 0 ≤ k.toInt)
    (small : cell.toInt * 3 + k.toInt < 2 ^ 63) : (cell * 3 + k).toInt = cell.toInt * 3 + k.toInt := by
  have three : (3 : Int64).toInt = 3 := by decide
  have triple : (cell * 3).toInt = cell.toInt * 3 := by
    rw [Int64.toInt_mul, three]
    exact Int.bmod_eq_of_le (by omega) (by omega)
  rw [Int64.toInt_add, triple]
  exact Int.bmod_eq_of_le (by omega) (by omega)

theorem toInt_next {n : Int64} (nonneg : 0 ≤ n.toInt) (small : n.toInt + 1 < 2 ^ 63) :
    (n + 1).toInt = n.toInt + 1 := by
  rw [Int64.toInt_add, show (1 : Int64).toInt = 1 by decide]
  exact Int.bmod_eq_of_le (by omega) (by omega)

section ColourError

variable {pix : ByteArray} (small : (pix.size : Int) < 2 ^ 63) {table : Array Lab}

include small

theorem rowError_ok {row : Octets} {cell : Int64} {total : Float} (nonneg : 0 ≤ cell.toInt)
    (room : (cell.toInt + row.length) * 3 ≤ pix.size) : ∃ e, rowError pix table row cell total = .ok e := by
  induction row generalizing cell total with
  | nil => exact ⟨total, rfl⟩
  | cons d row ih =>
    simp only [List.length_cons, Nat.cast_add, Nat.cast_one] at room
    have zero : (cell * 3).toInt = cell.toInt * 3 := by
      simpa using toInt_offset (k := 0) nonneg (by decide) (by simpa using by omega)
    have one : (cell * 3 + 1).toInt = cell.toInt * 3 + 1 :=
      toInt_offset nonneg (by decide) (by rw [show (1 : Int64).toInt = 1 by decide]; omega)
    have two : (cell * 3 + 2).toInt = cell.toInt * 3 + 2 :=
      toInt_offset nonneg (by decide) (by rw [show (2 : Int64).toInt = 2 by decide]; omega)
    obtain ⟨r, hr⟩ : ∃ b, octetAt pix (cell.toInt * 3) = .ok b := octetAt_ok (by omega) (by omega)
    obtain ⟨g, hg⟩ : ∃ b, octetAt pix (cell.toInt * 3 + 1) = .ok b := octetAt_ok (by omega) (by omega)
    obtain ⟨b, hb⟩ : ∃ b, octetAt pix (cell.toInt * 3 + 2) = .ok b := octetAt_ok (by omega) (by omega)
    have next := toInt_next nonneg (by omega)
    rw [rowError]
    simp only [zero, one, two, hr, hg, hb, bind, Except.bind]
    exact ih (by omega) (by omega)

theorem rowsError_ok {width : Int64} {rows : List Octets} {y : Int64} {total : Float} (pos : 0 < width.toInt)
    (nonneg : 0 ≤ y.toInt) (room : (y.toInt + rows.length) * width.toInt * 3 ≤ pix.size)
    (length : ∀ row ∈ rows, row.length = width.toInt.toNat) :
    ∃ e, rowsError pix table width rows y total = .ok e := by
  induction rows generalizing y total with
  | nil => exact ⟨total, rfl⟩
  | cons row rows ih =>
    simp only [List.length_cons, Nat.cast_add, Nat.cast_one] at room
    have rowLength : (row.length : Int) = width.toInt := by
      rw [length row (by simp)]
      omega
    have rest : 0 ≤ (rows.length : Int) * width.toInt := by positivity
    have here : 0 ≤ y.toInt * width.toInt := by positivity
    have upTo : (y.toInt * width.toInt + width.toInt) * 3 ≤ pix.size := by nlinarith
    have row_le : y.toInt ≤ y.toInt * width.toInt := le_mul_of_one_le_right nonneg pos
    have start : (y * width).toInt = y.toInt * width.toInt := by
      rw [Int64.toInt_mul]
      exact Int.bmod_eq_of_le (by omega) (by omega)
    have next := toInt_next nonneg (by omega)
    obtain ⟨e, first⟩ : ∃ e, rowError pix table row (y * width) total = .ok e :=
      rowError_ok small (by rwa [start]) (by rwa [start, rowLength])
    rw [rowsError]
    simp only [first, bind, Except.bind]
    exact ih (by omega) (by rw [next]; linarith) fun row mem => length row (by simp [mem])

end ColourError

/-- The colour error of a frame and the raw frame it has the shape of is defined. -/
theorem meanError_ok {pix : Octets} {f : Frame} {g : Geometry} (fits : Fits pix.length g) (shaped : f.Shaped g)
    (p : Palette) : ∃ e, meanError pix (some f) p = .ok e := by
  rw [meanError]
  split
  · exact ⟨_, rfl⟩
  rename_i cells
  simp only [Bool.or_eq_true, beq_iff_eq, not_or, shaped.width, shaped.height, ← Int64.toInt_inj] at cells
  rw [show (0 : Int64).toInt = 0 by decide] at cells
  have hh : 0 < g.height.toInt := by
    have := fits.height_nonneg
    omega
  have hw : 0 < g.width.toInt := by
    have := fits.width_nonneg hh
    omega
  have size : (pix.toByteArray.size : Int) = g.width.toInt * g.height.toInt * 3 := by
    rw [List.size_toByteArray, fits.full hh]
  have small : (pix.toByteArray.size : Int) < 2 ^ 63 := by
    rw [List.size_toByteArray, fits.size]
    exact g.frameSize.toInt_lt
  have rows : (f.rows.length : Int) = g.height.toInt := by
    rw [shaped.rows_length]
    omega
  obtain ⟨e, run⟩ : ∃ e, rowsError pix.toByteArray (labTable p) f.width f.rows 0 0.0 = .ok e := by
    rw [shaped.width]
    refine rowsError_ok small hw (by decide) ?_ shaped.row_length
    rw [show (0 : Int64).toInt = 0 by decide, rows, size]
    linarith
  exact ⟨_, by rw [run]; rfl⟩

end Frame

end BlitReel
