import Mathlib
import BlitReel.Proofs.Frame.Encoding

/-!
# The layout of raw frames

The octets of a raw frame stand row by row, three to a cell. A raw frame of a valid geometry is
refused exactly if it has the wrong number of octets; otherwise every cell of its frame has the digit
of its own three octets, and every octet belongs to one cell.
-/

namespace BlitReel

namespace Geometry

/-- Where the three octets of the cell in column `x` of row `y` start. -/
def place (g : Geometry) (y x : Nat) : Nat := (y * g.width.toInt.toNat + x) * 3

/-- Places leave no octet out and share none. -/
theorem existsUnique_cell (g : Geometry) {k : Nat} (inside : k < g.width.toInt.toNat * g.height.toInt.toNat * 3) :
    ∃! cell : Nat × Nat, cell.1 < g.height.toInt.toNat ∧ cell.2 < g.width.toInt.toNat ∧
      g.place cell.1 cell.2 ≤ k ∧ k < g.place cell.1 cell.2 + 3 := by
  simp only [place]
  generalize g.width.toInt.toNat = w at inside ⊢
  generalize g.height.toInt.toNat = h at inside ⊢
  have pos : 0 < w := by
    by_contra none
    simp [show w = 0 by omega] at inside
  have number : k / 3 / w * w + k / 3 % w = k / 3 := Nat.div_add_mod' (k / 3) w
  refine ⟨(k / 3 / w, k / 3 % w), ⟨?_, Nat.mod_lt _ pos, ?_, ?_⟩, ?_⟩
  · exact Nat.div_lt_of_lt_mul (by omega)
  · show (k / 3 / w * w + k / 3 % w) * 3 ≤ k
    omega
  · show k < (k / 3 / w * w + k / 3 % w) * 3 + 3
    omega
  · rintro ⟨y, x⟩ ⟨-, column, low, high⟩
    simp only at column low high
    have same : k / 3 = x + w * y := by
      rw [Nat.mul_comm w y]
      omega
    have row : k / 3 / w = y := by rw [same, Nat.add_mul_div_left x y pos, Nat.div_eq_of_lt column, Nat.zero_add]
    have rest : k / 3 % w = x := by rw [same, Nat.add_mul_mod_self_left, Nat.mod_eq_of_lt column]
    rw [row, rest]

end Geometry

namespace Frame

/-- What a cell shows, read off at its place. -/
theorem Drawn.nearest {f : Frame} {g : Geometry} {p : Palette} {pix : Octets} (h : f.Drawn g p pix) (y x : Nat)
    (hy : y < f.rows.length) (hx : x < f.rows[y].length) :
    ∃ _ : g.place y x + 2 < pix.length,
      p.nearest pix[g.place y x] pix[g.place y x + 1] pix[g.place y x + 2] = .ok f.rows[y][x] := by
  obtain ⟨red, green, blue, hr, hg, hb, near⟩ := h y f.rows[y] x f.rows[y][x] (by simp) (by simp)
  obtain ⟨_, rfl⟩ := List.getElem?_eq_some_iff.1 hr
  obtain ⟨_, rfl⟩ := List.getElem?_eq_some_iff.1 hg
  obtain ⟨inside, rfl⟩ := List.getElem?_eq_some_iff.1 hb
  exact ⟨inside, near⟩

/-- **Row by row, three octets to a cell.** A raw frame is refused, with the fault that names its
size, exactly if its octets are not three for each cell. Otherwise its frame has the rows and columns
of the geometry, each cell has the digit nearest to the three octets at its place, which are all
there, and each octet stands at the place of exactly one cell. -/
theorem encode_row_major {g : Geometry} {p : Palette} (geometry : g.validate = .ok ()) (ne : p ≠ []) (raw : RawFrame) :
    (∀ fault, encode raw g p = .error fault ↔ (raw.pix.length : Int) ≠ g.width.toInt * g.height.toInt * 3 ∧
      fault = .size raw.index raw.pix.length g.frameSize) ∧
    ((raw.pix.length : Int) = g.width.toInt * g.height.toInt * 3 →
      ∃ f, encode raw g p = .ok f ∧ f.Shaped g ∧
        (∀ y x, (_ : y < f.rows.length) → (_ : x < f.rows[y].length) → ∃ _ : g.place y x + 2 < raw.pix.length,
          p.nearest raw.pix[g.place y x] raw.pix[g.place y x + 1] raw.pix[g.place y x + 2] = .ok f.rows[y][x]) ∧
        ∀ k < raw.pix.length, ∃! cell : Nat × Nat, cell.1 < g.height.toInt.toNat ∧ cell.2 < g.width.toInt.toNat ∧
          g.place cell.1 cell.2 ≤ k ∧ k < g.place cell.1 cell.2 + 3) := by
  have sound := Geometry.validate_eq_ok_iff.1 geometry
  have size := sound.toInt_frameSize
  have full (length : (raw.pix.length : Int) = g.width.toInt * g.height.toInt * 3) : raw.pix.length = g.octets := by
    have := sound.natCast_octets
    omega
  constructor
  · intro fault
    by_cases length : (raw.pix.length : Int) = g.width.toInt * g.height.toInt * 3
    · obtain ⟨f, encoded, -⟩ := encode_ok sound ne (full length)
      simp [encoded, length]
    · have refused : encode raw g p = .error (.size raw.index raw.pix.length g.frameSize) := by
        rw [encode, if_pos (by rwa [size])]
      rw [refused]
      simp only [Except.error.injEq, ne_eq, length, not_false_eq_true, true_and]
      exact eq_comm
  · intro length
    obtain ⟨f, encoded, shaped, drawn⟩ := encode_ok sound ne (full length)
    refine ⟨f, encoded, shaped, drawn.nearest, fun k inside => g.existsUnique_cell ?_⟩
    rw [← sound.octets_eq, ← full length]
    exact inside

/-- In three columns and two rows, the pixel after the first three is the first cell of the second
row; with an octet missing there is no frame. Two colours are palette enough. -/
theorem encode_row_major_oblong :
    (∃ f, encode ⟨1, List.replicate 9 0 ++ [240, 240, 240] ++ List.replicate 6 0⟩ ⟨3, 2⟩ (Palette.standard.take 2) =
        .ok f ∧
      ∃ (_ : 1 < f.rows.length) (_ : 0 < f.rows[1].length), f.rows[1][0] = 0x30) ∧
    encode ⟨1, List.replicate 17 0⟩ ⟨3, 2⟩ (Palette.standard.take 2) = .error (.size 1 17 18) := by
  constructor
  · obtain ⟨f, encoded, shaped, cells, -⟩ := (@encode_row_major ⟨3, 2⟩ (Palette.standard.take 2) rfl (by decide)
      ⟨1, List.replicate 9 0 ++ [240, 240, 240] ++ List.replicate 6 0⟩).2 rfl
    have row : 1 < f.rows.length := by
      rw [shaped.rows_length]
      decide
    have column : 0 < f.rows[1].length := by
      rw [shaped.row_length _ (List.getElem_mem row)]
      decide
    obtain ⟨_, near⟩ := cells 1 0 row column
    have white : Palette.nearest (Palette.standard.take 2) 240 240 240 = .ok 0x30 := rfl
    exact ⟨f, encoded, row, column, Except.ok.inj (near.symm.trans white)⟩
  · exact ((@encode_row_major ⟨3, 2⟩ (Palette.standard.take 2) rfl (by decide) ⟨1, List.replicate 17 0⟩).1 _).2
      ⟨by decide, rfl⟩

end Frame

end BlitReel
