import Mathlib
import BlitReel.Preview
import BlitReel.Proofs.Frame.Encoding

/-!
# The legend of a frame

A checked palette is a legend of the frames encoded with it: every digit of such a frame is the digit of
one entry, under which the palette finds it, a preview paints its colour and the table for colour errors
holds it. None of the ways out for unknown digits is ever taken.
-/

namespace BlitReel

namespace Frame

variable {p : Palette} {e : PaletteEntry}

/-- One entry is put down in the table of colours. -/
def note (table : Array Lab) (e : PaletteEntry) : Array Lab := table.setIfInBounds e.digit.toNat (Lab.ofEntry e)

theorem labTable_eq (p : Palette) : labTable p = p.foldl note (Array.replicate 256 (Lab.ofChannels 0 0 0)) := rfl

/-- Entries leave what is noted for other digits. -/
theorem getElem?_foldl_note_other {d : UInt8} (other : d ∉ p.map (·.digit)) (table : Array Lab) :
    (p.foldl note table)[d.toNat]? = table[d.toNat]? := by
  induction p generalizing table with
  | nil => rfl
  | cons e p ih =>
    simp only [List.map_cons, List.mem_cons, not_or] at other
    have apart : e.digit.toNat ≠ d.toNat := fun same => other.1 (UInt8.toNat_inj.1 same).symm
    rw [List.foldl_cons, ih other.2, note, Array.getElem?_setIfInBounds_ne apart]

/-- What an entry notes stays, if no later entry has its digit. -/
theorem getElem?_foldl_note (distinct : (p.map (·.digit)).Nodup) (mem : e ∈ p) {table : Array Lab}
    (room : table.size = 256) : (p.foldl note table)[e.digit.toNat]? = some (Lab.ofEntry e) := by
  induction p generalizing table with
  | nil => cases mem
  | cons x p ih =>
    rw [List.map_cons, List.nodup_cons] at distinct
    rw [List.foldl_cons]
    rcases List.mem_cons.1 mem with rfl | mem
    · have inside : e.digit.toNat < table.size := by
        rw [room]
        exact e.digit.toNat_lt
      rw [getElem?_foldl_note_other distinct.1, note, Array.getElem?_setIfInBounds_self_of_lt inside]
    · exact ih distinct.2 mem (by rw [note, Array.size_setIfInBounds, room])

/-- A digit stands for an entry of a palette: the entry is found under it, its colour is painted for it, and
its colour is what errors are measured against. -/
structure StandsFor (p : Palette) (d : UInt8) (e : PaletteEntry) : Prop where
  mem : e ∈ p
  found : p.lookup? d = some e
  painted : ∀ (l : Preview.Lattice) (x y : Nat) (g : Grid Pixel), Preview.paintCell p l x y d g =
    g.fillRect (l.left + x * l.side) (l.top + y * l.side) l.side l.side (.solid ⟨e.red, e.green, e.blue⟩)
  noted : (labTable p)[d.toNat]? = some (Lab.ofEntry e)

theorem standsFor_of_mem (accepted : p.check = .ok ()) (mem : e ∈ p) : StandsFor p e.digit e := by
  have found := (Palette.lookup?_eq_some_iff accepted).2 ⟨mem, rfl⟩
  refine ⟨mem, found, ?_, ?_⟩
  · intro l x y g
    rw [Preview.paintCell, found]
  · rw [labTable_eq]
    exact getElem?_foldl_note (Palette.nodup_of_check accepted) mem (by simp)

/-- **A checked palette is a legend.** The check passes exactly if the digits of the entries are a
permutation of the alphabet. Then each entry is found under its digit, no other digits are known, and the
entry nearest to a colour is found under the digit that the colour gets. So in a frame that was encoded with
the palette, of whatever geometry, every digit stands for an entry, and its colour error is measured without
looking for an octet outside the raw frame. -/
theorem checked_legend (p : Palette) :
    (p.check = .ok () ↔ (p.map (·.digit)).Perm Palette.alphabet) ∧
    (p.check = .ok () →
      (∀ e ∈ p, p.lookup? e.digit = some e) ∧
      (∀ d, (p.lookup? d).isSome = true ↔ d ∈ Palette.alphabet) ∧
      (∀ r g b, ∃ e, p.firstNearest? r g b = some e ∧ p.nearest r g b = .ok e.digit ∧ p.lookup? e.digit = some e) ∧
      ∀ raw g f, encode raw g p = .ok f →
        (∀ row ∈ f.rows, ∀ d ∈ row, ∃ e, StandsFor p d e) ∧ ∃ error, meanError raw.pix (some f) p = .ok error) := by
  refine ⟨Palette.check_eq_ok_iff, fun accepted => ?_⟩
  have ne := Palette.ne_nil_of_check accepted
  have found (e : PaletteEntry) (mem : e ∈ p) := (Palette.lookup?_eq_some_iff accepted).2 ⟨mem, rfl⟩
  refine ⟨found, fun d => Palette.isSome_lookup?_iff accepted, fun r g b => ?_, fun raw g f encoded => ?_⟩
  · obtain ⟨e, leads, near⟩ := Palette.nearest_leads ne r g b
    exact ⟨e, Palette.firstNearest?_eq_some_iff.2 leads, near, found e leads.mem⟩
  · obtain ⟨shaped, drawn⟩ := encode_shaped ne encoded
    obtain ⟨fits, -⟩ := encode_eq_ok_iff.1 encoded
    refine ⟨fun row inRows d inRow => ?_, meanError_ok fits shaped p⟩
    obtain ⟨e, mem, rfl⟩ := drawn.mem row inRows d inRow
    exact ⟨e, standsFor_of_mem accepted mem⟩

/-- The colours of a terminal from the last to the first are a legend as well: the digit of a reddish pixel
stands for red. -/
theorem checked_legend_reversed :
    (Palette.standard.reverse.map (·.digit)).Perm Palette.alphabet ∧
    encode ⟨1, [150, 50, 40]⟩ ⟨1, 1⟩ Palette.standard.reverse = .ok ⟨1, 1, [[0x65]]⟩ ∧
    StandsFor Palette.standard.reverse 0x65 ⟨"red", 0x65, 153, 51, 51⟩ ∧
    ∃ error, meanError [150, 50, 40] (some ⟨1, 1, [[0x65]]⟩) Palette.standard.reverse = .ok error := by
  have accepted : Palette.check Palette.standard.reverse = .ok () := by decide
  have encoded : encode ⟨1, [150, 50, 40]⟩ ⟨1, 1⟩ Palette.standard.reverse = .ok ⟨1, 1, [[0x65]]⟩ := by decide +kernel
  obtain ⟨perm, legend⟩ := checked_legend Palette.standard.reverse
  obtain ⟨-, -, -, frames⟩ := legend accepted
  obtain ⟨known, measured⟩ := frames _ _ _ encoded
  obtain ⟨e, stands⟩ := known [0x65] (by simp) 0x65 (by simp)
  have red : Palette.lookup? Palette.standard.reverse 0x65 = some ⟨"red", 0x65, 153, 51, 51⟩ := by decide
  obtain rfl : e = ⟨"red", 0x65, 153, 51, 51⟩ := Option.some.inj (stands.found.symm.trans red)
  exact ⟨perm.1 accepted, encoded, stands, measured⟩

end Frame

end BlitReel
