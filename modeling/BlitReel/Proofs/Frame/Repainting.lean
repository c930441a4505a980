import Mathlib
import BlitReel.Proofs.Frame.Encoding

/-!
# Painting a frame back

The digits of a frame stand for colours, so a frame can be painted: each cell in the colour of the
entry that its digit is looked up to. The leader of the entries for a pixel leads for its own colour
too, also among entries of that colour (`Leads.own`), so that encoding what was painted gives the frame
again.
-/

namespace BlitReel

namespace Palette

variable {r g b : UInt8} {p : Palette} {e : PaletteEntry}

theorem distance_nonneg (r g b : UInt8) (e : PaletteEntry) : 0 ≤ distance r g b e :=
  add_nonneg (add_nonneg (mul_self_nonneg _) (mul_self_nonneg _)) (mul_self_nonneg _)

theorem distance_eq_zero_iff : distance r g b e = 0 ↔ e.red = r ∧ e.green = g ∧ e.blue = b := by
  have apart (x y : UInt8) : ((x.toNat : Int) - y.toNat) * ((x.toNat : Int) - y.toNat) = 0 ↔ y = x := by
    rw [mul_self_eq_zero, sub_eq_zero, Nat.cast_inj, UInt8.toNat_inj, eq_comm]
  have square (x y : UInt8) : 0 ≤ ((x.toNat : Int) - y.toNat) * ((x.toNat : Int) - y.toNat) := mul_self_nonneg _
  rw [← apart r, ← apart g, ← apart b, distance]
  have := square r e.red
  have := square g e.green
  have := square b e.blue
  omega

/-- The leader for a colour leads for its own colour: an earlier entry of that colour would have been as
near as the leader was. -/
theorem Leads.own (h : Leads r g b p e) : Leads e.red e.green e.blue p e := by
  obtain ⟨front, back, rfl, farther, -⟩ := h
  have here : distance e.red e.green e.blue e = 0 := distance_eq_zero_iff.2 ⟨rfl, rfl, rfl⟩
  refine ⟨front, back, rfl, fun x mem => ?_, fun x _ => ?_⟩
  · rw [here]
    refine lt_of_le_of_ne (distance_nonneg ..) fun same => ?_
    obtain ⟨red, green, blue⟩ := distance_eq_zero_iff.1 same.symm
    have level : distance r g b e = distance r g b x := by simp only [distance, red, green, blue]
    exact (farther x mem).ne level
  · rw [here]
    exact distance_nonneg ..

/-- The octets of the colours that digits stand for; none if a digit stands for no colour. -/
def paint? (p : Palette) : Octets → Option Octets
  | [] => some []
  | d :: ds => do
    let e ← p.lookup? d
    let rest ← p.paint? ds
    return e.red :: e.green :: e.blue :: rest

/-- Digits that are each the digit of a nearest entry can be painted, and are then the digits of what was
painted. -/
theorem digits_paint? (accepted : p.check = .ok ()) {ds : Octets}
    (near : ∀ d ∈ ds, ∃ r g b, p.nearest r g b = .ok d) :
    ∃ pix, p.paint? ds = some pix ∧ pix.length = ds.length * 3 ∧ p.digits pix = .ok ds := by
  simp only [digits_eq_ok_iff (ne_nil_of_check accepted)]
  induction ds with
  | nil => exact ⟨[], rfl, rfl, rfl, by simp⟩
  | cons d ds ih =>
    obtain ⟨pix, painted, length, -, shows⟩ := ih fun x mem => near x (by simp [mem])
    obtain ⟨r, g, b, nearest⟩ := near d (by simp)
    obtain ⟨e, leads, rfl⟩ := nearest_eq_ok_iff.1 nearest
    have found := (lookup?_eq_some_iff accepted).2 ⟨leads.mem, rfl⟩
    refine ⟨e.red :: e.green :: e.blue :: pix, ?_, ?_, ?_, ?_⟩
    · simp [paint?, found, painted]
    · simp only [List.length_cons, length]
      omega
    · simp only [List.length_cons, length]
      omega
    · intro k x there
      cases k with
      | zero =>
        obtain rfl : e.digit = x := by simpa using there
        exact ⟨e.red, e.green, e.blue, rfl, rfl, rfl, nearest_eq_ok_iff.2 ⟨e, leads.own, rfl⟩⟩
      | succ k => exact (shows_succ p ..).2 (shows k x (by simpa using there))

end Palette

namespace Frame

theorem flatten_pieces {α : Type} (size n : Nat) (xs : List α) :
    (pieces size n xs []).flatten = xs.take (n * size) := by
  rw [pieces_eq]
  induction n with
  | zero => simp
  | succ n ih => simp [List.range_succ, ih, Nat.succ_mul, List.take_add]

/-- The octets of a frame that is painted row by row, each cell in the colour of its digit; none if a digit
stands for no colour. -/
def paint? (f : Frame) (p : Palette) : Option Octets := p.paint? f.rows.flatten

/-- **Quantising again changes nothing.** A raw frame of the right size is encoded, the frame can be
painted, and what was painted is encoded to the same frame, under any number. -/
theorem encode_paint {g : Geometry} {p : Palette} (accepted : p.check = .ok ()) (geometry : g.validate = .ok ())
    (raw : RawFrame) (length : (raw.pix.length : Int) = g.width.toInt * g.height.toInt * 3) :
    ∃ f pix, encode raw g p = .ok f ∧ f.paint? p = some pix ∧ ∀ index, encode ⟨index, pix⟩ g p = .ok f := by
  have sound := Geometry.validate_eq_ok_iff.1 geometry
  have ne := Palette.ne_nil_of_check accepted
  have octets : raw.pix.length = g.octets := by
    have := sound.natCast_octets
    have := sound.toInt_frameSize
    omega
  obtain ⟨f, encoded, -⟩ := encode_ok sound ne octets
  obtain ⟨fits, ds, run, rfl⟩ := encode_eq_ok_iff.1 encoded
  obtain ⟨total, shows⟩ := (Palette.digits_eq_ok_iff ne).1 run
  have full := fits.length_eq sound.height_pos
  have near : ∀ d ∈ ds, ∃ r g b, p.nearest r g b = .ok d := by
    intro d mem
    obtain ⟨k, there⟩ := List.getElem?_of_mem mem
    obtain ⟨r, g, b, -, -, -, nearest⟩ := shows k d there
    exact ⟨r, g, b, nearest⟩
  obtain ⟨pix, painted, size, again⟩ := Palette.digits_paint? accepted near
  have whole : (pieces g.width.toInt.toNat g.height.toInt.toNat ds []).flatten = ds := by
    rw [flatten_pieces, List.take_of_length_le]
    rw [total, full, Nat.mul_comm g.height.toInt.toNat]
    omega
  refine ⟨_, pix, encoded, ?_, fun index => encode_eq_ok_iff.2 ⟨?_, ds, again, rfl⟩⟩
  · rw [paint?, whole, painted]
  · have same : pix.length = raw.pix.length := by omega
    rwa [same]

/-- The colours of a terminal, with a second black before the last one. -/
def twins : Palette := Palette.standard.set 14 ⟨"soot", 0x65, 0, 0, 0⟩

/-- A dark pixel gets the digit of the earlier black, is painted black and gets that digit again. -/
theorem encode_paint_twins :
    encode ⟨1, [3, 3, 3, 250, 250, 250]⟩ ⟨2, 1⟩ twins = .ok ⟨2, 1, [[0x65, 0x30]]⟩ ∧
    paint? ⟨2, 1, [[0x65, 0x30]]⟩ twins = some [0, 0, 0, 240, 240, 240] ∧
    ∀ index, encode ⟨index, [0, 0, 0, 240, 240, 240]⟩ ⟨2, 1⟩ twins = .ok ⟨2, 1, [[0x65, 0x30]]⟩ := by
  obtain ⟨f, pix, encoded, painted, again⟩ := encode_paint (g := ⟨2, 1⟩) (p := twins) (by decide) rfl
    ⟨1, [3, 3, 3, 250, 250, 250]⟩ (by decide)
  have frame : encode ⟨1, [3, 3, 3, 250, 250, 250]⟩ ⟨2, 1⟩ twins = .ok ⟨2, 1, [[0x65, 0x30]]⟩ := by decide +kernel
  obtain rfl : f = ⟨2, 1, [[0x65, 0x30]]⟩ := Except.ok.inj (encoded.symm.trans frame)
  have black : paint? ⟨2, 1, [[0x65, 0x30]]⟩ twins = some [0, 0, 0, 240, 240, 240] := by decide
  obtain rfl : pix = [0, 0, 0, 240, 240, 240] := Option.some.inj (painted.symm.trans black)
  exact ⟨frame, black, again⟩

end Frame

end BlitReel
