import Mathlib
import BlitReel.Input.Probe
import BlitReel.Proofs.Number.Whole

/-!
# Lengths of movie files

The length of a movie is its ticks times the nanoseconds of a second over the ticks in a second. The product is formed
in a word, so it may wrap although the quotient would be small. `Header.toInt_length` says what the quotient of words
is, and `Header.length_exact_iff` that a product that wraps never gives the true quotient.
-/

namespace BlitReel

/-- A number that is too large for a word comes out smaller by what words count to, or by a multiple of that. -/
theorem Numeral.toInt_ofNat_le {n : Nat} (large : 2 ^ 63 ≤ n) : (Int64.ofNat n).toInt ≤ n - 2 ^ 64 := by
  rw [Int64.toInt_ofNat', Int64.size, Int.bmod_def]
  split <;> omega

namespace Movie.Header

variable {h : Header} (runs : h.timescale ≠ 0)

/-- The ticks of a movie in nanoseconds, before they are divided by the ticks in a second. -/
def scaledTicks (h : Header) : Nat := h.duration.toNat * 10 ^ 9

include runs

theorem timescale_bounds : 0 < h.timescale.toNat ∧ h.timescale.toNat < 2 ^ 32 := by
  refine ⟨?_, h.timescale.toNat_lt⟩
  rw [Nat.pos_iff_ne_zero]
  intro zero
  exact runs (UInt32.toNat_inj.1 zero)

/-- The length is the quotient of the product as a word, cut off towards zero. -/
theorem toInt_length : h.length.toInt = (Int64.ofNat h.scaledTicks).toInt.tdiv h.timescale.toNat := by
  obtain ⟨pos, small⟩ := timescale_bounds runs
  have product : h.duration.toInt64 * 1000000000 = Int64.ofNat h.scaledTicks := by
    rw [scaledTicks, Int64.ofNat_mul, ← UInt64.toInt64_ofNat', UInt64.ofNat_toNat]
    rfl
  have clock : (Int64.ofNat h.timescale.toNat).toInt = h.timescale.toNat := Int64.toInt_ofNat_of_lt (by omega)
  have forward : Int64.ofNat h.timescale.toNat ≠ -1 := by
    intro backward
    rw [backward, show (-1 : Int64).toInt = -1 from rfl] at clock
    omega
  rw [length, if_neg (by simpa using runs), product, Int64.toInt_div_of_ne_right _ _ forward, clock]

/-- The true length is reported exactly when the product is a word. -/
theorem length_exact_iff : h.length.toInt = (h.scaledTicks / h.timescale.toNat : Nat) ↔ h.scaledTicks < 2 ^ 63 := by
  obtain ⟨pos, small⟩ := timescale_bounds runs
  rw [toInt_length runs]
  generalize h.timescale.toNat = scale at pos small ⊢
  generalize h.scaledTicks = product
  constructor
  · intro same
    by_contra large
    have wrapped := Numeral.toInt_ofNat_le (Nat.not_lt.1 large)
    generalize (Int64.ofNat product).toInt = word at same wrapped
    rcases Int.lt_or_le word 0 with negative | nonneg
    · -- below zero the quotient is not positive, and the true one is
      have opposite := Int.tdiv_nonneg (show 0 ≤ -word by omega) (show 0 ≤ (scale : Int) by omega)
      have true_pos : 0 < product / scale := Nat.div_pos (by omega) pos
      rw [Int.neg_tdiv, same] at opposite
      omega
    · -- otherwise the quotient is too small by `2 ^ 64 / scale` at least, which is more than one
      rw [Int.tdiv_eq_ediv_of_nonneg nonneg] at same
      have below : word / scale ≤ product / scale - 1 := by
        rw [← Int.sub_mul_ediv_right _ 1 (by omega : (scale : Int) ≠ 0)]
        exact Int.ediv_le_ediv (by omega) (by omega)
      rw [same, Int.natCast_ediv] at below
      omega
  · intro fits
    rw [Numeral.toInt_ofNat_eq_iff.2 fits, Int.tdiv_eq_ediv_of_nonneg (by omega), Int.natCast_ediv]

end Movie.Header

namespace Input

/-- A number in as many octets, the most significant one first. -/
def bigEndianOctets (n : Nat) : (width : Nat) → Octets
  | 0 => []
  | width + 1 => UInt8.ofNat (n / 256 ^ width) :: bigEndianOctets n width

/-- A box as a file has it. -/
def box (kind : String) (content : Octets) : Octets :=
  bigEndianOctets (8 + content.length) 4 ++ Octets.ofString kind ++ content

/-- A file of one video track whose header, which is a wide one, has the given clock. -/
def clip (h : Movie.Header) : Octets :=
  let blank (n : Nat) : Octets := List.replicate n 0
  let header := [1] ++ blank 19 ++ bigEndianOctets h.timescale.toNat 4 ++ bigEndianOctets h.duration.toNat 8 ++ blank 80
  let handler := blank 8 ++ Octets.ofString "vide" ++ blank 12 ++ Octets.ofString "h" ++ blank 1
  let times := blank 4 ++ bigEndianOctets 1 4 ++ bigEndianOctets 1 4 ++ bigEndianOctets 1 4
  let track := box "trak" (box "mdia" (box "hdlr" handler ++ box "minf" (box "stbl" (box "stts" times))))
  box "ftyp" (Octets.ofString "isom" ++ bigEndianOctets 512 4 ++ Octets.ofString "isom") ++
    box "moov" (box "mvhd" header ++ track)

/-- The tree of one such file. -/
def withClip (h : Movie.Header) : FileTree :=
  { entries := [([Octets.ofString "clip.mp4"], .file (clip h) false)] }

/-- What that file holds. -/
def clipMovie (h : Movie.Header) : Movie :=
  { header? := some h, tracks := [{ handler? := some (Octets.ofString "vide"), times? := some 1 }] }

/-- A movie file with a header whose clock runs is probed for what the header and the tracks say. Its length is the one
that the header means, rounded down, exactly when the ticks in nanoseconds are a word, however small the length is. -/
theorem probeMovie_exact_iff {t : FileTree} {path : Octets} {m : Movie} {h : Movie.Header}
    (holds : movieFile t path = .ok (some m)) (header : m.header? = some h) (runs : h.timescale ≠ 0) :
    ∃ found, probeMovie t path = .ok found ∧ found.title = title path ∧ found.hasVideo = m.hasVideo ∧
      (found.duration.toInt = (h.duration.toNat * 10 ^ 9 / h.timescale.toNat : Nat) ↔
        h.duration.toNat * 10 ^ 9 < 2 ^ 63) := by
  have probed : probeMovie t path = .ok ⟨title path, h.length, m.hasVideo⟩ := by
    simp only [probeMovie, holds, bind, Except.bind, header]
    rfl
  exact ⟨_, probed, rfl, rfl, Movie.Header.length_exact_iff runs⟩

/-- The longest clock of which this is true, at the ticks of a broadcast. -/
theorem probeMovie_exact_iff_longest :
    movieFile (withClip ⟨90000, 9223372036⟩) (Octets.ofString "clip.mp4") =
        .ok (some (clipMovie ⟨90000, 9223372036⟩)) ∧
      ∃ found, probeMovie (withClip ⟨90000, 9223372036⟩) (Octets.ofString "clip.mp4") = .ok found ∧
        found.duration.toInt = 102481911511111 := by
  have holds : movieFile (withClip ⟨90000, 9223372036⟩) (Octets.ofString "clip.mp4") =
      .ok (some (clipMovie ⟨90000, 9223372036⟩)) := by decide +kernel
  obtain ⟨found, probed, -, -, exact_iff⟩ := probeMovie_exact_iff holds rfl (by decide)
  exact ⟨holds, found, probed, exact_iff.2 (by decide)⟩

/-- An hour that is counted in ten-millionths of a second comes out as a negative length. -/
theorem probeMovie_wraps :
    36000000000 * 10 ^ 9 / 10000000 = 3600 * 10 ^ 9 ∧
      probeMovie (withClip ⟨10000000, 36000000000⟩) (Octets.ofString "clip.mp4") =
        .ok { title := Octets.ofString "clip", duration := -89348814741, hasVideo := true } := by
  decide +kernel

end Input

end BlitReel
