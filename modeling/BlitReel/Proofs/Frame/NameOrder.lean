import Mathlib
import BlitReel.Proofs.Conversion.Outcome
import BlitReel.Proofs.Number.Numeral

/-!
# The order of frame files

The number in the name of a frame file is the index in decimal, filled with zeros behind its sign to at least four
characters (`numbered`). Runs of digits of the same length compare like the numbers they stand for
(`Numeral.append_lt_append`), so names with numbers of the same length stand in the order of their indices. Up to 9999
all numbers of positive indices have four digits; 10000 is the first that comes before its predecessor.
-/

namespace BlitReel

theorem Octets.isDigit_iff_toNat {b : UInt8} : isDigit b = true ↔ 48 ≤ b.toNat ∧ b.toNat ≤ 57 := by
  rw [isDigit, Bool.and_eq_true, decide_eq_true_eq, decide_eq_true_eq, UInt8.le_iff_toNat_le, UInt8.le_iff_toNat_le]
  rfl

namespace Numeral

theorem value_lt_pow {ds : Octets} (digits : ∀ b ∈ ds, Octets.isDigit b = true) : value ds < 10 ^ ds.length := by
  have bound := Nat.ofDigits_lt_base_pow_length (b := 10) (l := ds.reverse.map fun b => b.toNat - 48) (by decide) ?_
  · simpa [value] using bound
  · intro d mem
    obtain ⟨b, inside, rfl⟩ := List.mem_map.1 mem
    have range := Octets.isDigit_iff_toNat.1 (digits b (List.mem_reverse.1 inside))
    omega

/-- Of two runs of digits of the same length the one that stands for less comes first, whatever follows them. -/
theorem append_lt_append {xs ys : Octets} (length : xs.length = ys.length)
    (digits : ∀ b ∈ xs, Octets.isDigit b = true) (digits' : ∀ b ∈ ys, Octets.isDigit b = true)
    (less : value xs < value ys) (s t : Octets) : xs ++ s < ys ++ t := by
  induction xs generalizing ys with
  | nil =>
    rw [List.eq_nil_of_length_eq_zero length.symm] at less
    exact absurd less (Nat.lt_irrefl _)
  | cons x xs ih =>
    cases ys with
    | nil => simp at length
    | cons y ys =>
      rw [List.length_cons, List.length_cons, Nat.add_right_cancel_iff] at length
      rw [List.forall_mem_cons] at digits digits'
      have range := Octets.isDigit_iff_toNat.1 digits.1
      have range' := Octets.isDigit_iff_toNat.1 digits'.1
      have rest' := value_lt_pow digits'.2
      rw [value_cons, value_cons, length] at less
      rw [List.cons_append, List.cons_append, List.cons_lt_cons_iff, UInt8.lt_iff_toNat_lt, ← UInt8.toNat_inj]
      rcases Nat.lt_trichotomy x.toNat y.toNat with smaller | same | greater
      · exact Or.inl smaller
      · rw [same] at less
        exact Or.inr ⟨same, ih length digits.2 digits'.2 (by omega)⟩
      · -- a greater first digit outweighs all digits behind it
        have outweighs := Nat.mul_le_mul_right (10 ^ ys.length) (by omega : y.toNat - 48 + 1 ≤ x.toNat - 48)
        rw [Nat.succ_mul] at outweighs
        omega

end Numeral

namespace Frame

/-- The number in the name of a frame file. -/
def number (index : Int64) : Octets := (padded 4 index.toInt).toList.map Octets.ofAscii

theorem length_padded (width : Nat) (n : Int) : (padded width n).length = max width (Octets.ofInt n).length := by
  have sign : "-".length = 1 := rfl
  rw [padded, Octets.ofInt_eq, Octets.ofNat_eq, Nat.toString_eq_ofList_toDigits]
  split
  · simp [sign]
    omega
  · simp
    omega

theorem fileName_eq_number (index : Int64) :
    fileName index = Octets.ofString "frame_" ++ number index ++ Octets.ofString ".nfp" := fileName_eq index

/-- A number is an index in decimal that is filled with zeros behind its sign to at least four characters. -/
structure Numbered (index : Int64) (number : Octets) : Prop where
  spelled : ∃ ds, number = (if index.toInt < 0 then 45 :: ds else ds) ∧ (∀ b ∈ ds, Octets.isDigit b = true) ∧
    Numeral.value ds = index.toInt.natAbs
  length_eq : number.length = max 4 (Octets.ofInt index.toInt).length

theorem numbered (index : Int64) : Numbered index (number index) := by
  obtain ⟨k, chars⟩ := toList_padded 4 index.toInt
  have digits : ∀ c ∈ List.replicate k '0' ++ Nat.toDigits 10 index.toInt.natAbs, c.isDigit = true :=
    fun c => isDigit_of_mem_zeros
  constructor
  · refine ⟨(List.replicate k '0' ++ Nat.toDigits 10 index.toInt.natAbs).map Octets.ofAscii, ?_, ?_, ?_⟩
    · rw [number, chars, List.append_assoc, List.map_append]
      split <;> rfl
    · intro b mem
      obtain ⟨c, inside, rfl⟩ := List.mem_map.1 mem
      exact Octets.isDigit_ofAscii (digits c inside)
    · rw [Numeral.value_ofAscii digits, ofDigitChars_zeros]
  · rw [number, List.length_map, String.length_toList, length_padded]

/-- Up to 9999 the number of an index that is not negative has four digits. -/
theorem length_number {index : Int64} (nonneg : 0 ≤ index) (small : index ≤ 9999) : (number index).length = 4 := by
  rw [Int64.le_iff_toInt_le] at nonneg small
  have low : (0 : Int64).toInt = 0 := rfl
  have high : (9999 : Int64).toInt = 9999 := rfl
  have short : (Octets.ofInt index.toInt).length ≤ 4 := by
    rw [Octets.ofInt_eq, if_neg (by omega), Octets.ofNat_eq, List.length_map,
      Nat.length_toDigits_le_iff (by decide) (by decide)]
    omega
  rw [(numbered index).length_eq]
  omega

theorem fileName_lt_fileName {i j : Int64} (nonneg : 0 ≤ i) (less : i < j)
    (length : (number i).length = (number j).length) : fileName i < fileName j := by
  rw [Int64.le_iff_toInt_le, show (0 : Int64).toInt = 0 from rfl] at nonneg
  rw [Int64.lt_iff_toInt_lt] at less
  obtain ⟨ds, spelled, digits, value⟩ := (numbered i).spelled
  obtain ⟨ds', spelled', digits', value'⟩ := (numbered j).spelled
  rw [if_neg (by omega)] at spelled spelled'
  rw [spelled, spelled'] at length
  rw [fileName_eq_number, fileName_eq_number, List.append_assoc, List.append_assoc, spelled, spelled']
  exact List.append_left_lt (Numeral.append_lt_append length digits digits' (by omega) _ _)

end Frame

namespace Conversion

/-- The first `2 ^ 64` frames of a stream have different indices. -/
theorem index_frame_ne {i j : Nat} (small : i < 2 ^ 64) (small' : j < 2 ^ 64) (ne : i ≠ j) (stream : Octets)
    (o : ConversionOptions) : (frame stream o i).index ≠ (frame stream o j).index := by
  intro same
  have residue := congrArg (·.toUInt64.toNat) same
  simp [frame, RawFrame.ofStream] at residue
  omega

/-- Wherever two of these frames are stored, they are stored apart. -/
theorem frames_apart {o : ConversionOptions} (valid : o.validate = .ok ()) {i j : Nat} (small : i < 2 ^ 64)
    (small' : j < 2 ^ 64) (ne : i ≠ j) (stream : Octets) {t t' : FileTree} {loc loc' : Location}
    (resolved : t.resolve (o.framePath (frame stream o i).index) = .ok loc) (free : t.get? loc ≠ some .directory)
    (resolved' : t'.resolve (o.framePath (frame stream o j).index) = .ok loc') : loc ≠ loc' := by
  have sound := ConversionOptions.validate_eq_ok_iff.1 valid
  exact Run.framePath_apart sound.outputDir (index_frame_ne small small' ne stream o) resolved
    (FileTree.not_given_of_get? free) resolved'

end Conversion

namespace Frame

/-- **Names of frame files.** A name holds the index in decimal, filled with zeros behind the sign to four characters or
more, and tells it from all others, so that no two frames of a conversion are stored in one place. Names with numbers of
the same length, such as those of all indices from 1 to 9999, are in the order of the indices. -/
theorem fileName_faithful :
    (∀ index : Int64,
      fileName index = Octets.ofString "frame_" ++ number index ++ Octets.ofString ".nfp" ∧
        Numbered index (number index)) ∧
    (∀ i j : Int64, fileName i = fileName j → i = j) ∧
    (∀ (o : ConversionOptions) (stream : Octets) (i j : Nat), o.validate = .ok () → i < 2 ^ 64 → j < 2 ^ 64 → i ≠ j →
      ∀ (t t' : FileTree) (loc loc' : Location),
        t.resolve (o.framePath (Conversion.frame stream o i).index) = .ok loc → t.get? loc ≠ some .directory →
        t'.resolve (o.framePath (Conversion.frame stream o j).index) = .ok loc' → loc ≠ loc') ∧
    (∀ i j : Int64, 1 ≤ i → i < j → (number i).length = (number j).length → fileName i < fileName j) ∧
    ∀ i j : Int64, 1 ≤ i → i < j → j ≤ 9999 →
      (number i).length = (number j).length ∧ fileName i < fileName j := by
  have nonneg {i : Int64} (positive : 1 ≤ i) : 0 ≤ i := Int64.le_trans (by decide) positive
  have same {i j : Int64} (positive : 1 ≤ i) (less : i < j) (small : j ≤ 9999) :
      (number i).length = (number j).length := by
    have below := Int64.le_of_lt less
    rw [length_number (nonneg positive) (Int64.le_trans below small),
      length_number (Int64.le_trans (nonneg positive) below) small]
  refine ⟨fun index => ⟨fileName_eq_number index, numbered index⟩, fun i j => fileName_inj, ?_, ?_, ?_⟩
  · intro o stream i j valid small small' ne t t' loc loc'
    exact Conversion.frames_apart valid small small' ne stream
  · intro i j positive less length
    exact fileName_lt_fileName (nonneg positive) less length
  · intro i j positive less small
    have length := same positive less small
    exact ⟨length, fileName_lt_fileName (nonneg positive) less length⟩

/-- Across a power of ten, among longer numbers, and for the frames on both sides of the widening. -/
theorem fileName_faithful_wide :
    let o : ConversionOptions := { outputDir := Octets.ofString "out", geometry := ⟨1, 1⟩, fps := 10 }
    let t : FileTree := (FileTree.makeAll {} o.framesDir).1
    let place (name : String) : Location := [Octets.ofString "out", Octets.ofString "frames", Octets.ofString name]
    fileName 999 < fileName 1000 ∧ fileName 10000 < fileName 10001 ∧
      t.resolve (o.framePath (Conversion.frame [] o 9998).index) = .ok (place "frame_9999.nfp") ∧
      t.resolve (o.framePath (Conversion.frame [] o 9999).index) = .ok (place "frame_10000.nfp") ∧
      place "frame_9999.nfp" ≠ place "frame_10000.nfp" := by
  intro o t place
  obtain ⟨-, -, apart, longer, first⟩ := fileName_faithful
  have here : t.resolve (o.framePath (Conversion.frame [] o 9998).index) = .ok (place "frame_9999.nfp") := by
    decide +kernel
  have there : t.resolve (o.framePath (Conversion.frame [] o 9999).index) = .ok (place "frame_10000.nfp") := by
    decide +kernel
  refine ⟨(first 999 1000 (by decide) (by decide) (by decide)).2, ?_, here, there, ?_⟩
  · exact longer 10000 10001 (by decide) (by decide) (by decide +kernel)
  · exact apart o [] 9998 9999 (by decide +kernel) (by decide) (by decide) (by decide) t t _ _ here (by decide +kernel)
      there

-- The first number with five digits comes before its predecessor.
example : fileName 10000 < fileName 9999 := by decide +kernel

end Frame

end BlitReel
