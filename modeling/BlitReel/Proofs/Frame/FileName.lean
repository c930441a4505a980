import Mathlib
import BlitReel.Frame.Basic
import BlitReel.Proofs.Files.Path

/-!
# Names of frame files

The name of a frame file spells its index, so frames of different indices have different names. All
names are plain: they stand for themselves in a path.
-/

namespace BlitReel

namespace Octets

theorem ofString_inj {a b : String} : ofString a = ofString b ↔ a = b := by
  constructor
  · intro h
    exact String.toByteArray_inj.1 (ByteArray.ext (by simpa [ofString] using h))
  · rintro rfl
    rfl

end Octets

namespace Frame

/-- The characters of a padded number: a sign, zeros and the digits of the magnitude. -/
theorem toList_padded (width : Nat) (n : Int) :
    ∃ k, (padded width n).toList =
      (if n < 0 then ['-'] else []) ++ List.replicate k '0' ++ Nat.toDigits 10 n.natAbs := by
  refine ⟨width - (if n < 0 then "-" else "").length - (toString n.natAbs).length, ?_⟩
  rw [padded, Nat.toString_eq_ofList_toDigits]
  split <;> simp

theorem ofDigitChars_zeros (k n : Nat) :
    Nat.ofDigitChars 10 (List.replicate k '0' ++ Nat.toDigits 10 n) 0 = n := by
  induction k with
  | zero => exact Nat.ofDigitChars_ten_toDigits
  | succ k ih =>
    rw [List.replicate_succ, List.cons_append, Nat.ofDigitChars_cons]
    exact ih

theorem isDigit_of_mem_zeros {k n : Nat} {c : Char} (h : c ∈ List.replicate k '0' ++ Nat.toDigits 10 n) :
    c.isDigit = true := by
  rcases List.mem_append.1 h with h | h
  · rw [List.eq_of_mem_replicate h]
    rfl
  · exact Nat.isDigit_of_mem_toDigits (by decide) (by decide) h

theorem padded_inj {width : Nat} {m n : Int} (h : padded width m = padded width n) : m = n := by
  have same := congrArg String.toList h
  obtain ⟨j, hm⟩ := toList_padded width m
  obtain ⟨k, hn⟩ := toList_padded width n
  rw [hm, hn, List.append_assoc, List.append_assoc] at same
  have minus (k x : Nat) (rest : List Char) : List.replicate k '0' ++ Nat.toDigits 10 x ≠ '-' :: rest := by
    intro h
    exact absurd (isDigit_of_mem_zeros (k := k) (n := x) (by rw [h]; simp : '-' ∈ _)) (by decide)
  have value (j k x y : Nat)
      (h : List.replicate j '0' ++ Nat.toDigits 10 x = List.replicate k '0' ++ Nat.toDigits 10 y) : x = y := by
    rw [← ofDigitChars_zeros j x, h, ofDigitChars_zeros]
  by_cases neg : m < 0 <;> by_cases neg' : n < 0
  · simp only [neg, neg', ↓reduceIte, List.cons_append, List.nil_append, List.cons.injEq, true_and] at same
    have := value _ _ _ _ same
    omega
  · simp only [neg, neg', ↓reduceIte, List.cons_append, List.nil_append] at same
    exact absurd same.symm (minus _ _ _)
  · simp only [neg, neg', ↓reduceIte, List.cons_append, List.nil_append] at same
    exact absurd same (minus _ _ _)
  · simp only [neg, neg', ↓reduceIte, List.nil_append] at same
    have := value _ _ _ _ same
    omega

/-- The name tells the index. -/
theorem fileName_inj {i j : Int64} (h : fileName i = fileName j) : i = j := by
  rw [fileName, fileName, Octets.ofString_inj, String.append_left_inj, String.append_right_inj] at h
  exact Int64.toInt_inj.1 (padded_inj h)

theorem ascii_padded (width : Nat) (n : Int) : ∀ c ∈ (padded width n).toList, c = '-' ∨ c.isDigit = true := by
  obtain ⟨k, chars⟩ := toList_padded width n
  intro c hc
  rw [chars, List.append_assoc] at hc
  rcases List.mem_append.1 hc with hc | hc
  · split at hc
    · exact Or.inl (by simpa using hc)
    · simp at hc
  · exact Or.inr (isDigit_of_mem_zeros hc)

theorem fileName_eq (index : Int64) :
    fileName index = Octets.ofString "frame_" ++ (padded 4 index.toInt).toList.map Octets.ofAscii ++
      Octets.ofString ".nfp" := by
  have ascii : ∀ c ∈ (padded 4 index.toInt).toList, c.toNat < 128 := by
    intro c hc
    rcases ascii_padded 4 index.toInt c hc with rfl | digit
    · decide
    · exact Octets.ascii_of_isDigit digit
  rw [fileName, Octets.ofString_append, Octets.ofString_append, ← Octets.ofString_ascii ascii, String.ofList_toList]

theorem head?_fileName (index : Int64) : (fileName index).head? = some 0x66 := by
  rw [fileName_eq]
  rfl

theorem plain_fileName (index : Int64) : Path.Plain (fileName index) := by
  have first := head?_fileName index
  refine ⟨?_, ?_, ?_, ?_⟩
  · intro h
    rw [h] at first
    cases first
  · intro h
    rw [h] at first
    exact absurd first (by decide)
  · intro h
    rw [h] at first
    exact absurd first (by decide)
  · intro mem
    rw [fileName_eq, List.mem_append, List.mem_append] at mem
    rcases mem with (mem | mem) | mem
    · exact absurd mem (by decide)
    · obtain ⟨c, hc, slash⟩ := List.mem_map.1 mem
      rcases ascii_padded 4 index.toInt c hc with rfl | digit
      · exact absurd slash (by decide)
      · have := Octets.isDigit_ofAscii digit
        rw [slash] at this
        exact absurd this (by decide)
    · exact absurd mem (by decide)

end Frame

end BlitReel
