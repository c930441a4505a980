import Mathlib
import BlitReel.Text.Utf8

/-!
# Octets of texts and their parts

`Octets.splitOn` is the library's `List.splitOn`, so joined parts come apart again. The octets of a
text are the encodings of its characters one after the other; for ASCII characters these are the
character numbers, and the runes of such octets are the characters again.
-/

namespace BlitReel

namespace Octets

/-- One step of `splitOn`: the parts finished so far, in reverse, and the open one, in reverse. -/
theorem foldl_splitOn (sep : UInt8) (s : Octets) (parts : List Octets) (cur : Octets) :
    let r := s.foldl (fun (parts, cur) b =>
      if b == sep then (cur.reverse :: parts, []) else (parts, b :: cur)) (parts, cur)
    (r.2.reverse :: r.1).reverse = parts.reverse ++ List.splitOnPPrepend (· == sep) s cur := by
  induction s generalizing parts cur with
  | nil => simp
  | cons b s ih =>
    rw [List.foldl_cons, List.splitOnPPrepend_cons_eq_if]
    by_cases hb : (b == sep) = true
    · simp only [hb, ↓reduceIte, ih]
      simp
    · simp only [hb, ih]
      simp

theorem splitOn_eq (sep : UInt8) (s : Octets) : splitOn sep s = List.splitOn sep s := by
  have h := foldl_splitOn sep s [] []
  simpa only [splitOn, List.splitOn_eq_splitOnP, List.reverse_nil, List.nil_append,
    List.splitOnPPrepend_nil_right] using h

theorem splitOn_ne_nil (sep : UInt8) (s : Octets) : splitOn sep s ≠ [] := by
  rw [splitOn_eq]
  exact List.splitOn_ne_nil sep s

theorem splitOn_append_cons (sep : UInt8) (a b : Octets) :
    splitOn sep (a ++ sep :: b) = splitOn sep a ++ splitOn sep b := by
  simp only [splitOn_eq, List.splitOn_append_cons_self]

theorem splitOn_of_not_mem {sep : UInt8} {s : Octets} (h : sep ∉ s) : splitOn sep s = [s] := by
  rw [splitOn_eq, List.splitOn_eq_singleton h]

/-- Parts joined by a separator that none of them holds are the parts between separators. -/
theorem splitOn_join {sep : UInt8} {parts : List Octets} (h : ∀ p ∈ parts, sep ∉ p) (ne : parts ≠ []) :
    splitOn sep (parts.intersperse [sep]).flatten = parts := by
  rw [splitOn_eq]
  exact List.splitOn_intercalate sep h ne

theorem not_mem_of_mem_splitOn {sep : UInt8} {s p : Octets} (h : p ∈ splitOn sep s) : sep ∉ p := by
  rw [splitOn_eq] at h
  induction s generalizing p with
  | nil =>
    rw [List.splitOn_nil, List.mem_singleton] at h
    simp [h]
  | cons b s ih =>
    rw [List.splitOn_cons_eq_if_modifyHead] at h
    split at h
    · rcases List.mem_cons.1 h with rfl | h
      · simp
      · exact ih h
    · rename_i ne
      obtain ⟨first, rest, split⟩ := List.exists_cons_of_ne_nil (List.splitOn_ne_nil sep s)
      rw [split, List.modifyHead_cons] at h
      rcases List.mem_cons.1 h with rfl | h
      · have clear : sep ∉ first := ih (by simp [split])
        simpa [clear] using fun e => ne (by simp [e])
      · exact ih (by simp [split, h])

/-! The octets of a text. -/

theorem ofString_eq (s : String) : ofString s = s.toList.flatMap String.utf8EncodeChar := by
  rw [ofString, String.toUTF8_eq_toByteArray, ← String.utf8Encode_toList, List.utf8Encode]
  simp

theorem ofString_ofList (cs : List Char) : ofString (String.ofList cs) = cs.flatMap String.utf8EncodeChar := by
  simp [ofString_eq]

@[simp] theorem ofString_append (a b : String) : ofString (a ++ b) = ofString a ++ ofString b := by
  simp [ofString_eq]

/-- The octet of an ASCII character. -/
def ofAscii (c : Char) : UInt8 := UInt8.ofNat c.toNat

theorem utf8EncodeChar_ascii {c : Char} (h : c.toNat < 128) : String.utf8EncodeChar c = [ofAscii c] := by
  have size : c.utf8Size = 1 := by
    rw [Char.utf8Size_eq_one_iff]
    exact UInt32.le_iff_toNat_le.2 (by simpa using Nat.le_of_lt_succ h)
  rw [String.utf8EncodeChar_eq_singleton size]
  rfl

/-- The octets of an ASCII text are the numbers of its characters. -/
theorem ofString_ascii {cs : List Char} (h : ∀ c ∈ cs, c.toNat < 128) :
    ofString (String.ofList cs) = cs.map ofAscii := by
  rw [ofString_ofList]
  induction cs with
  | nil => rfl
  | cons c cs ih =>
    rw [List.flatMap_cons, utf8EncodeChar_ascii (h c (by simp)), ih fun d hd => h d (by simp [hd])]
    rfl

theorem toNat_ofAscii {c : Char} (h : c.toNat < 128) : (ofAscii c).toNat = c.toNat := by
  rw [ofAscii, UInt8.toNat_ofNat']
  omega

/-- ASCII characters keep their identity as octets. -/
theorem ofAscii_inj {c d : Char} (hc : c.toNat < 128) (hd : d.toNat < 128) : ofAscii c = ofAscii d ↔ c = d := by
  constructor
  · intro h
    have same := congrArg UInt8.toNat h
    rw [toNat_ofAscii hc, toNat_ofAscii hd] at same
    exact Char.toNat_inj.1 same
  · rintro rfl
    rfl

/-! Decimal numbers. -/

theorem isDigit_iff {c : Char} : c.isDigit = true ↔ 48 ≤ c.toNat ∧ c.toNat ≤ 57 := by
  simp only [Char.isDigit, Bool.and_eq_true, decide_eq_true_eq, ge_iff_le, UInt32.le_iff_toNat_le]
  exact Iff.rfl

theorem ascii_of_isDigit {c : Char} (h : c.isDigit = true) : c.toNat < 128 := by
  have := isDigit_iff.1 h
  omega

theorem isDigit_ofAscii {c : Char} (h : c.isDigit = true) : isDigit (ofAscii c) = true := by
  have range := isDigit_iff.1 h
  have value := toNat_ofAscii (ascii_of_isDigit h)
  simp only [isDigit, Bool.and_eq_true, decide_eq_true_eq, UInt8.le_iff_toNat_le, value]
  exact range

/-- The octets of a natural in decimal. -/
theorem ofNat_eq (n : Nat) : ofNat n = (Nat.toDigits 10 n).map ofAscii := by
  rw [ofNat, Nat.toString_eq_ofList_toDigits]
  exact ofString_ascii fun c hc => ascii_of_isDigit (Nat.isDigit_of_mem_toDigits (by decide) (by decide) hc)

theorem isDigit_of_mem_ofNat {n : Nat} {b : UInt8} (h : b ∈ ofNat n) : isDigit b = true := by
  rw [ofNat_eq] at h
  obtain ⟨c, hc, rfl⟩ := List.mem_map.1 h
  exact isDigit_ofAscii (Nat.isDigit_of_mem_toDigits (by decide) (by decide) hc)

theorem ofNat_ne_nil (n : Nat) : ofNat n ≠ [] := by
  rw [ofNat_eq]
  simp

/-- A whole number is spelled by its magnitude, behind a minus sign when it is negative. -/
theorem ofInt_eq (n : Int) : ofInt n = if n < 0 then 45 :: ofNat n.natAbs else ofNat n.natAbs := by
  rw [ofInt, Int.toString_eq_repr, Int.repr_eq_if]
  by_cases h : 0 ≤ n
  · have value : n.toNat = n.natAbs := by omega
    rw [if_pos h, if_neg (by omega), value]
    rfl
  · have value : (-n).toNat = n.natAbs := by omega
    rw [if_neg h, if_pos (by omega), value, ofString_append]
    rfl

end Octets

/-! Runes of ASCII octets. -/

namespace Utf8

theorem head?_ascii {b : UInt8} (h : b.toNat < 128) (s : Octets) :
    head? (b :: s) = some (Char.ofNat b.toNat, 1) := by
  have small : b < 0x80 := UInt8.lt_iff_toNat_lt.2 h
  simp [head?, small]

theorem runesAux_ascii {s : Octets} (h : ∀ b ∈ s, b.toNat < 128) (done : List Rune) :
    runesAux s 0 done = (s.map fun b => Rune.char (Char.ofNat b.toNat)).reverse ++ done := by
  induction s generalizing done with
  | nil => rfl
  | cons b s ih =>
    rw [runesAux, head?_ascii (h b (by simp))]
    simp only [Nat.sub_self]
    rw [ih fun x hx => h x (by simp [hx])]
    simp

/-- The runes of ASCII octets are the characters with their numbers. -/
theorem runes_ascii {s : Octets} (h : ∀ b ∈ s, b.toNat < 128) :
    runes s = s.map fun b => Rune.char (Char.ofNat b.toNat) := by
  rw [runes, runesAux_ascii h]
  simp

end Utf8

end BlitReel
