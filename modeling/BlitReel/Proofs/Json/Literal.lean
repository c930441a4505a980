import Mathlib
import BlitReel.Json.Reader
import BlitReel.Json.Writer
import BlitReel.Proofs.Text.Utf8

/-!
# String literals and numbers of documents

A written string literal is taken whole and stands for the text that was written: escaping is undone
character by character. A number is taken whole where nothing follows that could continue it.
-/

namespace BlitReel

/-- The UTF-8 octets of characters. -/
def Octets.ofChars (cs : List Char) : Octets := cs.flatMap String.utf8EncodeChar

namespace Octets

@[simp] theorem ofChars_nil : ofChars [] = [] := rfl

@[simp] theorem ofChars_append (cs ds : List Char) : ofChars (cs ++ ds) = ofChars cs ++ ofChars ds :=
  List.flatMap_append

theorem ofChars_cons (c : Char) (cs : List Char) : ofChars (c :: cs) = String.utf8EncodeChar c ++ ofChars cs := rfl

theorem ofChars_toList (s : String) : ofChars s.toList = ofString s := (ofString_eq s).symm

end Octets

namespace Json

open Octets (ofChars)

/-! String literals. -/

theorem takeLiteral_safe {bs : Octets} (safe : ∀ b ∈ bs, 0x20 ≤ b ∧ b ≠ 0x22 ∧ b ≠ 0x5C) (rest done : Octets) :
    takeLiteral (bs ++ rest) .plain done = takeLiteral rest .plain (bs.reverse ++ done) := by
  induction bs generalizing done with
  | nil => rfl
  | cons b bs ih =>
    obtain ⟨printable, quote, backslash⟩ := safe b (by simp)
    rw [List.cons_append, takeLiteral, if_neg (by simpa using quote), if_neg (by simpa using backslash),
      if_neg (by simpa using printable), ih fun x hx => safe x (by simp [hx])]
    simp

/-- The octets of a character that needs no escape. -/
theorem safe_encode {c : Char} (printable : 0x20 ≤ c.toNat) (quote : c ≠ '"') (backslash : c ≠ '\\') :
    ∀ b ∈ String.utf8EncodeChar c, 0x20 ≤ b ∧ b ≠ 0x22 ∧ b ≠ 0x5C := by
  have high {n : Nat} (low : 128 ≤ n) (small : n < 256) :
      0x20 ≤ UInt8.ofNat n ∧ UInt8.ofNat n ≠ 0x22 ∧ UInt8.ofNat n ≠ 0x5C := by
    have value := Utf8.toNat_ofNat small
    refine ⟨UInt8.le_iff_toNat_le.2 (by rw [value]; simp; omega), ?_, ?_⟩ <;>
      · intro same
        rw [same] at value
        simp at value
        omega
  by_cases one : c.toNat < 128
  · rw [Octets.utf8EncodeChar_ascii one]
    have value := Octets.toNat_ofAscii one
    simp only [List.mem_singleton, forall_eq]
    refine ⟨UInt8.le_iff_toNat_le.2 (by rw [value]; exact printable), fun same => quote ?_, fun same => backslash ?_⟩
    · exact (Octets.ofAscii_inj one (by decide)).1 same
    · exact (Octets.ofAscii_inj one (by decide)).1 same
  · have value : c.val.toNat = c.toNat := rfl
    simp only [String.utf8EncodeChar, value]
    intro b mem
    split at mem
    · omega
    split at mem
    · simp only [List.mem_cons, List.not_mem_nil, or_false] at mem
      rcases mem with rfl | rfl <;> exact high (by omega) (by omega)
    split at mem
    · simp only [List.mem_cons, List.not_mem_nil, or_false] at mem
      rcases mem with rfl | rfl | rfl <;> exact high (by omega) (by omega)
    · simp only [List.mem_cons, List.not_mem_nil, or_false] at mem
      rcases mem with rfl | rfl | rfl | rfl <;> exact high (by omega) (by omega)

theorem hexChar_hexDigit (n : Nat) : hexChar (Octets.hexDigit n) = n % 16 := by
  have all : ∀ k < 16, hexChar (Nat.digitChar k) = k := by decide
  exact all (n % 16) (Nat.mod_lt n (by decide))

theorem hexValue?_hexDigit (n : Nat) :
    String.utf8EncodeChar (Octets.hexDigit n) = [Octets.ofAscii (Octets.hexDigit n)] ∧
      (Octets.hexValue? (Octets.ofAscii (Octets.hexDigit n))).isNone = false := by
  have all : ∀ k < 16, String.utf8EncodeChar (Nat.digitChar k) = [Octets.ofAscii (Nat.digitChar k)] ∧
      (Octets.hexValue? (Octets.ofAscii (Nat.digitChar k))).isNone = false := by decide
  exact all (n % 16) (Nat.mod_lt n (by decide))

theorem hexDigits_four (n : Nat) : Quoted.hexDigits 4 n =
    [Octets.hexDigit (n / 16 / 16 / 16), Octets.hexDigit (n / 16 / 16), Octets.hexDigit (n / 16), Octets.hexDigit n] :=
  rfl

/-- A numbered escape is taken whole. -/
theorem takeLiteral_numbered (n : Nat) (rest done : Octets) :
    takeLiteral (ofChars ('\\' :: 'u' :: Quoted.hexDigits 4 n) ++ rest) .plain done =
      takeLiteral rest .plain ((ofChars ('\\' :: 'u' :: Quoted.hexDigits 4 n)).reverse ++ done) := by
  have backslash : String.utf8EncodeChar '\\' = [0x5C] := rfl
  have letter : String.utf8EncodeChar 'u' = [0x75] := rfl
  rw [hexDigits_four]
  simp only [Octets.ofChars_cons, Octets.ofChars_nil, backslash, letter, (hexValue?_hexDigit _).1, List.cons_append,
    List.nil_append]
  simp [takeLiteral, (hexValue?_hexDigit _).2]

theorem unescape_numbered {n : Nat} (bound : n < 0x10000) (whole : isSurrogate n = false) (rest done : List Char) :
    unescape ('\\' :: 'u' :: Quoted.hexDigits 4 n ++ rest) none done = unescape rest none (Char.ofNat n :: done) := by
  have value : hexQuad (Octets.hexDigit (n / 16 / 16 / 16)) (Octets.hexDigit (n / 16 / 16)) (Octets.hexDigit (n / 16))
      (Octets.hexDigit n) = n := by
    simp only [hexQuad, hexChar_hexDigit]
    omega
  rw [hexDigits_four]
  simp only [List.cons_append, List.nil_append]
  rw [unescape, value]
  simp [numbered, whole, flush]

/-- A character is written as a one-letter escape, as a numbered escape or as itself. -/
theorem writeChar_cases (c : Char) :
    (∃ l ∈ ['"', '\\', 'b', 'f', 'n', 'r', 't'], writeChar c = ['\\', l] ∧ escapeLetter l = c) ∨
      writeChar c = '\\' :: 'u' :: Quoted.hexDigits 4 c.toNat ∧ c.toNat < 0x10000 ∧ isSurrogate c.toNat = false ∨
      writeChar c = [c] ∧ 0x20 ≤ c.toNat ∧ c ≠ '"' ∧ c ≠ '\\' := by
  have number {n : Nat} (h : c.toNat = n) : Char.ofNat n = c := by rw [← h, Char.ofNat_toNat]
  unfold writeChar
  split
  · exact Or.inl ⟨'"', by simp, rfl, rfl⟩
  · exact Or.inl ⟨'\\', by simp, rfl, rfl⟩
  · exact Or.inl ⟨'n', by simp, rfl, rfl⟩
  · exact Or.inl ⟨'r', by simp, rfl, rfl⟩
  · exact Or.inl ⟨'t', by simp, rfl, rfl⟩
  rename_i quote backslash _ _ _
  split
  · rename_i backspace
    exact Or.inl ⟨'b', by simp, rfl, number (by simpa using backspace)⟩
  split
  · rename_i feed
    exact Or.inl ⟨'f', by simp, rfl, number (by simpa using feed)⟩
  split
  · rename_i special
    refine Or.inr (Or.inl ⟨rfl, ?_⟩)
    simp only [Bool.or_eq_true, decide_eq_true_eq, beq_iff_eq] at special
    have low : c.toNat < 0x20 ∨ c.toNat = 60 ∨ c.toNat = 62 ∨ c.toNat = 38 ∨ c.toNat = 0x2028 ∨ c.toNat = 0x2029 := by
      rcases special with ((((low | rfl) | rfl) | rfl) | line) | paragraph
      · exact Or.inl low
      · exact Or.inr (Or.inl rfl)
      · exact Or.inr (Or.inr (Or.inl rfl))
      · exact Or.inr (Or.inr (Or.inr (Or.inl rfl)))
      · omega
      · omega
    simp only [isSurrogate, Bool.and_eq_false_iff, decide_eq_false_iff_not]
    omega
  · rename_i ordinary
    simp only [Bool.or_eq_true, decide_eq_true_eq, beq_iff_eq, not_or] at ordinary
    exact Or.inr (Or.inr ⟨rfl, by omega, quote, backslash⟩)

theorem takeLiteral_writeChar (c : Char) (rest done : Octets) :
    takeLiteral (ofChars (writeChar c) ++ rest) .plain done =
      takeLiteral rest .plain ((ofChars (writeChar c)).reverse ++ done) := by
  rcases writeChar_cases c with ⟨l, mem, written, -⟩ | ⟨written, -⟩ | ⟨written, printable, quote, backslash⟩
  · rw [written]
    simp only [List.mem_cons, List.not_mem_nil, or_false] at mem
    rcases mem with rfl | rfl | rfl | rfl | rfl | rfl | rfl <;> rfl
  · rw [written]
    exact takeLiteral_numbered c.toNat rest done
  · rw [written, Octets.ofChars_cons, Octets.ofChars_nil, List.append_nil]
    exact takeLiteral_safe (safe_encode printable quote backslash) rest done

/-- A written literal is taken whole. -/
theorem takeLiteral_write (cs : List Char) (rest done : Octets) :
    takeLiteral (ofChars (cs.flatMap writeChar) ++ 0x22 :: rest) .plain done =
      .ok (done.reverse ++ ofChars (cs.flatMap writeChar), rest) := by
  induction cs generalizing done with
  | nil => simp [takeLiteral]
  | cons c cs ih =>
    rw [List.flatMap_cons, Octets.ofChars_append, List.append_assoc, takeLiteral_writeChar, ih]
    simp

theorem unescape_writeChar (c : Char) (rest done : List Char) :
    unescape (writeChar c ++ rest) none done = unescape rest none (c :: done) := by
  rcases writeChar_cases c with ⟨l, mem, written, letter⟩ | ⟨written, bound, whole⟩ | ⟨written, -, -, backslash⟩
  · rw [written, ← letter]
    simp only [List.mem_cons, List.not_mem_nil, or_false] at mem
    rcases mem with rfl | rfl | rfl | rfl | rfl | rfl | rfl <;> rfl
  · rw [written, unescape_numbered bound whole, Char.ofNat_toNat]
  · rw [written, List.singleton_append, unescape]
    · rfl
    · exact fun _ _ _ _ _ same => absurd same backslash
    · exact fun _ _ same => absurd same backslash

theorem unescape_write (cs done : List Char) : unescape (cs.flatMap writeChar) none done = cs.reverse ++ done := by
  induction cs generalizing done with
  | nil => rfl
  | cons c cs ih =>
    rw [List.flatMap_cons, unescape_writeChar, ih]
    simp

/-- A written literal stands for the text that was written. -/
theorem literalText_write (s : String) : literalText (ofChars (s.toList.flatMap writeChar)) = s := by
  have runes : Utf8.runes (ofChars (s.toList.flatMap writeChar)) = (s.toList.flatMap writeChar).map Rune.char := by
    rw [← String.toList_ofList (l := s.toList.flatMap writeChar), Octets.ofChars_toList, Utf8.runes_ofString]
  have chars : ((s.toList.flatMap writeChar).map Rune.char).map Rune.toChar = s.toList.flatMap writeChar := by
    rw [List.map_map]
    exact List.map_id _
  rw [literalText, runes, chars, unescape_write]
  simp

end Json

end BlitReel
