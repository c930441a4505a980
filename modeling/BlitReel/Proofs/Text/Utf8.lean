import Mathlib
import BlitReel.Proofs.Text.Octets

/-!
# Texts are read back from their octets

The octets of a character are read as that character, whatever follows, so the runes of a text's
octets are its characters and its text is the text again. The other way round, what is read as a
character are the octets of that character, so the runes of any octets spell them and valid octets are
those of their text.
-/

namespace BlitReel.Utf8

theorem toNat_lt_or (c : Char) : c.toNat < 0xD800 ∨ 0xDFFF < c.toNat ∧ c.toNat < 0x110000 := c.valid

section Octet

variable {n : Nat} (h : n < 256)

include h

theorem toNat_ofNat : (UInt8.ofNat n).toNat = n := by
  rw [UInt8.toNat_ofNat']
  omega

theorem lt_iff (b : UInt8) : UInt8.ofNat n < b ↔ n < b.toNat := by
  rw [UInt8.lt_iff_toNat_lt, toNat_ofNat h]

theorem ge_iff (b : UInt8) : b ≤ UInt8.ofNat n ↔ b.toNat ≤ n := by
  rw [UInt8.le_iff_toNat_le, toNat_ofNat h]

theorem le_iff (b : UInt8) : UInt8.ofNat n ≤ b ↔ n ≤ b.toNat := by
  rw [UInt8.le_iff_toNat_le, toNat_ofNat h]

end Octet

theorem isContinuation_tail (n : Nat) : isContinuation (UInt8.ofNat (n % 64 + 128)) = true := by
  simp only [isContinuation, Bool.and_eq_true, decide_eq_true_eq, ge_iff (by omega : n % 64 + 128 < 256),
    le_iff (by omega : n % 64 + 128 < 256)]
  simp
  omega

theorem payload_tail (n : Nat) : payload (UInt8.ofNat (n % 64 + 128)) = n % 64 := by
  rw [payload, toNat_ofNat (by omega)]
  omega

/-- The octets of a character start with that character. -/
theorem head?_encode (c : Char) (rest : Octets) :
    head? (String.utf8EncodeChar c ++ rest) = some (c, (String.utf8EncodeChar c).length) := by
  have valid := toNat_lt_or c
  have same {n : Nat} (h : n = c.toNat) : Char.ofNat n = c := by rw [h, Char.ofNat_toNat]
  have value : c.val.toNat = c.toNat := rfl
  simp only [String.utf8EncodeChar, value]
  by_cases one : c.toNat ≤ 127
  · have small : c.toNat < 256 := by omega
    simp only [one, ↓reduceIte, List.cons_append, List.nil_append, head?, lt_iff small, toNat_ofNat small]
    rw [if_pos (by simp; omega), same rfl]
    rfl
  by_cases two : c.toNat ≤ 2047
  · have small : c.toNat / 64 % 32 + 192 < 256 := by omega
    simp only [one, two, ↓reduceIte, List.cons_append, List.nil_append, head?, lt_iff small, ge_iff small, le_iff small,
      toNat_ofNat small, isContinuation_tail, payload_tail, Bool.not_true, Bool.false_eq_true]
    rw [if_neg (by simp), if_pos (by simp; omega), same (by omega)]
    rfl
  by_cases three : c.toNat ≤ 65535
  · have small : c.toNat / 4096 % 16 + 224 < 256 := by omega
    simp only [one, two, three, ↓reduceIte, List.cons_append, List.nil_append, head?, lt_iff small, ge_iff small,
      le_iff small, toNat_ofNat small, isContinuation_tail, payload_tail, Bool.not_true, Bool.false_eq_true]
    rw [if_neg (by simp), if_neg (by simp), if_pos (by simp; omega), if_neg (by simp; omega), same (by omega)]
    rfl
  · have small : c.toNat / 262144 % 8 + 240 < 256 := by omega
    simp only [one, two, three, ↓reduceIte, List.cons_append, List.nil_append, head?, lt_iff small, ge_iff small,
      le_iff small, toNat_ofNat small, isContinuation_tail, payload_tail, Bool.not_true, Bool.false_eq_true]
    rw [if_neg (by simp), if_neg (by simp), if_neg (by simp), if_neg (by simp; omega), if_neg (by simp; omega),
      same (by omega)]
    rfl

theorem length_encode_pos (c : Char) : 0 < (String.utf8EncodeChar c).length := by
  rw [String.length_utf8EncodeChar]
  exact Char.utf8Size_pos c

theorem runesAux_skip (s rest : Octets) (done : List Rune) :
    runesAux (s ++ rest) s.length done = runesAux rest 0 done := by
  induction s with
  | nil => rfl
  | cons b s ih => exact ih

theorem runesAux_encode (cs : List Char) (done : List Rune) :
    runesAux (cs.flatMap String.utf8EncodeChar) 0 done = (cs.map Rune.char).reverse ++ done := by
  induction cs generalizing done with
  | nil => rfl
  | cons c cs ih =>
    have first := head?_encode c (cs.flatMap String.utf8EncodeChar)
    obtain ⟨b, tail, octets⟩ := List.exists_cons_of_length_pos (length_encode_pos c)
    rw [List.flatMap_cons]
    rw [octets, List.cons_append] at first ⊢
    rw [runesAux, first]
    simp only [List.length_cons, Nat.add_sub_cancel]
    rw [runesAux_skip, ih]
    simp

/-- The runes of a text are its characters. -/
theorem runes_ofString (s : String) : runes (Octets.ofString s) = s.toList.map Rune.char := by
  rw [runes, Octets.ofString_eq, runesAux_encode]
  simp

/-- A text is read back from its octets. -/
@[simp] theorem text_ofString (s : String) : text (Octets.ofString s) = s := by
  rw [text, runes_ofString, List.map_map]
  change String.ofList (s.toList.map id) = s
  rw [List.map_id, String.ofList_toList]

section Decoding

theorem ofNat_eq {n : Nat} {b : UInt8} (h : n = b.toNat) : UInt8.ofNat n = b := by rw [h, UInt8.ofNat_toNat]

theorem toNat_of_isContinuation {b : UInt8} (h : isContinuation b = true) :
    128 ≤ b.toNat ∧ b.toNat < 192 ∧ payload b = b.toNat - 128 := by
  simp only [isContinuation, Bool.and_eq_true, decide_eq_true_eq, UInt8.le_iff_toNat_le, UInt8.reduceToNat] at h
  unfold payload
  omega

/-- The octets of the character with a number. -/
theorem encode_ofNat {v : Nat} (valid : v.isValidChar) : String.utf8EncodeChar (Char.ofNat v) =
    if v ≤ 127 then [UInt8.ofNat v]
    else if v ≤ 2047 then [UInt8.ofNat (v / 64 % 32 + 192), UInt8.ofNat (v % 64 + 128)]
    else if v ≤ 65535 then
      [UInt8.ofNat (v / 4096 % 16 + 224), UInt8.ofNat (v / 64 % 64 + 128), UInt8.ofNat (v % 64 + 128)]
    else [UInt8.ofNat (v / 262144 % 8 + 240), UInt8.ofNat (v / 4096 % 64 + 128), UInt8.ofNat (v / 64 % 64 + 128),
      UInt8.ofNat (v % 64 + 128)] := by
  have value : (Char.ofNat v).val.toNat = v := by
    have number := Char.toNat_ofNat v
    rwa [if_pos valid] at number
  simp only [String.utf8EncodeChar, value]

variable {b0 b1 b2 b3 : UInt8} (cont1 : isContinuation b1 = true) (cont2 : isContinuation b2 = true)
  (cont3 : isContinuation b3 = true)

theorem encode_one (first : b0.toNat < 128) : String.utf8EncodeChar (Char.ofNat b0.toNat) = [b0] := by
  rw [encode_ofNat (Or.inl (by omega)), if_pos (by omega), UInt8.ofNat_toNat]

include cont1

theorem encode_two (first : 0xC2 ≤ b0.toNat ∧ b0.toNat ≤ 0xDF) :
    String.utf8EncodeChar (Char.ofNat (b0.toNat % 32 * 64 + payload b1)) = [b0, b1] := by
  have range1 := toNat_of_isContinuation cont1
  rw [encode_ofNat (Or.inl (by omega)), if_neg (by omega), if_pos (by omega), ofNat_eq (b := b0) (by omega),
    ofNat_eq (b := b1) (by omega)]

include cont2

theorem encode_three (first : 0xE0 ≤ b0.toNat ∧ b0.toNat ≤ 0xEF) {v : Nat}
    (value : v = b0.toNat % 16 * 4096 + payload b1 * 64 + payload b2) (long : 0x800 ≤ v)
    (valid : v < 0xD800 ∨ 0xDFFF < v) : String.utf8EncodeChar (Char.ofNat v) = [b0, b1, b2] := by
  have range1 := toNat_of_isContinuation cont1
  have range2 := toNat_of_isContinuation cont2
  rw [encode_ofNat (valid.imp_right fun above => ⟨above, by omega⟩), if_neg (by omega), if_neg (by omega),
    if_pos (by omega), ofNat_eq (b := b0) (by omega), ofNat_eq (b := b1) (by omega), ofNat_eq (b := b2) (by omega)]

include cont3

theorem encode_four (first : 0xF0 ≤ b0.toNat ∧ b0.toNat ≤ 0xF4) {v : Nat}
    (value : v = b0.toNat % 8 * 262144 + payload b1 * 4096 + payload b2 * 64 + payload b3) (long : 0x10000 ≤ v)
    (valid : v ≤ 0x10FFFF) : String.utf8EncodeChar (Char.ofNat v) = [b0, b1, b2, b3] := by
  have range1 := toNat_of_isContinuation cont1
  have range2 := toNat_of_isContinuation cont2
  have range3 := toNat_of_isContinuation cont3
  rw [encode_ofNat (Or.inr ⟨by omega, by omega⟩), if_neg (by omega), if_neg (by omega), if_neg (by omega),
    ofNat_eq (b := b0) (by omega), ofNat_eq (b := b1) (by omega), ofNat_eq (b := b2) (by omega),
    ofNat_eq (b := b3) (by omega)]

end Decoding

/-- What an octet string starts with takes the octets of that character. -/
theorem head?_eq_some {s : Octets} {c : Char} {n : Nat} (h : head? s = some (c, n)) :
    ∃ rest, s = String.utf8EncodeChar c ++ rest ∧ n = (String.utf8EncodeChar c).length := by
  have taken (octets : Octets) {rest : Octets} {c' : Char} (spelled : String.utf8EncodeChar c' = octets)
      (same : some (c', octets.length) = some (c, n)) :
      ∃ rest', octets ++ rest = String.utf8EncodeChar c ++ rest' ∧ n = (String.utf8EncodeChar c).length := by
    cases same
    exact ⟨rest, by rw [spelled], by rw [spelled]⟩
  unfold head? at h
  split at h
  · cases h
  rename_i b0 rest
  split at h
  · rename_i one
    exact taken [b0] (encode_one (UInt8.lt_iff_toNat_lt.1 one)) h
  split at h
  · cases h
  rename_i b1 rest
  split at h
  · cases h
  rename_i cont1
  rw [Bool.not_eq_true, Bool.not_eq_false'] at cont1
  split at h
  · rename_i two
    simp only [Bool.and_eq_true, decide_eq_true_eq, UInt8.le_iff_toNat_le] at two
    exact taken [b0, b1] (encode_two cont1 two) h
  split at h
  · cases h
  rename_i b2 rest
  split at h
  · cases h
  rename_i cont2
  rw [Bool.not_eq_true, Bool.not_eq_false'] at cont2
  split at h
  · rename_i three
    simp only at h
    split at h
    · cases h
    rename_i proper
    simp only [Bool.and_eq_true, Bool.or_eq_true, decide_eq_true_eq, UInt8.le_iff_toNat_le, not_or,
      not_and] at three proper
    exact taken [b0, b1, b2] (encode_three cont1 cont2 three rfl (by omega) (by omega)) h
  split at h
  · cases h
  rename_i b3 rest
  split at h
  · cases h
  rename_i four
  simp only at h
  split at h
  · cases h
  rename_i proper
  simp only [Bool.and_eq_true, Bool.or_eq_true, decide_eq_true_eq, Bool.not_eq_true', Bool.not_eq_false,
    UInt8.le_iff_toNat_le, not_or] at four proper
  exact taken [b0, b1, b2, b3] (encode_four cont1 cont2 four.1 four.2 rfl (by omega) (by omega)) h

/-- The runes of an octet string spell it, behind those found before. -/
theorem octets_runesAux (s : Octets) (done : List Rune) :
    (runesAux s 0 done).reverse.flatMap Rune.octets = done.reverse.flatMap Rune.octets ++ s := by
  -- A character takes several octets at once, so the induction is on the length.
  induction length : s.length using Nat.strong_induction_on generalizing s done with
  | _ size ih =>
    cases s with
    | nil => simp [runesAux]
    | cons b s =>
      rw [runesAux]
      cases first : head? (b :: s) with
      | none =>
        simp only
        rw [ih s.length (by simp [← length]) s _ rfl]
        simp [Rune.octets]
      | some found =>
        obtain ⟨c, n⟩ := found
        obtain ⟨rest, spelled, taken⟩ := head?_eq_some first
        obtain ⟨b', tail, octets⟩ := List.exists_cons_of_length_pos (length_encode_pos c)
        rw [octets, List.cons_append, List.cons.injEq] at spelled
        obtain ⟨rfl, rfl⟩ := spelled
        rw [octets, List.length_cons] at taken
        simp only [taken, Nat.add_sub_cancel]
        rw [runesAux_skip, ih rest.length (by simp [← length]) rest _ rfl]
        simp [Rune.octets, octets]

/-- Octets that are valid are those of their text. -/
theorem ofString_text {s : Octets} (h : valid s = true) : Octets.ofString (text s) = s := by
  have spelled : (runes s).flatMap Rune.octets = s := by
    rw [runes, octets_runesAux]
    rfl
  have chars : ∀ r ∈ runes s, String.utf8EncodeChar r.toChar = r.octets := by
    intro r mem
    have sound := List.all_eq_true.1 h r mem
    cases r with
    | char c => rfl
    | stray b => cases sound
  rw [text, Octets.ofString_ofList, List.flatMap_map]
  calc (runes s).flatMap (fun r => String.utf8EncodeChar r.toChar)
      = (runes s).flatMap Rune.octets := List.flatMap_congr chars
    _ = s := spelled

end BlitReel.Utf8
