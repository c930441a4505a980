import Mathlib
import BlitReel.Proofs.Text.Utf8
import BlitReel.Text.Blank

/-!
# Words

The words of an octet string are what white space leaves of its runes: the stretches between white
space, without the empty ones. The runes of a word spell octets of the string.
-/

namespace BlitReel.Blank

/-- The stretches between white space that are not empty. -/
def stretches (rs : List Rune) : List (List Rune) := (rs.splitOnP isBlankRune).filter fun w => !w.isEmpty

/-- The runes of an octet string spell it. -/
theorem spell_runes (s : Octets) : spell (Utf8.runes s) = s := by
  rw [spell, Utf8.runes, Utf8.octets_runesAux]
  rfl

theorem reverse_closeWord (cur : List Rune) (done : List Octets) :
    (closeWord cur done).reverse = done.reverse ++ ([cur.reverse].filter fun w => !w.isEmpty).map spell := by
  cases cur with
  | nil => simp [closeWord]
  | cons r cur => simp [closeWord]

/-- The scan has the words that are finished, and the open one in reverse. -/
theorem foldl_wordStep (rs cur : List Rune) (done : List Octets) :
    let (cur', done') := rs.foldl wordStep (cur, done)
    (closeWord cur' done').reverse =
      done.reverse ++ ((List.splitOnPPrepend isBlankRune rs cur).filter fun w => !w.isEmpty).map spell := by
  induction rs generalizing cur done with
  | nil => simpa using reverse_closeWord cur done
  | cons r rs ih =>
    rw [List.foldl_cons, List.splitOnPPrepend_cons_eq_if, wordStep]
    by_cases blank : isBlankRune r = true
    · have rest := ih [] (closeWord cur done)
      rw [reverse_closeWord, List.splitOnPPrepend_nil_right, List.append_assoc, ← List.map_append,
        ← List.filter_append, List.singleton_append] at rest
      simpa only [blank, ↓reduceIte] using rest
    · simpa only [blank, Bool.false_eq_true, ↓reduceIte] using ih (r :: cur) done

/-- The words spell the stretches between white space. -/
theorem words_eq (s : Octets) : words s = (stretches (Utf8.runes s)).map spell := by
  have scan := foldl_wordStep (Utf8.runes s) [] []
  rwa [List.splitOnPPrepend_nil_right, List.reverse_nil, List.nil_append] at scan

/-- An octet of a visible ASCII character is no white space. -/
theorem isBlankRune_visible {b : UInt8} (low : 32 < b.toNat) (high : b.toNat < 127) :
    isBlankRune (.char (Char.ofNat b.toNat)) = false := by
  have number : (Char.ofNat b.toNat).toNat = b.toNat := by
    rw [Char.toNat_ofNat, if_pos (Or.inl (by omega))]
  simp only [isBlankRune, isBlank, number, Bool.or_eq_false_iff, Bool.and_eq_false_iff, decide_eq_false_iff_not,
    beq_eq_false_iff_ne]
  omega

theorem runes_visible {s : Octets} (visible : ∀ b ∈ s, 32 < b.toNat ∧ b.toNat < 127) :
    ∀ r ∈ Utf8.runes s, isBlankRune r = false := by
  have ascii : ∀ b ∈ s, b.toNat < 128 := fun b hb => by have := visible b hb; omega
  intro r hr
  rw [Utf8.runes_ascii ascii] at hr
  obtain ⟨b, hb, rfl⟩ := List.mem_map.1 hr
  exact isBlankRune_visible (visible b hb).1 (visible b hb).2

/-- Two visible words with a space between them are these two words. -/
theorem words_pair {a b : Octets} (visibleA : ∀ x ∈ a, 32 < x.toNat ∧ x.toNat < 127)
    (visibleB : ∀ x ∈ b, 32 < x.toNat ∧ x.toNat < 127) (na : a ≠ []) (nb : b ≠ []) :
    words (a ++ 0x20 :: b) = [a, b] := by
  have asciiA : ∀ x ∈ a, x.toNat < 128 := fun x hx => by have := visibleA x hx; omega
  have asciiB : ∀ x ∈ b, x.toNat < 128 := fun x hx => by have := visibleB x hx; omega
  have ascii : ∀ x ∈ a ++ 0x20 :: b, x.toNat < 128 := by
    intro x hx
    rcases List.mem_append.1 hx with hx | hx
    · exact asciiA x hx
    · rcases List.mem_cons.1 hx with rfl | hx
      · decide
      · exact asciiB x hx
  have runes : Utf8.runes (a ++ 0x20 :: b) = Utf8.runes a ++ .char ' ' :: Utf8.runes b := by
    rw [Utf8.runes_ascii ascii, Utf8.runes_ascii asciiA, Utf8.runes_ascii asciiB, List.map_append, List.map_cons]
    rfl
  have full {s : Octets} (ne : s ≠ []) : (Utf8.runes s).isEmpty = false := by
    rw [List.isEmpty_eq_false_iff]
    intro none
    exact ne (by rw [← spell_runes s, none]; rfl)
  rw [words_eq, runes, stretches, List.splitOnP_append_cons _ _ (by decide), List.splitOnP_eq_singleton (runes_visible visibleA),
    List.splitOnP_eq_singleton (runes_visible visibleB)]
  simp [full na, full nb, spell_runes]

end BlitReel.Blank
