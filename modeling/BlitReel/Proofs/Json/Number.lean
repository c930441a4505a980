import Mathlib
import BlitReel.Number.Layout
import BlitReel.Proofs.Json.Literal

/-!
# Numbers of documents

`IsNumber` is the shape of the numbers that documents hold: a sign, a whole part without leading zeros,
a fraction and a power. A number of this shape is taken whole where nothing follows that could
continue it. Whole numbers and finite doubles are written in this shape.
-/

namespace BlitReel.Json

open Octets (ofChars)

/-- One digit or more. -/
def Digits (cs : List Char) : Prop := cs ≠ [] ∧ ∀ c ∈ cs, c.isDigit = true

/-- A zero, or digits that start with another one. -/
def Whole (cs : List Char) : Prop := cs = ['0'] ∨ Digits cs ∧ cs.head? ≠ some '0'

/-- Nothing, or a point and digits. -/
def Fraction (cs : List Char) : Prop := cs = [] ∨ ∃ ds, cs = '.' :: ds ∧ Digits ds

/-- Nothing, or an exponent with its sign. -/
def Power (cs : List Char) : Prop := cs = [] ∨ ∃ sign ds, cs = 'e' :: sign :: ds ∧ (sign = '+' ∨ sign = '-') ∧ Digits ds

/-- The characters of a number without a sign. -/
def Unsigned (cs : List Char) : Prop :=
  ∃ whole fraction power, cs = whole ++ fraction ++ power ∧ Whole whole ∧ Fraction fraction ∧ Power power

/-- The characters of a number. -/
def IsNumber (cs : List Char) : Prop := Unsigned cs ∨ ∃ ds, cs = '-' :: ds ∧ Unsigned ds

/-- What follows a number does not continue it. -/
def Stops (rest : Octets) : Prop :=
  ∀ b ∈ rest.head?, Octets.isDigit b = false ∧ b ≠ 0x2E ∧ b ≠ 0x65 ∧ b ≠ 0x45

section Take

variable {cs : List Char} {rest : Octets}

theorem Digits.ofChars (h : Digits cs) :
    Octets.ofChars cs ≠ [] ∧ ∀ b ∈ Octets.ofChars cs, Octets.isDigit b = true := by
  have octets : Octets.ofChars cs = cs.map Octets.ofAscii := by
    have := Octets.ofString_ascii fun c hc => Octets.ascii_of_isDigit (h.2 c hc)
    rwa [Octets.ofString_ofList] at this
  rw [octets]
  refine ⟨by simpa using h.1, fun b mem => ?_⟩
  obtain ⟨c, hc, rfl⟩ := List.mem_map.1 mem
  exact Octets.isDigit_ofAscii (h.2 c hc)

/-- A run of digits ends where no digit follows. -/
theorem spanDigits_append {ds : Octets} (digits : ∀ b ∈ ds, Octets.isDigit b = true)
    (stop : ∀ b ∈ rest.head?, Octets.isDigit b = false) : spanDigits (ds ++ rest) = (ds, rest) := by
  have end_here : rest.takeWhile Octets.isDigit = [] ∧ rest.dropWhile Octets.isDigit = rest := by
    cases rest with
    | nil => exact ⟨rfl, rfl⟩
    | cons b rest => simp [stop b rfl]
  rw [spanDigits, List.span_eq_takeWhile_dropWhile, List.takeWhile_append_of_pos digits,
    List.dropWhile_append_of_pos digits, end_here.1, end_here.2, List.append_nil]

theorem takeWhole_append (h : Whole cs) (stop : ∀ b ∈ rest.head?, Octets.isDigit b = false) :
    takeWhole (ofChars cs ++ rest) = some (ofChars cs, rest) := by
  rcases h with rfl | ⟨digits, first⟩
  · rfl
  · obtain ⟨ne, all⟩ := digits.ofChars
    have zero : ∀ tail, ofChars cs ++ rest = 0x30 :: tail → False := by
      intro tail same
      obtain ⟨c, ds, rfl⟩ := List.exists_cons_of_ne_nil digits.1
      have ascii := Octets.ascii_of_isDigit (digits.2 c (by simp))
      rw [Octets.ofChars_cons, Octets.utf8EncodeChar_ascii ascii] at same
      simp only [List.cons_append, List.cons.injEq] at same
      exact first (congrArg some ((Octets.ofAscii_inj ascii (by decide)).1 same.1))
    obtain ⟨b, tail, octets⟩ := List.exists_cons_of_ne_nil ne
    rw [takeWhole, spanDigits_append all stop, octets]
    exact zero

theorem takeFraction_append (h : Fraction cs) (stop : ∀ b ∈ rest.head?, Octets.isDigit b = false ∧ b ≠ 0x2E) :
    takeFraction (ofChars cs ++ rest) = some (ofChars cs, rest) := by
  rcases h with rfl | ⟨ds, rfl, digits⟩
  · rw [Octets.ofChars_nil, List.nil_append, takeFraction]
    rintro tail rfl
    exact (stop 0x2E rfl).2 rfl
  · obtain ⟨ne, all⟩ := digits.ofChars
    obtain ⟨b, tail, octets⟩ := List.exists_cons_of_ne_nil ne
    have point : ofChars ('.' :: ds) = 0x2E :: ofChars ds := rfl
    rw [point, List.cons_append, takeFraction, spanDigits_append all fun b mem => (stop b mem).1, octets]

theorem takePower_append (h : Power cs) (stop : Stops rest) :
    takePower (ofChars cs ++ rest) = some (ofChars cs, rest) := by
  rcases h with rfl | ⟨sign, ds, rfl, signed, digits⟩
  · rw [Octets.ofChars_nil, List.nil_append]
    cases rest with
    | nil => rfl
    | cons b rest =>
      obtain ⟨-, -, small, capital⟩ := stop b rfl
      unfold takePower
      dsimp only
      rw [if_neg (by simp [small, capital])]
  · obtain ⟨ne, all⟩ := digits.ofChars
    obtain ⟨b, tail, octets⟩ := List.exists_cons_of_ne_nil ne
    have span := spanDigits_append all fun b mem => (stop b mem).1
    rcases signed with rfl | rfl
    · have mark : ofChars ('e' :: '+' :: ds) = 0x65 :: 0x2B :: ofChars ds := rfl
      rw [mark, List.cons_append, List.cons_append, takePower, if_pos (by decide)]
      simp only [span]
      rw [octets]
      rfl
    · have mark : ofChars ('e' :: '-' :: ds) = 0x65 :: 0x2D :: ofChars ds := rfl
      rw [mark, List.cons_append, List.cons_append, takePower, if_pos (by decide)]
      simp only [span]
      rw [octets]
      rfl

theorem stops_power (h : Power cs) (stop : Stops rest) :
    ∀ b ∈ (ofChars cs ++ rest).head?, Octets.isDigit b = false ∧ b ≠ 0x2E := by
  rcases h with rfl | ⟨sign, ds, rfl, -, -⟩
  · exact fun b mem => ⟨(stop b mem).1, (stop b mem).2.1⟩
  · intro b mem
    obtain rfl : 0x65 = b := Option.some.inj mem
    decide

theorem stops_fraction (h : Fraction cs) (stop : ∀ b ∈ rest.head?, Octets.isDigit b = false) :
    ∀ b ∈ (ofChars cs ++ rest).head?, Octets.isDigit b = false := by
  rcases h with rfl | ⟨ds, rfl, -⟩
  · exact stop
  · intro b mem
    obtain rfl : 0x2E = b := Option.some.inj mem
    decide

/-- A whole part does not start like a sign. -/
theorem Whole.first (h : Whole cs) : ∃ b tail, ofChars cs = b :: tail ∧ Octets.isDigit b = true := by
  rcases h with rfl | ⟨digits, -⟩
  · exact ⟨0x30, [], rfl, rfl⟩
  · obtain ⟨ne, all⟩ := digits.ofChars
    obtain ⟨b, tail, octets⟩ := List.exists_cons_of_ne_nil ne
    exact ⟨b, tail, octets, all b (by simp [octets])⟩

theorem Unsigned.first (h : Unsigned cs) : ∃ b tail, ofChars cs = b :: tail ∧ Octets.isDigit b = true := by
  obtain ⟨whole, fraction, power, rfl, isWhole, -⟩ := h
  obtain ⟨b, tail, octets, digit⟩ := isWhole.first
  exact ⟨b, tail ++ ofChars fraction ++ ofChars power, by simp [octets], digit⟩

theorem Unsigned.take (h : Unsigned cs) (stop : Stops rest) :
    ∃ whole fraction power, ofChars cs = whole ++ fraction ++ power ∧ takeWhole (ofChars cs ++ rest) = some
        (whole, fraction ++ (power ++ rest)) ∧
      takeFraction (fraction ++ (power ++ rest)) = some (fraction, power ++ rest) ∧
      takePower (power ++ rest) = some (power, rest) := by
  obtain ⟨whole, fraction, power, rfl, isWhole, isFraction, isPower⟩ := h
  have stopFraction := stops_power isPower stop
  have stopWhole := stops_fraction isFraction fun b mem => (stopFraction b mem).1
  refine ⟨ofChars whole, ofChars fraction, ofChars power, by simp, ?_, takeFraction_append isFraction stopFraction,
    takePower_append isPower stop⟩
  simpa using takeWhole_append isWhole stopWhole

/-- A number is taken whole. -/
theorem IsNumber.takeNumber (h : IsNumber cs) (stop : Stops rest) :
    takeNumber (ofChars cs ++ rest) = some (ofChars cs, rest) := by
  rcases h with unsigned | ⟨ds, rfl, unsigned⟩
  · obtain ⟨b, tail, first, digit⟩ := unsigned.first
    have minus : b ≠ 0x2D := by
      rintro rfl
      exact absurd digit (by decide)
    obtain ⟨whole, fraction, power, octets, takeWhole, takeFraction, takePower⟩ := unsigned.take stop
    rw [Json.takeNumber]
    · simp only [takeWhole, takeFraction, takePower, Option.bind_eq_bind, Option.bind_some, Option.pure_def]
      rw [octets, List.nil_append]
    · rw [first]
      exact fun r same => minus (List.cons.inj same).1
  · obtain ⟨whole, fraction, power, octets, takeWhole, takeFraction, takePower⟩ := unsigned.take stop
    have sign : ofChars ('-' :: ds) = 0x2D :: ofChars ds := rfl
    rw [sign, List.cons_append, Json.takeNumber]
    simp only [takeWhole, takeFraction, takePower, Option.bind_eq_bind, Option.bind_some, Option.pure_def]
    rw [octets]
    rfl

theorem IsNumber.first (h : IsNumber cs) :
    ∃ b tail, ofChars cs = b :: tail ∧ (b = 0x2D ∨ Octets.isDigit b = true) := by
  rcases h with unsigned | ⟨ds, rfl, -⟩
  · obtain ⟨b, tail, octets, digit⟩ := unsigned.first
    exact ⟨b, tail, octets, Or.inr digit⟩
  · exact ⟨0x2D, ofChars ds, rfl, Or.inl rfl⟩

end Take

/-! Whole numbers. -/

theorem digits_toDigits (n : Nat) : Digits (Nat.toDigits 10 n) :=
  ⟨Nat.toDigits_ne_nil, fun _ mem => Nat.isDigit_of_mem_toDigits (by decide) (by decide) mem⟩

/-- A positive number is spelled without leading zeros. -/
theorem head?_toDigits {n : Nat} (pos : 0 < n) : (Nat.toDigits 10 n).head? ≠ some '0' := by
  induction n using Nat.strongRecOn with
  | ind n ih =>
    by_cases small : n < 10
    · rw [Nat.toDigits_of_lt_base small]
      simp only [List.head?_cons, ne_eq, Option.some.injEq, Nat.digitChar_eq_zero]
      omega
    · rw [Nat.toDigits_of_base_le (by decide) (by omega), List.head?_append_of_ne_nil _ Nat.toDigits_ne_nil]
      exact ih (n / 10) (by omega) (by omega)

theorem whole_toDigits (n : Nat) : Whole (Nat.toDigits 10 n) := by
  rcases Nat.eq_zero_or_pos n with rfl | pos
  · exact Or.inl rfl
  · exact Or.inr ⟨digits_toDigits n, head?_toDigits pos⟩

theorem unsigned_toDigits (n : Nat) : Unsigned (Nat.toDigits 10 n) :=
  ⟨_, [], [], by simp, whole_toDigits n, Or.inl rfl, Or.inl rfl⟩

theorem isNumber_toString (n : Int) : IsNumber (toString n).toList := by
  rw [Int.toString_eq_repr, Int.repr_eq_if]
  split
  · exact Or.inl (by simpa [Nat.repr] using unsigned_toDigits n.toNat)
  · exact Or.inr ⟨_, by simp [Nat.repr], unsigned_toDigits (-n).toNat⟩

end BlitReel.Json

namespace BlitReel.Decimal

open Json (Digits Whole Fraction Power Unsigned)

/-! Doubles. -/

/-- Digits below ten, the first of them not zero; a number without digits is zero. -/
structure Sound (d : Decimal) : Prop where
  below : ∀ x ∈ d.digits, x < 10
  leading : d.digits.head? ≠ some 0
  zero : d.digits = [] → d.point ≤ 0

theorem sound_zero : Sound ⟨[], 0⟩ := ⟨by simp, by simp, fun _ => Int.le_refl 0⟩

theorem naturalDigits_spec {n : Nat} (pos : 0 < n) :
    naturalDigits n ≠ [] ∧ (∀ x ∈ naturalDigits n, x < 10) ∧ (naturalDigits n).head? ≠ some 0 := by
  have digit {c : Char} (mem : c ∈ Nat.toDigits 10 n) : 48 ≤ c.toNat ∧ c.toNat ≤ 57 :=
    Octets.isDigit_iff.1 ((Json.digits_toDigits n).2 c mem)
  rw [naturalDigits, if_neg (by simpa using pos.ne')]
  refine ⟨by simp, fun x mem => ?_, fun zero => ?_⟩
  · obtain ⟨c, hc, rfl⟩ := List.mem_map.1 mem
    have := digit hc
    omega
  · rw [List.head?_map, Option.map_eq_some_iff] at zero
    obtain ⟨c, first, value⟩ := zero
    have := digit (List.mem_of_mem_head? first)
    have same : c = '0' := Char.toNat_inj.1 (by change c.toNat = 48; omega)
    exact Json.head?_toDigits pos (by rw [first, same])

theorem trimZeros_prefix (ds : List Nat) : trimZeros ds <+: ds := by
  rw [trimZeros, ← List.reverse_suffix, List.reverse_reverse]
  exact List.dropWhile_suffix _

theorem trimZeros_ne_nil {ds : List Nat} (ne : ds ≠ []) (first : ds.head? ≠ some 0) : trimZeros ds ≠ [] := by
  obtain ⟨d, rest, rfl⟩ := List.exists_cons_of_ne_nil ne
  intro empty
  rw [trimZeros, List.reverse_eq_nil_iff, List.dropWhile_eq_nil_iff] at empty
  have := empty d (by simp)
  exact first (by simpa using this)

theorem sound_ofScaled (n : Nat) (e : Int) : (ofScaled n e).Sound := by
  rw [ofScaled]
  split
  · exact sound_zero
  rename_i nonzero
  obtain ⟨ne, below, first⟩ := naturalDigits_spec (n := n) (by simpa [Nat.pos_iff_ne_zero] using nonzero)
  have kept := trimZeros_ne_nil ne first
  obtain ⟨rest, split⟩ := trimZeros_prefix (naturalDigits n)
  refine ⟨fun x mem => below x ?_, ?_, fun empty => absurd empty kept⟩
  · rw [← split]
    exact List.mem_append_left _ mem
  · rwa [← split, List.head?_append_of_ne_nil _ kept] at first

theorem sound_shortest (m : Nat) (q : Int) : (shortest m q).Sound := by
  have search (mid den : Nat) (inside : Nat → Int → Bool) (size : Int) (fuel count : Nat) :
      (shortest.search mid den inside size fuel count).Sound := by
    induction fuel generalizing count with
    | zero => exact sound_zero
    | succ fuel ih =>
      rw [shortest.search]
      split
      · exact sound_ofScaled _ _
      · exact sound_ofScaled _ _
      · split
        · exact sound_ofScaled _ _
        · exact sound_ofScaled _ _
        · split <;> exact sound_ofScaled _ _
      · exact ih (count + 1)
  exact search _ _ _ _ _ _

section Spelling

variable {d : Decimal}

theorem digitsAt_spec {ds : List Nat} (below : ∀ x ∈ ds, x < 10) (start count : Nat) :
    (digitsAt ds start count).length = count ∧ ∀ c ∈ digitsAt ds start count, c.isDigit = true := by
  rw [digitsAt]
  refine ⟨by simp, fun c mem => ?_⟩
  rcases List.mem_append.1 mem with mem | mem
  · obtain ⟨x, hx, rfl⟩ := List.mem_map.1 mem
    rw [digitChar, Nat.isDigit_digitChar]
    exact decide_eq_true (below x (List.mem_of_mem_drop (List.mem_of_mem_take hx)))
  · rw [List.eq_of_mem_replicate mem]
    rfl

theorem digits_digitsAt {ds : List Nat} (below : ∀ x ∈ ds, x < 10) (start : Nat) {count : Nat} (pos : 0 < count) :
    Digits (digitsAt ds start count) := by
  obtain ⟨length, digits⟩ := digitsAt_spec below start count
  refine ⟨fun empty => ?_, digits⟩
  rw [empty] at length
  simp at length
  omega

theorem Sound.whole (h : d.Sound) : Whole (if d.point > 0 then digitsAt d.digits 0 d.point.toNat else ['0']) := by
  split
  · rename_i pos
    refine Or.inr ⟨digits_digitsAt h.below 0 (by omega), ?_⟩
    obtain ⟨x, rest, digits⟩ := List.exists_cons_of_ne_nil fun empty => absurd (h.zero empty) (by omega)
    obtain ⟨n, more⟩ : ∃ n, d.point.toNat = n + 1 := ⟨d.point.toNat - 1, by omega⟩
    have nonzero : x ≠ 0 := by
      rintro rfl
      exact h.leading (by rw [digits]; rfl)
    simpa [digitsAt, digits, more, digitChar, Nat.digitChar_eq_zero] using nonzero
  · exact Or.inl rfl

theorem Sound.positional (h : d.Sound) (places : Nat) : Unsigned (d.positional places) := by
  rw [Decimal.positional]
  split
  · exact ⟨_, [], [], by simp, h.whole, Or.inl rfl, Or.inl rfl⟩
  · rename_i some
    have pos : 0 < places := Nat.pos_of_ne_zero (by simpa using some)
    refine ⟨_, _, [], by simp; rfl, h.whole, Or.inr ⟨_, rfl, ?_⟩, Or.inl rfl⟩
    split
    · exact digits_digitsAt h.below _ pos
    · obtain ⟨length, digits⟩ := digitsAt_spec h.below 0 (places - min places (-d.point).toNat)
      refine ⟨fun empty => ?_, fun c mem => ?_⟩
      · have none := congrArg List.length empty
        simp only [List.length_append, List.length_replicate, length, List.length_nil] at none
        omega
      · rcases List.mem_append.1 mem with mem | mem
        · rw [List.eq_of_mem_replicate mem]
          rfl
        · exact digits c mem

theorem digits_exponentText (width : Nat) (e : Int) :
    ∃ sign ds, exponentText width e = sign :: ds ∧ (sign = '+' ∨ sign = '-') ∧ Digits ds := by
  refine ⟨_, _, rfl, by split <;> simp, by simp, fun c mem => ?_⟩
  rcases List.mem_append.1 mem with mem | mem
  · rw [List.eq_of_mem_replicate mem]
    rfl
  · exact (Json.digits_toDigits _).2 c mem

theorem Sound.scientific (h : d.Sound) (places width : Nat) : Unsigned (d.scientific places width 'e') := by
  have lead : Whole (digitsAt d.digits 0 1) := by
    obtain ⟨length, digits⟩ := digitsAt_spec h.below 0 1
    obtain ⟨c, one⟩ := List.length_eq_one_iff.1 length
    by_cases zero : c = '0'
    · exact Or.inl (by rw [one, zero])
    · exact Or.inr ⟨digits_digitsAt h.below 0 Nat.one_pos, by simpa [one] using zero⟩
  obtain ⟨sign, ds, text, signed, digits⟩ :=
    digits_exponentText width (if d.digits.all (· == 0) then 0 else d.point - 1)
  have power : Power ('e' :: exponentText width (if d.digits.all (· == 0) then 0 else d.point - 1)) :=
    Or.inr ⟨sign, ds, by rw [text], signed, digits⟩
  rw [Decimal.scientific]
  split
  · exact ⟨_, [], _, by simp, lead, Or.inl rfl, power⟩
  · rename_i some
    have pos : 0 < places := Nat.pos_of_ne_zero (by simpa using some)
    exact ⟨_, _, _, by simp, lead, Or.inr ⟨_, rfl, digits_digitsAt h.below 1 pos⟩, power⟩

end Spelling

end BlitReel.Decimal

namespace BlitReel.NumberLayout

/-- A finite double is written as a number. -/
theorem isNumber_write (layout : NumberLayout) {x : Float} (finite : Binary64.isFinite x = true) :
    Json.IsNumber (layout.write x).toList := by
  have magnitude (m : Nat) (q : Int) : Json.Unsigned (layout.writeMagnitude m q) := by
    rw [writeMagnitude]
    split
    · exact ⟨['0'], [], [], rfl, Or.inl rfl, Or.inl rfl, Or.inl rfl⟩
    · dsimp only
      split
      · exact (Decimal.sound_shortest m q).scientific _ _
      · exact (Decimal.sound_shortest m q).positional _
  unfold Binary64.isFinite at finite
  rw [write]
  cases form : Binary64.shape x with
  | nan => simp [form] at finite
  | infinite negative => simp [form] at finite
  | finite negative m q =>
    cases negative with
    | false => exact Or.inl (by simpa using magnitude m q)
    | true => exact Or.inr ⟨_, by simp, magnitude m q⟩

end BlitReel.NumberLayout
