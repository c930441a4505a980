import Mathlib
import BlitReel.Input.Report
import BlitReel.Proofs.Number.Whole

/-!
# The length in a report

A report gives a length when a clock stands behind its label at the front of a line. The search for the clock is
followed from the front of the report: before the first label nothing is found, since a label that starts in one line
also ends there (`indented?_before`, `clock?_labelled`). The four numbers of the clock are then read from a line in
which spaces divide them, where a missing number is only seen when the numbers run out (`scanNumbers?_intercalate`).
-/

namespace BlitReel

namespace Report

namespace Clock

open Numeral (value)

/-- The clock as a report shows it. -/
def text (c : Clock) : Octets :=
  c.hours ++ 0x3A :: (c.minutes ++ 0x3A :: (c.seconds ++ 0x2E :: (c.fraction ++ [0x2C])))

/-- All that stands between the marks of a clock is digits. -/
structure Digital (c : Clock) : Prop where
  hours : ∀ b ∈ c.hours, Octets.isDigit b = true
  minutes : ∀ b ∈ c.minutes, Octets.isDigit b = true
  seconds : ∀ b ∈ c.seconds, Octets.isDigit b = true
  fraction : ∀ b ∈ c.fraction, Octets.isDigit b = true

instance (c : Clock) : Decidable c.Digital :=
  decidable_of_iff ((∀ b ∈ c.hours, Octets.isDigit b = true) ∧ (∀ b ∈ c.minutes, Octets.isDigit b = true) ∧
      (∀ b ∈ c.seconds, Octets.isDigit b = true) ∧ ∀ b ∈ c.fraction, Octets.isDigit b = true)
    ⟨fun ⟨h, m, s, f⟩ => ⟨h, m, s, f⟩, fun ⟨h, m, s, f⟩ => ⟨h, m, s, f⟩⟩

/-- The nanoseconds that a clock shows; of the fraction three digits count. -/
def nanoseconds (c : Clock) : Nat :=
  (3600 * value c.hours + 60 * value c.minutes + value c.seconds) * 10 ^ 9 +
    value (c.fraction.take 3) * 10 ^ (3 - c.fraction.length) * 10 ^ 6

section Digits

variable {ds : Octets} (digits : ∀ b ∈ ds, Octets.isDigit b = true)

include digits

theorem span_digits {rest : Octets} (ends : ∀ b ∈ rest.head?, Octets.isDigit b = false) :
    (ds ++ rest).span Octets.isDigit = (ds, rest) := by
  rw [List.span_eq_takeWhile_dropWhile, List.takeWhile_append_of_pos digits, List.dropWhile_append_of_pos digits]
  cases rest with
  | nil => simp
  | cons b rest => simp [ends b rfl]

theorem digitsTo?_digits {mark : UInt8} (ends : Octets.isDigit mark = false) (rest : Octets) :
    digitsTo? mark (ds ++ mark :: rest) = some (ds, rest) := by
  rw [digitsTo?, span_digits digits (by simp [ends])]
  simp

end Digits

theorem read?_text {c : Clock} (digital : c.Digital) (post : Octets) : read? (c.text ++ post) = some c := by
  simp only [read?, text, List.append_assoc, List.cons_append, List.nil_append, bind, Option.bind,
    digitsTo?_digits digital.hours (show Octets.isDigit 0x3A = false from rfl),
    digitsTo?_digits digital.minutes (show Octets.isDigit 0x3A = false from rfl),
    digitsTo?_digits digital.seconds (show Octets.isDigit 0x2E = false from rfl),
    digitsTo?_digits digital.fraction (show Octets.isDigit 0x2C = false from rfl)]
  rfl

/-! The numbers of a line. -/

theorem scanNumber?_space (s : Octets) : scanNumber? (space :: s) = scanNumber? s := rfl

theorem scanNumbers?_space (n : Nat) (s : Octets) : scanNumbers? n (space :: s) = scanNumbers? n s := by
  cases n with
  | zero => rfl
  | succ n => rw [scanNumbers?, scanNumber?_space, scanNumbers?]

theorem scanNumber?_digits {ds rest : Octets} (digits : ∀ b ∈ ds, Octets.isDigit b = true) (ne : ds ≠ [])
    (ends : ∀ b ∈ rest.head?, Octets.isDigit b = false) :
    scanNumber? (ds ++ rest) = (Numeral.readInt ds).toOption.map (·, rest) := by
  have visible : (ds ++ rest).dropWhile (· == space) = ds ++ rest := by
    cases ds with
    | nil => exact absurd rfl ne
    | cons d ds =>
      rw [List.cons_append, List.dropWhile_cons_of_neg]
      intro blank
      rw [beq_iff_eq] at blank
      have digit := digits d (by simp)
      rw [blank] at digit
      cases digit
  rw [scanNumber?, visible, span_digits digits ends]

/-- The numbers that words spell, as far as there are so many. -/
def readWords? : Nat → List Octets → Option (List Int64)
  | 0, _ => some []
  | _ + 1, [] => none
  | n + 1, w :: ws => do
    let x ← (Numeral.readInt w).toOption
    let xs ← readWords? n ws
    return x :: xs

theorem readWords?_of_length_lt {n : Nat} {ws : List Octets} (few : ws.length < n) : readWords? n ws = none := by
  induction n generalizing ws with
  | zero => exact absurd few (Nat.not_lt_zero _)
  | succ n ih =>
    cases ws with
    | nil => rfl
    | cons w ws =>
      rw [readWords?, ih (by simpa using few)]
      cases (Numeral.readInt w).toOption <;> rfl

theorem scanNumbers?_nil (n : Nat) : scanNumbers? n [] = readWords? n [] := by
  cases n <;> rfl

/-- A word at the front is read first, unless it is empty. -/
theorem scanNumbers?_word {w rest : Octets} {words : List Octets} (digits : ∀ b ∈ w, Octets.isDigit b = true)
    (ends : ∀ b ∈ rest.head?, Octets.isDigit b = false) (others : ∀ n, scanNumbers? n rest = readWords? n words)
    (n : Nat) : scanNumbers? n (w ++ rest) = readWords? n (if w = [] then words else w :: words) := by
  split
  · rename_i empty
    rw [empty, List.nil_append, others]
  rename_i ne
  cases n with
  | zero => rfl
  | succ n =>
    rw [scanNumbers?, scanNumber?_digits digits ne ends, readWords?, ← others]
    cases Numeral.readInt w <;> rfl

/-- From a line of words between spaces, the words that are not empty are read. -/
theorem scanNumbers?_intercalate {ws : List Octets} (digits : ∀ w ∈ ws, ∀ b ∈ w, Octets.isDigit b = true) (n : Nat) :
    scanNumbers? n ([space].intercalate ws) = readWords? n (ws.filter fun w => !w.isEmpty) := by
  induction ws generalizing n with
  | nil => exact scanNumbers?_nil n
  | cons w ws ih =>
    have others := ih fun w' mem => digits w' (List.mem_cons_of_mem _ mem)
    have own := digits w List.mem_cons_self
    have chosen : (w :: ws).filter (fun w => !w.isEmpty) =
        if w = [] then ws.filter (fun w => !w.isEmpty) else w :: ws.filter fun w => !w.isEmpty := by
      cases w <;> rfl
    rw [chosen]
    cases ws with
    | nil =>
      rw [List.intercalate_singleton, ← List.append_nil w]
      simpa using scanNumbers?_word own (by simp) scanNumbers?_nil n
    | cons w' ws =>
      rw [List.intercalate_cons_cons, List.append_assoc]
      refine scanNumbers?_word own (by simp [space, Octets.isDigit]) (fun n => ?_) n
      rw [List.singleton_append, scanNumbers?_space, others]

/-! The nanoseconds of a clock. -/

theorem value_zeros (n : Nat) : value (List.replicate n 0x30) = 0 := by
  induction n with
  | zero => rfl
  | succ n ih => simp [List.replicate_succ, Numeral.value_cons, ih]

theorem value_append (ds es : Octets) : value (ds ++ es) = value ds * 10 ^ es.length + value es := by
  induction ds with
  | nil => simp [value]
  | cons d ds ih =>
    rw [List.cons_append, Numeral.value_cons, Numeral.value_cons, ih, List.length_append, pow_add]
    ring

theorem thousandths_eq (f : Octets) : thousandths f = f.take 3 ++ List.replicate (3 - f.length) 0x30 := by
  rw [thousandths, List.take_append]
  have zeros : ([0x30, 0x30, 0x30] : Octets) = List.replicate 3 0x30 := rfl
  rw [zeros, List.take_replicate, Nat.min_eq_left (by omega)]

theorem value_thousandths (f : Octets) : value (thousandths f) = value (f.take 3) * 10 ^ (3 - f.length) := by
  rw [thousandths_eq, value_append, value_zeros, List.length_replicate, Nat.add_zero]

/-- The same by the numbers of the line. -/
theorem nanoseconds_eq (c : Clock) : c.nanoseconds = value c.hours * 3600000000000 + value c.minutes * 60000000000 +
    value c.seconds * 1000000000 + value (thousandths c.fraction) * 1000000 := by
  rw [nanoseconds, value_thousandths]
  ring

theorem thousandths_ne_nil (f : Octets) : thousandths f ≠ [] := by
  rw [← List.length_pos_iff, thousandths, List.length_take, List.length_append]
  simp

section Length

variable {c : Clock} (digital : c.Digital)

include digital

theorem isDigit_of_mem_thousandths : ∀ b ∈ thousandths c.fraction, Octets.isDigit b = true := by
  rw [thousandths_eq]
  intro b mem
  rcases List.mem_append.1 mem with inFraction | zero
  · exact digital.fraction b (List.mem_of_mem_take inFraction)
  · rw [(List.mem_replicate.1 zero).2]
    rfl

theorem scanNumbers?_line (n : Nat) : scanNumbers? n c.line = readWords? n
    ([c.hours, c.minutes, c.seconds, thousandths c.fraction].filter fun w => !w.isEmpty) := by
  refine scanNumbers?_intercalate ?_ n
  intro w mem
  simp only [List.mem_cons, List.not_mem_nil, or_false] at mem
  rcases mem with rfl | rfl | rfl | rfl
  · exact digital.hours
  · exact digital.minutes
  · exact digital.seconds
  · exact isDigit_of_mem_thousandths digital

/-- A clock with a number missing has no length: the numbers that follow are taken for it, and run out. -/
theorem length?_missing (missing : c.hours = [] ∨ c.minutes = [] ∨ c.seconds = []) : c.length? = none := by
  have few : ([c.hours, c.minutes, c.seconds, thousandths c.fraction].filter fun w => !w.isEmpty).length < 4 := by
    refine List.length_filter_lt_length_iff_exists.2 ⟨[], ?_, by simp⟩
    rcases missing with empty | empty | empty <;> simp [empty]
  rw [length?, scanNumbers?_line digital, readWords?_of_length_lt few]

/-- A clock with all its numbers has the length that it shows, as far as a word can hold it. -/
theorem length?_present (hours : c.hours ≠ []) (minutes : c.minutes ≠ []) (seconds : c.seconds ≠ [])
    (small : c.nanoseconds < 2 ^ 63) : c.length? = some (Int64.ofNat c.nanoseconds) := by
  have shown := small
  rw [nanoseconds_eq] at shown
  have readHours := (Numeral.readInt_digits digital.hours).2 ⟨hours, by omega, rfl⟩
  have readMinutes := (Numeral.readInt_digits digital.minutes).2 ⟨minutes, by omega, rfl⟩
  have readSeconds := (Numeral.readInt_digits digital.seconds).2 ⟨seconds, by omega, rfl⟩
  have readFraction := (Numeral.readInt_digits (isDigit_of_mem_thousandths digital)).2
    ⟨thousandths_ne_nil c.fraction, by omega, rfl⟩
  have kept : ([c.hours, c.minutes, c.seconds, thousandths c.fraction].filter fun w => !w.isEmpty) =
      [c.hours, c.minutes, c.seconds, thousandths c.fraction] := by
    simp [hours, minutes, seconds, thousandths_ne_nil]
  have words : readWords? 4 [c.hours, c.minutes, c.seconds, thousandths c.fraction] =
      some [.ofNat (value c.hours), .ofNat (value c.minutes), .ofNat (value c.seconds),
        .ofNat (value (thousandths c.fraction))] := by
    simp only [readWords?, readHours, readMinutes, readSeconds, readFraction, Except.toOption, bind, Option.bind]
    rfl
  rw [length?, scanNumbers?_line digital, kept, words, nanoseconds_eq]
  simp only [Int64.ofNat_add, Int64.ofNat_mul]
  rfl

end Length

end Clock

/-! The search for the clock. -/

theorem dropWhile_blanks {ws : Octets} (blanks : ∀ b ∈ ws, isBlank b = true) (rest : Octets) :
    (ws ++ (clockLabel ++ rest)).dropWhile isBlank = clockLabel ++ rest := by
  have starts : clockLabel = 0x44 :: clockLabel.tail := by decide +kernel
  rw [List.dropWhile_append_of_pos blanks, starts, List.cons_append, List.dropWhile_cons_of_neg (by decide)]

theorem indented?_of_dropWhile {s rest : Octets} (blank : (s.head?.map isBlank).getD false = true)
    (label : s.dropWhile isBlank = clockLabel ++ rest) : indented? s = Clock.read? rest := by
  have starts : clockLabel.isPrefixOf (clockLabel ++ rest) = true :=
    List.isPrefixOf_iff_prefix.2 (List.prefix_append _ _)
  rw [indented?, if_pos blank, label]
  dsimp only
  rw [if_pos starts, List.drop_left]

theorem clock?_cons {b : UInt8} {s : Octets} {c : Clock}
    (here : indented? (b :: s) = none ∨ indented? (b :: s) = some c) (later : clock? (b == lineEnd) s = some c)
    (fresh : Bool) : clock? fresh (b :: s) = some c := by
  rw [clock?]
  cases fresh with
  | false => simpa using later
  | true => rcases here with none | found <;> simp [*]

section Search

variable {pre ws : Octets} (unlabelled : ¬ clockLabel <:+: pre) (blanks : ∀ b ∈ ws, isBlank b = true) (rest : Octets)

include unlabelled

/-- A label that starts before the end of a line is not completed behind it. -/
theorem not_prefix_of_lineEnd : ¬ clockLabel <+: pre ++ lineEnd :: rest := by
  intro starts
  rcases List.prefix_or_prefix_of_prefix starts (List.prefix_append pre _) with within | beyond
  · exact unlabelled within.isInfix
  obtain ⟨tail, same⟩ := beyond
  rw [← same, List.prefix_append_right_inj] at starts
  cases tail with
  | nil => exact unlabelled (by rw [← same, List.append_nil])
  | cons b tail =>
    have ended : b = lineEnd := (List.cons_prefix_cons.1 starts).1
    have inLabel : lineEnd ∈ clockLabel := by simp [← same, ended]
    exact absurd inLabel (by decide +kernel)

include blanks

/-- From before the label, at most the clock behind it is found. -/
theorem indented?_before :
    indented? (pre ++ lineEnd :: (ws ++ (clockLabel ++ rest))) = none ∨
      indented? (pre ++ lineEnd :: (ws ++ (clockLabel ++ rest))) = Clock.read? rest := by
  generalize whole : pre ++ lineEnd :: (ws ++ (clockLabel ++ rest)) = s
  by_cases blank : (s.head?.map isBlank).getD false = true
  swap
  · left
    rw [indented?, if_neg blank]
  by_cases empty : (pre.dropWhile isBlank).isEmpty = true
  · -- blanks only, so that the label comes next
    right
    refine indented?_of_dropWhile blank ?_
    rw [← whole, List.dropWhile_append, if_pos empty, List.dropWhile_cons_of_pos (by decide), dropWhile_blanks blanks]
  · -- something else comes next, and the line ends before a label does
    left
    have others : ¬ clockLabel <:+: pre.dropWhile isBlank :=
      fun inside => unlabelled (inside.trans (List.dropWhile_suffix _).isInfix)
    have differs := not_prefix_of_lineEnd others (ws ++ (clockLabel ++ rest))
    rw [indented?, if_pos blank, ← whole, List.dropWhile_append, if_neg empty]
    dsimp only
    rw [if_neg (by rwa [List.isPrefixOf_iff_prefix])]

/-- The clock behind the first label is found, if the label is the first in its line and is indented. -/
theorem clock?_labelled (ne : ws ≠ []) {c : Clock} (read : Clock.read? rest = some c) (fresh : Bool) :
    clock? fresh (pre ++ lineEnd :: (ws ++ (clockLabel ++ rest))) = some c := by
  have before {pre : Octets} (unlabelled : ¬ clockLabel <:+: pre) := read ▸ indented?_before unlabelled blanks rest
  induction pre generalizing fresh with
  | nil =>
    refine clock?_cons (before unlabelled) ?_ fresh
    cases ws with
    | nil => exact absurd rfl ne
    | cons w ws =>
      have indented : indented? (w :: ws ++ (clockLabel ++ rest)) = some c := by
        rw [← read]
        exact indented?_of_dropWhile (by simpa using blanks w List.mem_cons_self) (dropWhile_blanks blanks rest)
      rw [List.cons_append] at indented ⊢
      rw [clock?]
      simp [indented]
  | cons b pre ih =>
    have unlabelled' : ¬ clockLabel <:+: pre := fun inside => unlabelled (inside.trans (List.suffix_cons b pre).isInfix)
    exact clock?_cons (before unlabelled) (ih unlabelled' _) fresh

end Search

/-- The first labelled clock of a report gives its length: nothing when a number is missing, and otherwise the
nanoseconds that it shows, as far as a word can hold them. -/
theorem metadata_duration {pre ws : Octets} {c : Clock} (unlabelled : ¬ clockLabel <:+: pre) (ne : ws ≠ [])
    (blanks : ∀ b ∈ ws, isBlank b = true) (digital : c.Digital) (title post : Octets) :
    let found := metadata title (pre ++ lineEnd :: (ws ++ (clockLabel ++ (c.text ++ post))))
    (c.hours ≠ [] → c.minutes ≠ [] → c.seconds ≠ [] → c.nanoseconds < 2 ^ 63 →
        found.duration.toInt = c.nanoseconds) ∧
      (c.hours = [] ∨ c.minutes = [] ∨ c.seconds = [] → found.duration = 0) := by
  have found : (metadata title (pre ++ lineEnd :: (ws ++ (clockLabel ++ (c.text ++ post))))).duration =
      c.length?.getD 0 := by
    rw [metadata, length, clock?_labelled unlabelled blanks _ ne (Clock.read?_text digital post)]
    rfl
  constructor
  · intro hours minutes seconds small
    rw [found, Clock.length?_present digital hours minutes seconds small]
    exact Numeral.toInt_ofNat_eq_iff.2 small
  · intro missing
    rw [found, Clock.length?_missing digital missing]
    rfl

/-- Half a label before, blank lines between and another clock behind change nothing; without the minutes there is no
length. -/
theorem metadata_duration_surrounded :
    let report (c : Clock) := Octets.ofString "Input\n Duration:\n" ++
      lineEnd :: (Octets.ofString " \n\t" ++ (clockLabel ++ (c.text ++ Octets.ofString "\n Duration: 9:9:9.9,")))
    (metadata []
          (report ⟨Octets.ofString "100", Octets.ofString "03", Octets.ofString "32", Octets.ofString "5"⟩)).duration.toInt =
        360212500000000 ∧
      (metadata [] (report ⟨Octets.ofString "100", [], Octets.ofString "32", Octets.ofString "52999"⟩)).duration = 0 := by
  have unlabelled : ¬ clockLabel <:+: Octets.ofString "Input\n Duration:\n" := by decide +kernel
  have blanks : ∀ b ∈ Octets.ofString " \n\t", isBlank b = true := by decide +kernel
  constructor
  · exact (metadata_duration unlabelled (by decide +kernel) blanks (by decide +kernel) [] _).1
      (by decide +kernel) (by decide +kernel) (by decide +kernel) (by decide +kernel)
  · exact (metadata_duration unlabelled (by decide +kernel) blanks (by decide +kernel) [] _).2 (by decide +kernel)

end Report

end BlitReel
