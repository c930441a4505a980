import Mathlib
import BlitReel.Frame.Sink

/-!
# Writing through a buffer

A buffer stands between the parts of a text and a sink. `write_taken` says all that taking in a part can do: keep
it, pass octets on and keep the rest, be refused while the buffer is handed over, which leaves octets
stranded in it, or be refused past the buffer. However the parts fall, the sink ends up as if it had been given
the whole text at once (`feed_delivers`). The count of octets taken in is ahead of the sink by
those that are stranded, which are none exactly if the sink ran out of room in a stretch that goes past the
buffer (`stretches`).
-/

namespace BlitReel

namespace Sink

variable {s s' : Sink} {p : Octets} {n : Nat}

theorem accept_nil (s : Sink) : s.accept [] = (s, 0, true) := by
  obtain ⟨written, room⟩ := s
  cases room <;> simp [accept]

/-- After octets that fit, a sink goes on as if it had been given them together with what follows. -/
theorem accept_append_of_fits (fits : s.accept p = (s', n, true)) (q : Octets) :
    s.accept (p ++ q) = ((s'.accept q).1, p.length + (s'.accept q).2.1, (s'.accept q).2.2) := by
  obtain ⟨written, room⟩ := s
  cases room with
  | none =>
    simp only [accept, Prod.mk.injEq] at fits
    obtain ⟨rfl, -, -⟩ := fits
    simp [accept]
  | some room =>
    simp only [accept] at fits
    split at fits
    · rename_i enough
      simp only [Prod.mk.injEq] at fits
      obtain ⟨rfl, -, -⟩ := fits
      have same : (p ++ q).length ≤ room ↔ q.length ≤ room - p.length := by
        rw [List.length_append]
        omega
      simp only [accept, same]
      split
      · simp [Nat.sub_sub]
      · have total : p.length + (room - p.length) = room := by omega
        simp [List.take_append, List.take_of_length_le enough, total]
    · simp at fits

/-- A sink that has refused octets takes nothing that follows them. -/
theorem accept_append_of_refused (refused : s.accept p = (s', n, false)) (q : Octets) :
    s.accept (p ++ q) = (s', n, false) := by
  obtain ⟨written, room⟩ := s
  cases room with
  | none => simp [accept] at refused
  | some room =>
    simp only [accept] at refused
    split at refused
    · simp at refused
    · rename_i scarce
      have longer : ¬ (p ++ q).length ≤ room := by
        rw [List.length_append]
        omega
      simp only [accept, if_neg longer, List.take_append_of_le_length (show room ≤ p.length by omega)]
      exact refused

/-- What a sink has stored is a beginning of what it was given, and all of it if it did not refuse. -/
theorem accept_stores {ok : Bool} (given : s.accept p = (s', n, ok)) :
    s'.written = s.written ++ p.take n ∧ n ≤ p.length ∧ (ok = true ↔ n = p.length) := by
  obtain ⟨written, room⟩ := s
  cases room with
  | none =>
    simp only [accept, Prod.mk.injEq] at given
    obtain ⟨rfl, rfl, rfl⟩ := given
    simp
  | some room =>
    simp only [accept] at given
    split at given
    · simp only [Prod.mk.injEq] at given
      obtain ⟨rfl, rfl, rfl⟩ := given
      simp
    · simp only [Prod.mk.injEq] at given
      obtain ⟨rfl, rfl, rfl⟩ := given
      refine ⟨rfl, by omega, ?_⟩
      simp only [Bool.false_eq_true, false_iff]
      omega

theorem length_accept (s : Sink) (p : Octets) : (s.accept p).1.written.length - s.written.length = (s.accept p).2.1 := by
  rcases given : s.accept p with ⟨s', n, ok⟩
  obtain ⟨written, low, -⟩ := accept_stores given
  simp only [written, List.length_append, List.length_take]
  omega

end Sink

namespace BufferedSink

variable {b : BufferedSink} {s sink : Sink} {out pending p : Octets}

/-- What is left of `n` octets when the buffer is empty, which held `k` octets before and was filled up. -/
def remainder (k n : Nat) : Nat := if k = 0 then n else k + n - capacity

theorem remainder_le {k : Nat} (room : k ≤ capacity) (n : Nat) : remainder k n ≤ n := by
  unfold remainder
  split <;> omega

/-- The stretches of a text that go past the buffer, each with the place where it ends. The text comes in parts
of the given lengths, after `sent` octets that were handed over and `k` that are buffered. -/
def stretches : Nat → Nat → List Nat → List (Nat × Nat)
  | _, _, [] => []
  | sent, k, n :: ns =>
    if k + n ≤ capacity then stretches sent (k + n) ns
    else if remainder k n ≤ capacity then stretches (sent + (k + n - remainder k n)) (remainder k n) ns
    else (sent + (k + n - remainder k n), sent + (k + n)) :: stretches (sent + (k + n)) 0 ns

/-- What is buffered is handed over before any stretch begins. -/
theorem le_of_mem_stretches {sent k : Nat} {ns : List Nat} {stretch : Nat × Nat} (mem : stretch ∈ stretches sent k ns) :
    sent ≤ stretch.1 ∧ (k ≠ 0 → sent + capacity ≤ stretch.1) := by
  induction ns generalizing sent k with
  | nil => cases mem
  | cons n ns ih =>
    rw [stretches] at mem
    split at mem
    · have later := ih mem
      exact ⟨later.1, fun held => later.2 (by omega)⟩
    rename_i long
    have full (held : k ≠ 0) : k + n - remainder k n = capacity := by
      rw [remainder, if_neg held]
      omega
    split at mem
    · have later := ih mem
      refine ⟨by omega, fun held => ?_⟩
      have handed := full held
      omega
    · rcases List.mem_cons.1 mem with rfl | mem
      · refine ⟨Nat.le_add_right _ _, fun held => ?_⟩
        rw [full held]
      · have later := ih mem
        refine ⟨by omega, fun held => ?_⟩
        have handed := full held
        omega

/-- Parts that fit into the buffer never go past it. -/
theorem stretches_eq_nil {sent k : Nat} {ns : List Nat} (room : k ≤ capacity) (small : ∀ n ∈ ns, n ≤ capacity) :
    stretches sent k ns = [] := by
  induction ns generalizing sent k with
  | nil => rfl
  | cons n ns ih =>
    rw [List.forall_mem_cons] at small
    rw [stretches]
    split
    · rename_i fits
      exact ih fits small.2
    · have rest := (remainder_le room n).trans small.1
      rw [if_pos rest]
      exact ih rest small.2

theorem flush_failed (failed : b.failed = true) : b.flush = b := by simp [flush, failed]

theorem flush_empty (sink : Sink) : flush ⟨sink, [], false⟩ = ⟨sink, [], false⟩ := rfl

theorem flush_accepted {sink' : Sink} (held : pending ≠ []) (accepted : sink.accept pending = (sink', pending.length, true)) :
    flush ⟨sink, pending, false⟩ = ⟨sink', [], false⟩ := by
  simp [flush, held, accepted]

theorem flush_refused {sink' : Sink} {n : Nat} (held : pending ≠ []) (refused : sink.accept pending = (sink', n, false)) :
    flush ⟨sink, pending, false⟩ = ⟨sink', pending.drop n, true⟩ := by
  simp [flush, held, refused]

theorem takeFresh_small (small : p.length ≤ capacity) : takeFresh ⟨sink, [], false⟩ p = (⟨sink, p, false⟩, p.length) := by
  rw [takeFresh, if_pos small]

theorem takeFresh_large {sink' : Sink} {n : Nat} {ok : Bool} (large : capacity < p.length)
    (given : sink.accept p = (sink', n, ok)) : takeFresh ⟨sink, [], false⟩ p = (⟨sink', [], !ok⟩, n) := by
  rw [takeFresh, if_neg (by omega), given]

theorem write_fits (behind : pending ≠ []) (fits : pending.length + p.length ≤ capacity) :
    write ⟨sink, pending, false⟩ p = (⟨sink, pending ++ p, false⟩, p.length) := by
  simp [write, behind, fits]

/-- Octets that do not fit: the buffer is filled up and handed over, and the rest is taken in if that went well. -/
theorem write_long (behind : pending ≠ []) (long : capacity < pending.length + p.length) :
    write ⟨sink, pending, false⟩ p =
      let n := capacity - pending.length
      let b := flush ⟨sink, pending ++ p.take n, false⟩
      if b.failed then (b, n) else ((b.takeFresh (p.drop n)).1, n + (b.takeFresh (p.drop n)).2) := by
  have misfit : ¬ pending.length + p.length ≤ capacity := by omega
  simp [write, behind, misfit]

/-- All that taking in octets can do to a buffer whose sink has not failed, and the count of those taken. -/
inductive Taken (b : BufferedSink) (p : Octets) : BufferedSink × Nat → Prop
  /-- The octets fit into the buffer. -/
  | kept (fits : b.pending.length + p.length ≤ capacity) : Taken b p (⟨b.sink, b.pending ++ p, false⟩, p.length)
  /-- The full buffer is handed over, and the rest fits. -/
  | relayed (sink : Sink) (out rest : Octets) (long : capacity < b.pending.length + p.length)
      (whole : b.pending ++ p = out ++ rest) (length : rest.length = remainder b.pending.length p.length)
      (small : rest.length ≤ capacity) (accepted : b.sink.accept out = (sink, out.length, true)) :
      Taken b p (⟨sink, rest, false⟩, p.length)
  /-- The full buffer is handed over, if there was anything in it, and the rest as well. -/
  | bypassed (sink : Sink) (large : capacity < remainder b.pending.length p.length)
      (accepted : b.sink.accept (b.pending ++ p) = (sink, (b.pending ++ p).length, true)) :
      Taken b p (⟨sink, [], false⟩, p.length)
  /-- The full buffer is refused. -/
  | stranded (sink : Sink) (out more : Octets) (n : Nat) (behind : b.pending ≠ [])
      (whole : b.pending ++ p = out ++ more) (full : out.length = capacity)
      (refused : b.sink.accept out = (sink, n, false)) :
      Taken b p (⟨sink, out.drop n, true⟩, capacity - b.pending.length)
  /-- What goes past the buffer is refused. -/
  | refused (sink : Sink) (n : Nat) (large : capacity < remainder b.pending.length p.length)
      (refused : b.sink.accept (b.pending ++ p) = (sink, n, false))
      (late : b.pending.length + p.length ≤ n + remainder b.pending.length p.length) :
      Taken b p (⟨sink, [], true⟩, n - b.pending.length)

theorem Taken.room {r : BufferedSink × Nat} (taken : Taken b p r) : r.1.pending.length ≤ capacity := by
  cases taken with
  | kept fits => simpa using fits
  | relayed sink out rest long whole length small accepted => exact small
  | bypassed | refused => exact Nat.zero_le _
  | stranded sink out more n behind whole full refused =>
    rw [List.length_drop, full]
    exact Nat.sub_le _ _

/-- An empty buffer has nothing to hand over first. -/
theorem takeFresh_taken (sink : Sink) (p : Octets) : Taken ⟨sink, [], false⟩ p (takeFresh ⟨sink, [], false⟩ p) := by
  rcases Nat.lt_or_ge capacity p.length with large | small
  · have remains : capacity < remainder 0 p.length := large
    rcases given : sink.accept p with ⟨sink', n, ok⟩
    rw [takeFresh_large large given]
    cases ok with
    | true =>
      obtain rfl : n = p.length := (Sink.accept_stores given).2.2.1 rfl
      exact .bypassed sink' remains given
    | false => exact .refused sink' n remains given (by simp [remainder])
  · rw [takeFresh_small small]
    exact .kept (by simpa using small)

theorem write_taken (going : b.failed = false) (room : b.pending.length ≤ capacity) (p : Octets) :
    Taken b p (b.write p) := by
  obtain ⟨sink, pending, failed⟩ := b
  obtain rfl : failed = false := going
  dsimp only at room
  by_cases behind : pending = []
  · subst behind
    exact takeFresh_taken sink p
  have held : pending.length ≠ 0 := by simpa using behind
  rcases Nat.lt_or_ge capacity (pending.length + p.length) with long | fits
  · -- The buffer is filled up with the beginning of the octets.
    have whole : pending ++ p = (pending ++ p.take (capacity - pending.length)) ++ p.drop (capacity - pending.length) := by
      rw [List.append_assoc, List.take_append_drop]
    have full : (pending ++ p.take (capacity - pending.length)).length = capacity := by
      rw [List.length_append, List.length_take]
      omega
    have filled : pending ++ p.take (capacity - pending.length) ≠ [] := by simp [behind]
    have rest : (p.drop (capacity - pending.length)).length = remainder pending.length p.length := by
      rw [remainder, if_neg held, List.length_drop]
      omega
    have count : capacity - pending.length + remainder pending.length p.length = p.length := by
      rw [remainder, if_neg held]
      omega
    rw [write_long behind long]
    dsimp only
    generalize pending ++ p.take (capacity - pending.length) = out at whole full filled ⊢
    generalize p.drop (capacity - pending.length) = more at whole rest ⊢
    rcases given : sink.accept out with ⟨sink', n, ok⟩
    cases ok with
    | false =>
      rw [flush_refused filled given, if_pos rfl]
      exact .stranded sink' out more n behind whole full given
    | true =>
      obtain rfl : n = out.length := (Sink.accept_stores given).2.2.1 rfl
      rw [flush_accepted filled given, if_neg (by simp)]
      have onward := Sink.accept_append_of_fits given more
      rw [← whole] at onward
      rcases Nat.lt_or_ge capacity more.length with large | small
      · rcases further : sink'.accept more with ⟨sink'', m, ok⟩
        rw [further] at onward
        rw [takeFresh_large large further]
        rw [rest] at large
        cases ok with
        | true =>
          obtain rfl : m = more.length := (Sink.accept_stores further).2.2.1 rfl
          rw [rest, count]
          refine .bypassed sink'' large ?_
          rw [onward, whole, List.length_append]
        | false =>
          have taken : capacity - pending.length + m = out.length + m - pending.length := by omega
          dsimp only
          rw [taken]
          refine .refused sink'' _ large onward ?_
          dsimp only
          omega
      · rw [takeFresh_small small, rest, count]
        exact .relayed sink' out more long whole rest small given
  · rw [write_fits behind fits]
    exact .kept fits

/-- One octet is taken in like a part of length one. -/
theorem put_eq_write (room : b.pending.length ≤ capacity) (octet : UInt8) : b.put octet = b.write [octet] := by
  obtain ⟨sink, pending, failed⟩ := b
  dsimp only at room
  cases failed with
  | true => rfl
  | false =>
    rcases Nat.lt_or_ge pending.length capacity with space | full
    · have taken : put ⟨sink, pending, false⟩ octet = (⟨sink, pending ++ [octet], false⟩, 1) := by
        have unfilled : ¬ capacity ≤ pending.length := by omega
        simp [put, unfilled]
      rw [taken]
      by_cases behind : pending = []
      · subst behind
        rfl
      · exact (write_fits (p := [octet]) behind space).symm
    · have behind : pending ≠ [] := by
        rintro rfl
        exact absurd full (by decide)
      have nothing : capacity - pending.length = 0 := by omega
      have long : capacity < pending.length + [octet].length := Nat.lt_succ_of_le full
      rw [write_long behind long, put, if_neg (by simp), if_pos full]
      simp only [nothing, List.take_zero, List.append_nil, List.drop_zero, Nat.zero_add]
      rcases given : sink.accept pending with ⟨sink', n, ok⟩
      cases ok with
      | false => rw [flush_refused behind given, if_pos rfl, if_pos rfl]
      | true =>
        obtain rfl : n = pending.length := (Sink.accept_stores given).2.2.1 rfl
        rw [flush_accepted behind given, if_neg (by simp), if_neg (by simp),
          takeFresh_small (show [octet].length ≤ capacity by simp [capacity])]
        rfl

/-- Take in parts one after the other until the sink fails, and count the octets taken. -/
def feed (b : BufferedSink) : List Octets → BufferedSink × Nat
  | [] => (b, 0)
  | p :: ps =>
    let (b, n) := b.write p
    if b.failed then (b, n)
    else
      let (b, m) := b.feed ps
      (b, n + m)

theorem feed_cons_going {b b' : BufferedSink} {p : Octets} {n : Nat} (taken : b.write p = (b', n)) (going : b'.failed = false)
    (ps : List Octets) : b.feed (p :: ps) = ((b'.feed ps).1, n + (b'.feed ps).2) := by
  simp [feed, taken, going]

theorem feed_cons_failed {b b' : BufferedSink} {p : Octets} {n : Nat} (taken : b.write p = (b', n)) (failed : b'.failed = true)
    (ps : List Octets) : b.feed (p :: ps) = (b', n) := by
  simp [feed, taken, failed]

/-- A text has come to the sink `s` by way of a buffer that has taken `count` octets and was handed over at the end.
The sink is as if it had been given the text at once. The count is ahead of it by the octets that are
stranded in the buffer. There are none if the sink did not run out of room or did so in a stretch past the
buffer. -/
structure Delivered (s : Sink) (text : Octets) (past : List (Nat × Nat)) (b : BufferedSink) (count : Nat) : Prop where
  sink : b.sink = (s.accept text).1
  failed : b.failed = !(s.accept text).2.2
  count_eq : count = (s.accept text).2.1 + b.pending.length
  count_le : count ≤ text.length
  pending_le : b.pending.length ≤ capacity
  pending_eq_nil_iff : b.pending = [] ↔ (s.accept text).2.2 = true ∨
    ∃ stretch ∈ past, stretch.1 ≤ (s.accept text).2.1 ∧ (s.accept text).2.1 < stretch.2

namespace Delivered

variable {text begun more : Octets} {past : List (Nat × Nat)} {n : Nat}

theorem whole (accepted : s.accept text = (sink, text.length, true)) :
    Delivered s text past ⟨sink, [], false⟩ text.length := by
  constructor <;> simp [accepted]

/-- The sink has run out of room at place `n`. -/
theorem cut (refused : s.accept begun = (sink, n, false)) (split : text = begun ++ more)
    (taken : n + pending.length ≤ begun.length) (room : pending.length ≤ capacity)
    (stranded : pending = [] ↔ ∃ stretch ∈ past, stretch.1 ≤ n ∧ n < stretch.2) :
    Delivered s text past ⟨sink, pending, true⟩ (n + pending.length) := by
  subst split
  have onward := Sink.accept_append_of_refused refused more
  constructor
  · rw [onward]
  · rw [onward]
    rfl
  · rw [onward]
  · rw [List.length_append]
    omega
  · exact room
  · rw [onward]
    simpa using stranded

/-- A stretch that was passed on as a whole does not count. -/
theorem cons {b : BufferedSink} {count : Nat} {stretch : Nat × Nat} (h : Delivered s text past b count)
    (passed : stretch.2 ≤ (s.accept text).2.1) : Delivered s text (stretch :: past) b count := by
  refine ⟨h.sink, h.failed, h.count_eq, h.count_le, h.pending_le, ?_⟩
  have outside : ¬ (stretch.1 ≤ (s.accept text).2.1 ∧ (s.accept text).2.1 < stretch.2) := by omega
  rw [h.pending_eq_nil_iff]
  simp only [List.mem_cons, exists_eq_or_imp, outside, false_or]

end Delivered

/-- The same text, divided where octets were handed over. -/
theorem regroup {a rest : Octets} (whole : pending ++ p = a ++ rest) (out : Octets) (ps : List Octets) :
    out ++ (pending ++ (p :: ps).flatten) = (out ++ a) ++ (rest ++ ps.flatten) := by
  rw [List.flatten_cons, ← List.append_assoc pending, whole]
  simp only [List.append_assoc]

/-- What is buffered at the end is handed over. -/
theorem flush_delivers (accepted : s.accept out = (sink, out.length, true)) (room : pending.length ≤ capacity) :
    Delivered s (out ++ pending) [] (flush ⟨sink, pending, false⟩) (out.length + pending.length) := by
  have onward := Sink.accept_append_of_fits accepted pending
  by_cases behind : pending = []
  · subst behind
    rw [flush_empty, List.append_nil]
    exact .whole accepted
  rcases given : sink.accept pending with ⟨sink', n, ok⟩
  obtain ⟨-, low, whole⟩ := Sink.accept_stores given
  rw [given] at onward
  cases ok with
  | true =>
    obtain rfl := whole.1 rfl
    rw [flush_accepted behind given, ← List.length_append]
    exact .whole (by rw [onward, List.length_append])
  | false =>
    have short : n ≠ pending.length := by simpa using whole
    have count : out.length + pending.length = out.length + n + (pending.drop n).length := by
      rw [List.length_drop]
      omega
    rw [flush_refused behind given, count]
    refine .cut onward (List.append_nil _).symm ?_ ?_ ?_
    · rw [List.length_append, count]
    · rw [List.length_drop]
      omega
    · simp only [List.drop_eq_nil_iff, List.not_mem_nil, false_and, exists_false, iff_false]
      omega

variable {sink' : Sink} {n : Nat}

/-- The full buffer is refused: octets are left in it, and no stretch past it begins as early. -/
theorem stranded_delivers {full more : Octets} (accepted : s.accept out = (sink, out.length, true)) (behind : pending ≠ [])
    (room : pending.length ≤ capacity) (whole : pending ++ p = full ++ more) (length : full.length = capacity)
    (refused : sink.accept full = (sink', n, false)) (ps : List Octets) :
    Delivered s (out ++ (pending ++ (p :: ps).flatten)) (stretches out.length pending.length ((p :: ps).map List.length))
      ⟨sink', full.drop n, true⟩ (out.length + (pending.length + (capacity - pending.length))) := by
  have onward := Sink.accept_append_of_fits accepted full
  rw [refused] at onward
  obtain ⟨-, low, all⟩ := Sink.accept_stores refused
  have short : n ≠ full.length := by simpa using all
  have count : out.length + (pending.length + (capacity - pending.length)) = out.length + n + (full.drop n).length := by
    rw [List.length_drop]
    omega
  rw [regroup whole, count]
  refine .cut onward rfl ?_ ?_ (iff_of_false ?_ ?_)
  · rw [List.length_append, List.length_drop]
    omega
  · rw [List.length_drop]
    omega
  · rw [List.drop_eq_nil_iff]
    omega
  · rintro ⟨stretch, mem, start, -⟩
    have later := (le_of_mem_stretches mem).2 (by simpa using behind)
    omega

/-- What goes past the buffer is refused: nothing is left in the buffer. -/
theorem refused_delivers (accepted : s.accept out = (sink, out.length, true)) (room : pending.length ≤ capacity)
    (large : capacity < remainder pending.length p.length) (refused : sink.accept (pending ++ p) = (sink', n, false))
    (late : pending.length + p.length ≤ n + remainder pending.length p.length) (ps : List Octets) :
    Delivered s (out ++ (pending ++ (p :: ps).flatten)) (stretches out.length pending.length ((p :: ps).map List.length))
      ⟨sink', [], true⟩ (out.length + (pending.length + (n - pending.length))) := by
  have onward := Sink.accept_append_of_fits accepted (pending ++ p)
  rw [refused] at onward
  obtain ⟨-, low, all⟩ := Sink.accept_stores refused
  have short : n ≠ (pending ++ p).length := by simpa using all
  rw [List.length_append] at low short
  have few := remainder_le room p.length
  have count : out.length + (pending.length + (n - pending.length)) = out.length + n + ([] : Octets).length := by
    rw [List.length_nil]
    omega
  rw [regroup (List.append_nil _).symm, count, List.map_cons, stretches, if_neg (by omega), if_neg (by omega)]
  refine .cut onward rfl ?_ (Nat.zero_le _) (iff_of_true rfl ⟨_, List.mem_cons_self, ?_⟩)
  · rw [List.length_append, List.length_append, List.length_nil]
    omega
  · dsimp only
    omega

/-- Parts that are taken in one after the other are delivered, whatever was handed over and buffered before. -/
theorem feed_delivers (accepted : s.accept out = (sink, out.length, true)) (room : pending.length ≤ capacity)
    (ps : List Octets) :
    Delivered s (out ++ (pending ++ ps.flatten)) (stretches out.length pending.length (ps.map List.length))
      (feed ⟨sink, pending, false⟩ ps).1.flush (out.length + (pending.length + (feed ⟨sink, pending, false⟩ ps).2)) := by
  induction ps generalizing sink out pending with
  | nil =>
    rw [List.flatten_nil, List.append_nil]
    exact flush_delivers accepted room
  | cons p ps ih =>
    have taken := write_taken (b := ⟨sink, pending, false⟩) rfl room p
    generalize step : write ⟨sink, pending, false⟩ p = r at taken
    cases taken with
    | kept fits =>
      have joined : (pending ++ p).length ≤ capacity := by simpa using fits
      have later := ih accepted joined
      rw [feed_cons_going step rfl, List.map_cons, stretches, if_pos fits]
      simpa [Nat.add_assoc] using later
    | relayed sink' out' rest long whole length small passed =>
      dsimp only at long whole length passed
      have onward := Sink.accept_append_of_fits accepted out'
      rw [passed, ← List.length_append] at onward
      have later := ih onward small
      have sizes := congrArg List.length whole
      simp only [List.length_append] at sizes later
      have handed : pending.length + p.length - rest.length = out'.length := by omega
      have count (m : Nat) : out.length + (pending.length + (p.length + m)) = out.length + out'.length + (rest.length + m) := by
        omega
      rw [feed_cons_going step rfl, List.map_cons, stretches, if_neg (by omega), ← length, if_pos small, handed,
        regroup whole, count]
      exact later
    | bypassed sink' large passed =>
      dsimp only at large passed
      have onward := Sink.accept_append_of_fits accepted (pending ++ p)
      rw [passed, ← List.length_append] at onward
      have later := ih onward (show ([] : Octets).length ≤ capacity from Nat.zero_le _)
      have further := Sink.accept_append_of_fits onward ([] ++ ps.flatten)
      have few := remainder_le room p.length
      have count (m : Nat) : out.length + (pending.length + (p.length + m)) =
          (out ++ (pending ++ p)).length + (([] : Octets).length + m) := by
        simp only [List.length_append, List.length_nil]
        omega
      rw [feed_cons_going step rfl, List.map_cons, stretches, if_neg (by omega), if_neg (by omega),
        regroup (List.append_nil _).symm, count]
      simp only [List.length_append] at later further ⊢
      -- The sink has got beyond the stretch.
      refine later.cons ?_
      rw [further]
      exact Nat.le_add_right _ _
    | stranded sink' full more n behind whole length refused =>
      rw [feed_cons_failed step rfl, flush_failed rfl]
      exact stranded_delivers accepted behind room whole length refused ps
    | refused sink' n large refused late =>
      rw [feed_cons_failed step rfl, flush_failed rfl]
      exact refused_delivers accepted room large refused late ps

end BufferedSink

end BlitReel
