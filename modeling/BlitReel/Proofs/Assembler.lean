import Mathlib
import BlitReel.Assembler
import BlitReel.Proofs.Geometry

/-!
# Nothing is lost between chunks

However a stream arrives, the assembler gives out its consecutive stretches in order. `Seen` relates
an assembler to all octets it was given so far: whole frames were taken from the front and the rest is
pending. Writing extends what was seen, and draining takes all frames that are complete.
-/

namespace BlitReel

/-- The frame number `i`, counted from zero, of a stream that is cut into frames of a size. -/
def RawFrame.ofStream (size : Nat) (stream : Octets) (i : Nat) : RawFrame :=
  ⟨Int64.ofNat (i + 1), (stream.drop (i * size)).take size⟩

namespace RawFrame

theorem length_ofStream {size : Nat} {stream : Octets} {i : Nat} (h : i < stream.length / size) :
    (ofStream size stream i).pix.length = size := by
  rcases Nat.eq_zero_or_pos size with rfl | pos
  · simp at h
  · have room := (Nat.le_div_iff_mul_le pos).1 h
    rw [Nat.succ_mul] at room
    simp only [ofStream, List.length_take, List.length_drop]
    omega

/-- A complete frame does not depend on what follows it. -/
theorem ofStream_append {size : Nat} {stream : Octets} {i : Nat} (h : i < stream.length / size) (more : Octets) :
    ofStream size (stream ++ more) i = ofStream size stream i := by
  rcases Nat.eq_zero_or_pos size with rfl | pos
  · simp at h
  · have room := (Nat.le_div_iff_mul_le pos).1 h
    rw [Nat.succ_mul] at room
    simp only [ofStream, mk.injEq, true_and]
    rw [List.drop_append_of_le_length (by omega), List.take_append_of_le_length (by simp; omega)]

end RawFrame

namespace Assembler

/-- A sound geometry has an assembler for its frames. -/
theorem new_ok {g : Geometry} (sound : g.Sound) : new g.frameSize = .ok { frameSize := g.octets } := by
  have size := sound.natCast_octets
  have pos := sound.octets_pos
  have le := sound.octets_le
  rw [new, if_neg, if_neg]
  · rfl
  · rw [sound.toInt_frameSize_double, maxAllocation]
    omega
  · rw [Int64.le_iff_toInt_le, show (0 : Int64).toInt = 0 by decide]
    omega

section Pending

variable {a : Assembler}

theorem length_pending (a : Assembler) : a.pending.length = a.buffered := by
  rw [pending, List.length_drop, buffered]

theorem pending_write (a : Assembler) (chunk : Octets) : (a.write chunk).pending = a.pending ++ chunk := by
  unfold write pending
  split
  · rfl
  · rename_i whole
    rw [Nat.eq_zero_of_not_pos whole]
    rfl

/-- A frame is taken from the front of what waits, whether or not the buffer is emptied by it. -/
theorem next_of_le (within : a.consumed ≤ a.buffer.length) (complete : a.frameSize ≤ a.pending.length) :
    ∃ b, a.next = (some ⟨Int64.ofNat (a.emitted + 1), a.pending.take a.frameSize⟩, b) ∧
      b.frameSize = a.frameSize ∧ b.emitted = a.emitted + 1 ∧ b.consumed ≤ b.buffer.length ∧
      b.pending = a.pending.drop a.frameSize := by
  rw [length_pending, buffered] at complete
  rw [next, if_neg (by omega)]
  refine ⟨_, rfl, ?_⟩
  split <;> rename_i emptied
  · -- The frame reaches to the end of the buffer: nothing waits behind it.
    rw [beq_iff_eq] at emptied
    refine ⟨rfl, rfl, Nat.le_refl 0, ?_⟩
    rw [pending, pending, List.drop_drop, emptied, List.drop_length]
    rfl
  · refine ⟨rfl, rfl, ?_, ?_⟩
    · show a.consumed + a.frameSize ≤ a.buffer.length
      omega
    · rw [pending, pending, List.drop_drop]

theorem next_of_lt (short : a.pending.length < a.frameSize) : a.next = (none, a) := by
  rw [length_pending, buffered] at short
  rw [next, if_pos short]

end Pending

/-- These octets have arrived: the frames taken are their front and the rest is pending. -/
structure Seen (a : Assembler) (seen : Octets) : Prop where
  size_pos : 0 < a.frameSize
  consumed_le : a.consumed ≤ a.buffer.length
  taken_le : a.emitted * a.frameSize ≤ seen.length
  pending_eq : a.pending = seen.drop (a.emitted * a.frameSize)

namespace Seen

variable {a : Assembler} {seen : Octets}

theorem buffered_eq (h : Seen a seen) : a.buffered = seen.length - a.emitted * a.frameSize := by
  rw [← length_pending, h.pending_eq, List.length_drop]

theorem write (h : Seen a seen) (chunk : Octets) : Seen (a.write chunk) (seen ++ chunk) := by
  have taken := h.taken_le
  refine ⟨h.size_pos, Nat.zero_le _, ?_, ?_⟩
  · show a.emitted * a.frameSize ≤ (seen ++ chunk).length
    rw [List.length_append]
    omega
  · rw [pending_write, h.pending_eq]
    exact (List.drop_append_of_le_length taken).symm

/-- As long as a frame is complete, the next one is taken. -/
theorem next_complete (h : Seen a seen) (complete : a.emitted < seen.length / a.frameSize) :
    ∃ a', a.next = (some (RawFrame.ofStream a.frameSize seen a.emitted), a') ∧ Seen a' seen ∧
      a'.frameSize = a.frameSize ∧ a'.emitted = a.emitted + 1 := by
  have room := (Nat.le_div_iff_mul_le h.size_pos).1 complete
  have fits : a.frameSize ≤ a.pending.length := by
    rw [length_pending, h.buffered_eq]
    rw [Nat.succ_mul] at room
    omega
  obtain ⟨a', taken, size, emitted, within, behind⟩ := next_of_le h.consumed_le fits
  rw [h.pending_eq] at taken behind
  refine ⟨a', taken, ⟨?_, within, ?_, ?_⟩, size, emitted⟩
  · rw [size]
    exact h.size_pos
  · rw [size, emitted]
    exact room
  · rw [behind, size, emitted, List.drop_drop, Nat.succ_mul]

theorem next_short (h : Seen a seen) (short : seen.length / a.frameSize ≤ a.emitted) : a.next = (none, a) := by
  have bound := (Nat.div_le_iff_le_mul_add_pred h.size_pos).1 short
  have pos := h.size_pos
  apply next_of_lt
  rw [length_pending, h.buffered_eq]
  rw [Nat.mul_comm] at bound
  omega

theorem takeFrames_eq (h : Seen a seen) {fuel : Nat} (enough : seen.length / a.frameSize < a.emitted + fuel)
    (done : List RawFrame) :
    ∃ a', takeFrames fuel a done = (done.reverse ++ (List.range' a.emitted (seen.length / a.frameSize - a.emitted)).map
        (RawFrame.ofStream a.frameSize seen), a') ∧
      Seen a' seen ∧ a'.frameSize = a.frameSize ∧ a'.emitted = max a.emitted (seen.length / a.frameSize) := by
  induction fuel generalizing a done with
  | zero =>
    refine ⟨a, ?_, h, rfl, by omega⟩
    rw [takeFrames, show seen.length / a.frameSize - a.emitted = 0 by omega]
    simp
  | succ fuel ih =>
    rw [takeFrames]
    by_cases complete : a.emitted < seen.length / a.frameSize
    · obtain ⟨a₁, next, seen₁, size₁, emitted₁⟩ := h.next_complete complete
      obtain ⟨a₂, rest, seen₂, size₂, emitted₂⟩ := ih seen₁ (by rw [size₁, emitted₁]; omega)
        (RawFrame.ofStream a.frameSize seen a.emitted :: done)
      refine ⟨a₂, ?_, seen₂, size₂.trans size₁, ?_⟩
      · have count : seen.length / a.frameSize - a.emitted = seen.length / a.frameSize - (a.emitted + 1) + 1 := by omega
        simp only [next, rest, size₁, emitted₁]
        rw [count, List.range'_succ]
        simp
      · rw [emitted₂, size₁, emitted₁]
        omega
    · rw [h.next_short (by omega)]
      refine ⟨a, ?_, h, rfl, by omega⟩
      rw [show seen.length / a.frameSize - a.emitted = 0 by omega]
      simp

/-- Draining gives out all complete frames, in order. -/
theorem drain_eq (h : Seen a seen) :
    ∃ a', a.drain = ((List.range' a.emitted (seen.length / a.frameSize - a.emitted)).map
        (RawFrame.ofStream a.frameSize seen), a') ∧
      Seen a' seen ∧ a'.frameSize = a.frameSize ∧ a'.emitted = seen.length / a.frameSize := by
  have taken := (Nat.le_div_iff_mul_le h.size_pos).2 h.taken_le
  have enough : seen.length / a.frameSize < a.emitted + (a.buffered + 1) := by
    have split : seen.length = a.emitted * a.frameSize + a.buffered := by
      have := h.buffered_eq
      have := h.taken_le
      omega
    have := Nat.div_le_self a.buffered a.frameSize
    rw [split, Nat.mul_comm, Nat.mul_add_div h.size_pos]
    omega
  obtain ⟨a', run, seen', size, emitted⟩ := h.takeFrames_eq enough []
  exact ⟨a', by simpa [drain] using run, seen', size, by omega⟩

/-- What is left over at the end is what does not fill a frame. -/
theorem close_eq (h : Seen a seen) (drained : a.emitted = seen.length / a.frameSize) :
    (a.close.1.map (·.residual)).getD 0 = seen.length % a.frameSize := by
  have left : a.buffered = seen.length % a.frameSize := by
    have := Nat.div_add_mod' seen.length a.frameSize
    rw [h.buffered_eq, drained]
    omega
  rw [close]
  split
  · simpa using left
  · rename_i none
    simp
    omega

end Seen

theorem seen_nil {size : Nat} (pos : 0 < size) : Seen { frameSize := size } [] :=
  ⟨pos, Nat.le_refl _, by simp, by simp [pending]⟩

end Assembler

end BlitReel
