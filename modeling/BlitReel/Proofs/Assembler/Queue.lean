import Mathlib
import BlitReel.Proofs.Assembler

/-!
# The assembler is a queue

An assembler keeps octets that it has given out in front of its buffer and drops them when it is convenient.
None of this shows: asked in whatever order to write, to give a frame and to close, it answers like a
plain queue of octets from whose front frames are cut (`Queue`). `Holds` ties an assembler to the queue
it stands for; every call keeps it and is answered alike (`Holds.call`), so whole conversations are. What the queue
conserves, the assembler conserves: until it is closed, the frames given out and the octets that wait are
the chunks written, in order.
-/

namespace BlitReel

namespace Assembler

/-- The answers to calls, one after the other, and the state after them. -/
def converse {σ : Type} (call : σ → Call → Answer × σ) (s : σ) : List Call → List Answer × σ
  | [] => ([], s)
  | c :: calls =>
    let (answer, s) := call s c
    let (answers, s) := converse call s calls
    (answer :: answers, s)

/-- The frame that an answer gives. -/
def Answer.raw? : Answer → Option RawFrame
  | .frame raw? => raw?
  | _ => none

/-- The frames that answers give. -/
def framesOf (answers : List Answer) : List RawFrame := answers.filterMap Answer.raw?

/-- The octets that a call writes. -/
def Call.chunk : Call → Octets
  | .write chunk => chunk
  | _ => []

/-- The octets that calls write. -/
def chunksOf (calls : List Call) : Octets := calls.flatMap Call.chunk

/-- A queue of octets, with the index of the frame that was cut from it last. -/
structure Queue where
  octets : Octets := []
  last : Int64 := 0
  deriving DecidableEq

/-- What is asked of an assembler for frames of a size, done by a queue. -/
def Queue.call (size : Nat) (q : Queue) : Call → Answer × Queue
  | .write chunk => (.accepted chunk.length, { q with octets := q.octets ++ chunk })
  | .next =>
    if q.octets.length < size then (.frame none, q)
    else (.frame (some ⟨q.last + 1, q.octets.take size⟩), ⟨q.octets.drop size, q.last + 1⟩)
  | .close =>
    (.closed (if q.octets = [] then none else some ⟨q.octets.length, size⟩), { q with octets := [] })

variable {size : Nat} {a : Assembler} {q : Queue}

/-- The assembler stands for the queue: what waits in its buffer is what the queue holds. -/
structure Holds (size : Nat) (a : Assembler) (q : Queue) : Prop where
  frameSize : a.frameSize = size
  consumed_le : a.consumed ≤ a.buffer.length
  pending : a.pending = q.octets
  emitted : Int64.ofNat a.emitted = q.last

namespace Holds

theorem write (h : Holds size a q) (chunk : Octets) :
    Holds size (a.write chunk) { q with octets := q.octets ++ chunk } := by
  refine ⟨h.frameSize, Nat.zero_le _, ?_, h.emitted⟩
  rw [pending_write, h.pending]

theorem next (h : Holds size a q) :
    a.next.1 = (if q.octets.length < size then none else some ⟨q.last + 1, q.octets.take size⟩) ∧
      Holds size a.next.2 (if q.octets.length < size then q else ⟨q.octets.drop size, q.last + 1⟩) := by
  have waits : a.pending.length = q.octets.length := by rw [h.pending]
  split <;> rename_i short
  · rw [next_of_lt (by rw [waits, h.frameSize]; exact short)]
    exact ⟨rfl, h⟩
  · have numbered : Int64.ofNat (a.emitted + 1) = q.last + 1 := by
      rw [Int64.ofNat_add, h.emitted]
      rfl
    obtain ⟨b, taken, size', emitted, within, behind⟩ :=
      next_of_le h.consumed_le (by rw [waits, h.frameSize]; omega)
    rw [h.pending, h.frameSize] at taken behind
    rw [taken, numbered]
    refine ⟨rfl, size'.trans h.frameSize, within, behind, ?_⟩
    rw [emitted, numbered]

theorem close (h : Holds size a q) :
    a.close.1 = (if q.octets = [] then none else some ⟨q.octets.length, size⟩) ∧
      Holds size a.close.2 { q with octets := [] } := by
  have waits : a.buffered = q.octets.length := by rw [← length_pending, h.pending]
  refine ⟨?_, h.frameSize, Nat.le_refl 0, rfl, h.emitted⟩
  show (if a.buffered > 0 then some _ else none) = _
  rw [waits, h.frameSize]
  cases q.octets with
  | nil => rfl
  | cons b rest => rfl

/-- Every call is answered as the queue answers it, and leaves the assembler standing for the queue. -/
theorem call (h : Holds size a q) (c : Call) :
    (a.call c).1 = (q.call size c).1 ∧ Holds size (a.call c).2 (q.call size c).2 := by
  cases c with
  | write chunk => exact ⟨rfl, h.write chunk⟩
  | next =>
    obtain ⟨answer, rest⟩ := h.next
    simp only [Assembler.call, Queue.call, answer]
    split at rest <;> rename_i short
    · simp only [if_pos short]
      exact ⟨trivial, rest⟩
    · simp only [if_neg short]
      exact ⟨trivial, rest⟩
  | close =>
    obtain ⟨answer, rest⟩ := h.close
    exact ⟨congrArg Answer.closed answer, rest⟩

theorem converse (h : Holds size a q) (calls : List Call) :
    (converse Assembler.call a calls).1 = (converse (Queue.call size) q calls).1 ∧
      Holds size (converse Assembler.call a calls).2 (converse (Queue.call size) q calls).2 := by
  induction calls generalizing a q with
  | nil => exact ⟨rfl, h⟩
  | cons c calls ih =>
    obtain ⟨answer, rest⟩ := h.call c
    obtain ⟨answers, final⟩ := ih rest
    simp only [Assembler.converse]
    exact ⟨by rw [answer, answers], final⟩

end Holds

/-- A new assembler stands for the empty queue. -/
theorem holds_new {frameSize : Int64} (made : new frameSize = .ok a) : Holds frameSize.toInt.toNat a {} := by
  unfold new at made
  split at made
  · cases made
  split at made
  · cases made
  · cases made
    exact ⟨rfl, Nat.le_refl 0, rfl, rfl⟩

/-- A call other than closing moves octets from the queue to the frames given out, and from its chunk to the queue. -/
theorem Queue.call_conserves (size : Nat) (q : Queue) {c : Call} (going : c ≠ .close) :
    ((q.call size c).1.raw?.map (·.pix)).getD [] ++ (q.call size c).2.octets = q.octets ++ c.chunk := by
  cases c with
  | write chunk => rfl
  | close => exact absurd rfl going
  | next =>
    simp only [Queue.call]
    split
    · simp [Answer.raw?, Call.chunk]
    · simp [Answer.raw?, Call.chunk, List.take_append_drop]

/-- Nothing is lost, repeated or put in another order as long as the queue is not closed. -/
theorem Queue.converse_conserves (size : Nat) (q : Queue) {calls : List Call} (going : .close ∉ calls) :
    (framesOf (converse (Queue.call size) q calls).1).flatMap (·.pix) ++ (converse (Queue.call size) q calls).2.octets =
      q.octets ++ chunksOf calls := by
  induction calls generalizing q with
  | nil => simp [Assembler.converse, framesOf, chunksOf]
  | cons c calls ih =>
    rw [List.mem_cons, not_or] at going
    have first := Queue.call_conserves size q (Ne.symm going.1)
    have rest := ih (q.call size c).2 going.2
    have given : (framesOf (converse (Queue.call size) q (c :: calls)).1).flatMap (·.pix) =
        ((q.call size c).1.raw?.map (·.pix)).getD [] ++
          (framesOf (converse (Queue.call size) (q.call size c).2 calls).1).flatMap (·.pix) := by
      simp only [Assembler.converse, framesOf, List.filterMap_cons]
      cases (q.call size c).1.raw? <;> simp
    calc _ = ((q.call size c).1.raw?.map (·.pix)).getD [] ++ ((q.call size c).2.octets ++ chunksOf calls) := by
          rw [given, List.append_assoc]
          exact congrArg _ rest
      _ = q.octets ++ (c.chunk ++ chunksOf calls) := by rw [← List.append_assoc, first, List.append_assoc]
      _ = q.octets ++ chunksOf (c :: calls) := rfl

/-- A call counts the frame that it gives out. -/
theorem call_emitted (a : Assembler) (c : Call) :
    (a.call c).2.emitted = a.emitted + (a.call c).1.raw?.toList.length := by
  cases c with
  | write chunk => rfl
  | close => rfl
  | next =>
    simp only [Assembler.call, next]
    split
    · rfl
    · rfl

theorem converse_emitted (a : Assembler) (calls : List Call) :
    (converse call a calls).2.emitted = a.emitted + (framesOf (converse call a calls).1).length := by
  induction calls generalizing a with
  | nil => rfl
  | cons c calls ih =>
    have rest := ih (a.call c).2
    rw [call_emitted] at rest
    simp only [Assembler.converse, framesOf, List.filterMap_cons] at rest ⊢
    cases raw : (a.call c).1.raw? with
    | none => simpa [raw] using rest
    | some f =>
      simp only [raw, Option.toList_some, List.length_singleton] at rest
      rw [rest, List.length_cons]
      omega

/-- Whatever an assembler is asked and in whatever order, it answers like a plain queue: chunks are accepted as
a whole, a frame is given exactly when enough octets wait for it, with the next index and the octets from the
front, and closing drops and reports what waits. The octets that wait are those of the queue, frames
are counted as they are given out, and the offset stays within the buffer. Until the assembler is closed, the
frames given out and the octets that wait are all that was written, in order. -/
theorem converse_eq_queue {frameSize : Int64} {a : Assembler} (made : new frameSize = .ok a) (calls : List Call) :
    let after := (converse call a calls).2
    let answers := (converse call a calls).1
    let queue := (converse (Queue.call frameSize.toInt.toNat) {} calls).2
    0 < frameSize.toInt.toNat ∧
      answers = (converse (Queue.call frameSize.toInt.toNat) {} calls).1 ∧
      after.pending = queue.octets ∧ after.buffered = queue.octets.length ∧
      after.emitted = (framesOf answers).length ∧ after.consumed ≤ after.buffer.length ∧
      (.close ∉ calls → (framesOf answers).flatMap (·.pix) ++ after.pending = chunksOf calls) := by
  have start := holds_new made
  obtain ⟨same, holds⟩ := start.converse calls
  refine ⟨?_, same, holds.pending, ?_, ?_, holds.consumed_le, ?_⟩
  · unfold new at made
    split at made
    · cases made
    · rename_i positive
      rw [Int64.le_iff_toInt_le] at positive
      have zero : (0 : Int64).toInt = 0 := by decide
      omega
  · rw [← length_pending, holds.pending]
  · have fresh : a.emitted = 0 := by
      unfold new at made
      split at made
      · cases made
      split at made <;> cases made
      rfl
    rw [converse_emitted, fresh, Nat.zero_add]
  · intro going
    rw [same, holds.pending]
    exact Queue.converse_conserves _ {} going

/-- Frames of two octets. One is complete and not yet taken when more is written. -/
def laggingCalls : List Call := [.write [1, 2, 3, 4, 5], .next, .write [6], .next, .next, .write [7], .next]

theorem converse_eq_queue_lagging : ∃ a, new 2 = .ok a ∧
    (converse call a (laggingCalls ++ [.close, .next])).1 =
      [.accepted 5, .frame (some ⟨1, [1, 2]⟩), .accepted 1, .frame (some ⟨2, [3, 4]⟩), .frame (some ⟨3, [5, 6]⟩),
        .accepted 1, .frame none, .closed (some ⟨1, 2⟩), .frame none] ∧
    (converse call a (laggingCalls ++ [.close, .next])).2.emitted = 3 ∧
    (framesOf (converse call a laggingCalls).1).flatMap (·.pix) ++ (converse call a laggingCalls).2.pending =
      [1, 2, 3, 4, 5, 6, 7] := by
  have made : new 2 = .ok { frameSize := 2 } := by decide
  obtain ⟨-, answers, -, -, emitted, -⟩ := converse_eq_queue made (laggingCalls ++ [.close, .next])
  obtain ⟨-, -, -, -, -, -, conserved⟩ := converse_eq_queue made laggingCalls
  refine ⟨_, made, ?_, ?_, conserved (by decide)⟩
  · rw [answers]
    decide
  · rw [emitted, answers]
    decide

end Assembler

end BlitReel
