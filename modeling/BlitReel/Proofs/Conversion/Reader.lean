import Mathlib
import BlitReel.Proofs.Assembler
import BlitReel.Proofs.Conversion.Step

/-!
# What the reader has read

A run has read the front of its source: `Run.seen` are the octets of the deliveries taken so far and
`Run.framesRead` the complete frames among them. `Reader` says that the assembler stands exactly there,
and what is known about the end of the source. Every move keeps it.
-/

namespace BlitReel

/-- What a way to stop means for the run. -/
def Ending.failure? : Ending → Option Failure
  | .finished => none
  | .broken message => some ((Failure.plain message).within "nfp: Convert: read")

/-- How deliveries end: with the first ending among them. -/
def Delivery.endingOf (ds : List Delivery) : Ending := (ds.findSome? (·.ending?)).getD .finished

/-- How a source stops. -/
def Source.ending (s : Source) : Ending := Delivery.endingOf s.deliveries

namespace Source

theorem go_cons (d : Delivery) (rest : List Delivery) :
    content.go (d :: rest) = d.data ++ if d.ending?.isSome then [] else content.go rest := rfl

end Source

namespace Run

variable {s : Source} {r r' : Run} {left? : Option (Int64 × Octets)}

/-- The octets that a run has read. -/
def seen (s : Source) (r : Run) : Octets :=
  (s.deliveries.take (s.deliveries.length - r.deliveries.length)).flatMap (·.data)

/-- The frames that a run has read. -/
def framesRead (s : Source) (r : Run) : List RawFrame :=
  (List.range ((r.seen s).length / r.options.geometry.octets)).map
    (RawFrame.ofStream r.options.geometry.octets (r.seen s))

theorem seen_of_split {before : List Delivery} (split : s.deliveries = before ++ r.deliveries) :
    r.seen s = before.flatMap (·.data) := by
  simp [seen, split]

/-- Where the reader stands. -/
structure Reader (s : Source) (r : Run) : Prop where
  size : r.assembler.frameSize = r.options.geometry.octets
  suffix : r.deliveries <:+ s.deliveries
  arrived : r.assembler.Seen (r.seen s)
  drained : r.assembler.emitted = (r.seen s).length / r.options.geometry.octets
  running : r.ended = false → s.content = r.seen s ++ Source.content.go r.deliveries ∧
    s.ending = Delivery.endingOf r.deliveries ∧ r.readFailure? = none
  exhausted : r.ended = true → s.content = r.seen s ∧ r.readFailure? = s.ending.failure?

/-- What arrives with a delivery: the frames that it completes. -/
theorem cut_delivery {a : Assembler} {seen : Octets} (arrived : a.Seen seen)
    (drained : a.emitted = seen.length / a.frameSize) (data : Octets) :
    ∃ a', (if data.isEmpty then ([], a) else (a.write data).drain) =
        ((List.range' (seen.length / a.frameSize) ((seen ++ data).length / a.frameSize - seen.length / a.frameSize)).map
          (RawFrame.ofStream a.frameSize (seen ++ data)), a') ∧
      a'.frameSize = a.frameSize ∧ a'.Seen (seen ++ data) ∧ a'.emitted = (seen ++ data).length / a.frameSize := by
  split <;> rename_i empty
  · rw [List.isEmpty_iff] at empty
    subst empty
    rw [List.append_nil]
    refine ⟨a, ?_, rfl, arrived, drained⟩
    rw [Nat.sub_self]
    rfl
  · obtain ⟨a', drain, arrived', size, emitted⟩ := (arrived.write data).drain_eq
    refine ⟨a', ?_, size, arrived', emitted⟩
    rw [drain, ← drained]
    rfl

theorem receive_eq (r : Run) (d : Delivery) :
    ∃ cut : List RawFrame × Assembler,
      cut = (if d.data.isEmpty then ([], r.assembler) else (r.assembler.write d.data).drain) ∧
      r.receive d = { r with
        waiting := cut.1, assembler := cut.2, ended := r.ended || d.ending?.isSome
        readFailure? := match d.ending? with
          | some (.broken message) => some ((Failure.plain message).within "nfp: Convert: read")
          | _ => r.readFailure? } := by
  refine ⟨_, rfl, ?_⟩
  obtain ⟨data, ending?⟩ := d
  rw [receive]
  match ending? with
  | none => simp
  | some .finished => simp
  | some (.broken message) => simp

/-- Frames that are complete stay the same frames, and new ones come behind them. -/
theorem frames_extend {size : Nat} (seen data : Octets) :
    (List.range ((seen ++ data).length / size)).map (RawFrame.ofStream size (seen ++ data)) =
      (List.range (seen.length / size)).map (RawFrame.ofStream size seen) ++
        (List.range' (seen.length / size) ((seen ++ data).length / size - seen.length / size)).map
          (RawFrame.ofStream size (seen ++ data)) := by
  have le : seen.length / size ≤ (seen ++ data).length / size := Nat.div_le_div_right (by simp)
  have old : (List.range (seen.length / size)).map (RawFrame.ofStream size seen) =
      (List.range (seen.length / size)).map (RawFrame.ofStream size (seen ++ data)) := by
    refine List.map_congr_left fun i hi => ?_
    exact (RawFrame.ofStream_append (List.mem_range.1 hi) data).symm
  have split : List.range ((seen ++ data).length / size) = List.range (seen.length / size) ++
      List.range' (seen.length / size) ((seen ++ data).length / size - seen.length / size) := by
    rw [List.range_eq_range', List.range_eq_range']
    have joined := @List.range'_append_1 0 (seen.length / size) ((seen ++ data).length / size - seen.length / size)
    rwa [Nat.zero_add, Nat.add_sub_cancel' le, eq_comm] at joined
  rw [old, ← List.map_append, ← split]

/-- A delivery extends what was seen and brings the frames that it completes. -/
theorem Reader.receive (h : Reader s r) {d : Delivery} {rest : List Delivery} (running : r.ended = false)
    (next : r.deliveries = d :: rest) :
    Reader s ({ r with deliveries := rest }.receive d) ∧
      Run.framesRead s ({ r with deliveries := rest }.receive d) =
        r.framesRead s ++ ({ r with deliveries := rest }.receive d).waiting := by
  obtain ⟨before, split⟩ := h.suffix
  have split' : s.deliveries = (before ++ [d]) ++ rest := by rw [← split, next]; simp
  have seenBefore : r.seen s = before.flatMap (·.data) := seen_of_split split.symm
  obtain ⟨a', cut, size, arrived, emitted⟩ := cut_delivery h.arrived (by rw [h.size]; exact h.drained) d.data
  obtain ⟨_, rfl, received⟩ := receive_eq { r with deliveries := rest } d
  obtain ⟨content, ending, noFailure⟩ := h.running running
  rw [next, Source.go_cons] at content
  rw [next, Delivery.endingOf] at ending
  have seen' : Run.seen s ({ r with deliveries := rest }.receive d) = r.seen s ++ d.data := by
    rw [received, seenBefore, seen_of_split split']
    simp
  refine ⟨⟨?_, ?_, ?_, ?_, ?_, ?_⟩, ?_⟩
  · rw [received]
    simp only [cut, size, h.size]
  · rw [received]
    exact ⟨before ++ [d], split'.symm⟩
  · rw [seen', received]
    simp only [cut, arrived]
  · rw [seen', received]
    simp only [cut, emitted, h.size]
  · intro still
    rw [seen']
    rw [received] at still ⊢
    simp only [Bool.or_eq_false_iff, Option.isSome_eq_false_iff, Option.isNone_iff_eq_none] at still
    simp only [still.2, Option.isSome_none, Bool.false_eq_true, ↓reduceIte, List.findSome?_cons] at content ending
    refine ⟨by rw [content, List.append_assoc], ending, ?_⟩
    simp [still.2, noFailure]
  · intro done
    rw [seen']
    rw [received] at done ⊢
    simp only [running, Bool.false_or] at done
    obtain ⟨e, he⟩ := Option.isSome_iff_exists.1 done
    simp only [he, Option.isSome_some, ↓reduceIte, List.append_nil, List.findSome?_cons, Option.getD_some]
      at content ending
    refine ⟨content, ?_⟩
    rw [ending]
    cases e with
    | finished => simpa [he, Ending.failure?] using noFailure
    | broken message => simp [he, Ending.failure?]
  · have options : ({ r with deliveries := rest }.receive d).options = r.options := by rw [received]
    rw [framesRead, framesRead, seen', options, received]
    simp only [cut, h.size]
    exact frames_extend (r.seen s) d.data

/-- The reader's place is kept by every move. -/
theorem Reader.change (h : Reader s r) (change : Change r left? r') : Reader s r' := by
  cases change with
  | finish running out =>
    obtain ⟨content, ending, noFailure⟩ := h.running running
    rw [out] at content ending
    refine ⟨h.size, h.suffix, h.arrived, h.drained, by simp, fun _ => ⟨?_, ?_⟩⟩
    · rw [content]
      exact List.append_nil _
    · change r.readFailure? = _
      rw [noFailure, ending]
      rfl
  | receive d rest running _ next => exact (h.receive running next).1
  | launch => exact ⟨h.size, h.suffix, h.arrived, h.drained, h.running, h.exhausted⟩
  | keep => exact ⟨h.size, h.suffix, h.arrived, h.drained, h.running, h.exhausted⟩
  | spoil => exact ⟨h.size, h.suffix, h.arrived, h.drained, h.running, h.exhausted⟩
  | lose => exact ⟨h.size, h.suffix, h.arrived, h.drained, h.running, h.exhausted⟩
  | report => exact ⟨h.size, h.suffix, h.arrived, h.drained, h.running, h.exhausted⟩

theorem length_of_mem_framesRead {raw : RawFrame} (mem : raw ∈ r.framesRead s) :
    raw.pix.length = r.options.geometry.octets := by
  obtain ⟨i, hi, rfl⟩ := List.mem_map.1 mem
  exact RawFrame.length_ofStream (List.mem_range.1 hi)

end Run

end BlitReel
