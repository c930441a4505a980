import Mathlib
import BlitReel.Proofs.Frame.Buffer
import BlitReel.Proofs.Frame.RoundTrip

/-!
# Writing a frame to a sink

A frame is written through a buffer in parts: its header, its rows, and the line feeds between them
(`writeParts_eq_feed`). The sink cannot tell: it ends up with a beginning of the text of the frame, as much as it had
room for. The count that comes back is another matter. It says how much the buffer took, not how
much the sink stored.
-/

namespace BlitReel

namespace Frame

open BufferedSink (capacity feed Delivered)

variable {b : BufferedSink}

/-- The parts that are written one after the other. -/
def parts (f : Frame) : List Octets := f.header :: f.rows.intersperse [0x0A]

theorem flatten_parts (f : Frame) : f.parts.flatten = f.text := rfl

/-- The stretches of the text that go past the buffer. -/
def bypasses (f : Frame) : List (Nat × Nat) := BufferedSink.stretches 0 0 (f.parts.map List.length)

theorem intersperse_cons (row : Octets) (rest : List Octets) :
    (row :: rest).intersperse [0x0A] = row :: rest.flatMap fun row => [[0x0A], row] := by
  induction rest generalizing row with
  | nil => rfl
  | cons next rest ih => rw [List.intersperse_cons_cons, ih, List.flatMap_cons, List.cons_append, List.singleton_append]

theorem writeRows_eq_feed (going : b.failed = false) (room : b.pending.length ≤ capacity) (rows : List Octets) (total : Nat) :
    writeRows rows b total =
      ((b.feed (rows.flatMap fun row => [[0x0A], row])).1, total + (b.feed (rows.flatMap fun row => [[0x0A], row])).2) := by
  induction rows generalizing b total with
  | nil => rfl
  | cons row rows ih =>
    have space := (BufferedSink.write_taken going room [0x0A]).room
    rw [writeRows, BufferedSink.put_eq_write room, List.flatMap_cons, List.cons_append, List.singleton_append]
    rcases lineFeed : b.write [0x0A] with ⟨b', n⟩
    rw [lineFeed] at space
    cases failed : b'.failed with
    | true => simp [BufferedSink.feed_cons_failed lineFeed failed, failed]
    | false =>
      have space' := (BufferedSink.write_taken failed space row).room
      rw [BufferedSink.feed_cons_going lineFeed failed]
      rcases written : b'.write row with ⟨b'', m⟩
      rw [written] at space'
      cases failed' : b''.failed with
      | true => simp [BufferedSink.feed_cons_failed written failed', failed, written, failed', Nat.add_assoc]
      | false =>
        simp [BufferedSink.feed_cons_going written failed', failed, written, failed', ih failed' space', Nat.add_assoc]

theorem writeParts_eq_feed (f : Frame) (going : b.failed = false) (room : b.pending.length ≤ capacity) :
    f.writeParts b = b.feed f.parts := by
  have space := (BufferedSink.write_taken going room f.header).room
  rw [writeParts, parts]
  rcases header : b.write f.header with ⟨b', n⟩
  rw [header] at space
  cases failed : b'.failed with
  | true => simp [BufferedSink.feed_cons_failed header failed, failed]
  | false =>
    rw [BufferedSink.feed_cons_going header failed]
    cases f.rows with
    | nil => simp [feed, failed]
    | cons row rest =>
      have space' := (BufferedSink.write_taken failed space row).room
      rw [intersperse_cons]
      rcases written : b'.write row with ⟨b'', m⟩
      rw [written] at space'
      cases failed' : b''.failed with
      | true => simp [BufferedSink.feed_cons_failed written failed', failed, written, failed']
      | false =>
        simp [BufferedSink.feed_cons_going written failed', failed, written, failed', writeRows_eq_feed failed' space',
          Nat.add_assoc]

/-- What is left in the buffer when a frame has been written or the sink has failed. -/
def stranded (f : Frame) (s : Sink) : BufferedSink := (f.writeParts ⟨s, [], false⟩).1.flush

theorem writeTo_delivers (f : Frame) (s : Sink) : Delivered s f.text f.bypasses (f.stranded s) (f.writeTo s).2.1 := by
  have empty : ([] : Octets).length ≤ capacity := Nat.zero_le _
  have delivers := BufferedSink.feed_delivers (Sink.accept_nil s) empty f.parts
  rw [← writeParts_eq_feed f rfl empty] at delivers
  simpa [stranded, writeTo, flatten_parts, bypasses] using delivers

/-- **The buffer does not show.** The sink is left as if it had been given the text of the frame at once. -/
theorem writeTo_eq (f : Frame) (s : Sink) :
    (f.writeTo s).1 = (s.accept f.text).1 ∧ (f.writeTo s).2.2 = (s.accept f.text).2.2 := by
  have delivers := f.writeTo_delivers s
  refine ⟨delivers.sink, ?_⟩
  show (!(f.stranded s).failed) = _
  rw [delivers.failed, Bool.not_not]

/-- **A sink gets a beginning of the text.** Through the buffer, whatever the rows are, a sink with a limited
room ends up with as much of the text as the room has place for, and the writing goes well exactly if that is
all. A sink that takes everything has the whole text afterwards, all of which is counted, and this text is
the header line and the rows, joined by line feeds. -/
theorem writeTo_stores_beginning (f : Frame) (stored : Octets) :
    (∀ room : Nat,
      (f.writeTo ⟨stored, some room⟩).1.written = stored ++ f.text.take (min room f.text.length) ∧
      ((f.writeTo ⟨stored, some room⟩).2.2 = true ↔ f.text.length ≤ room)) ∧
    f.writeTo ⟨stored, none⟩ = (⟨stored ++ f.text, none⟩, f.text.length, true) ∧
    f.bytes = f.text ∧
    f.text = Octets.ofInt f.width.toInt ++ 0x20 :: Octets.ofInt f.height.toInt ++ 0x0A :: List.intercalate [0x0A] f.rows := by
  have unlimited (stored : Octets) : f.writeTo ⟨stored, none⟩ = (⟨stored ++ f.text, none⟩, f.text.length, true) := by
    have delivers := f.writeTo_delivers ⟨stored, none⟩
    obtain ⟨sink, ok⟩ := f.writeTo_eq ⟨stored, none⟩
    have nothing : (f.stranded ⟨stored, none⟩).pending = [] := delivers.pending_eq_nil_iff.2 (Or.inl rfl)
    have count := delivers.count_eq
    rw [nothing] at count
    exact Prod.ext sink (Prod.ext count ok)
  refine ⟨fun room => ?_, unlimited stored, ?_, ?_⟩
  · obtain ⟨sink, ok⟩ := f.writeTo_eq ⟨stored, some room⟩
    rw [sink, ok, Sink.accept]
    dsimp only
    split
    · rename_i enough
      simp [enough]
    · rename_i scarce
      have short : min room f.text.length = room := by omega
      simp [scarce, short]
  · rw [bytes, unlimited]
    rfl
  · simp [text, header, List.intercalate]

/-- When all parts fit into the buffer, nothing goes past it. -/
theorem bypasses_eq_nil {f : Frame} (small : ∀ row ∈ f.rows, row.length ≤ capacity) : f.bypasses = [] := by
  apply BufferedSink.stretches_eq_nil (Nat.zero_le _)
  intro n mem
  obtain ⟨part, inParts, rfl⟩ := List.mem_map.1 mem
  rcases List.mem_cons.1 inParts with rfl | inRows
  · have width := length_ofInt_le f.width
    have height := length_ofInt_le f.height
    simp only [header, List.length_append, List.length_cons, List.length_nil, capacity]
    omega
  · cases rows : f.rows with
    | nil => simp [rows] at inRows
    | cons row rest =>
      rw [rows] at small inRows
      rw [List.forall_mem_cons] at small
      rw [intersperse_cons, List.mem_cons, List.mem_flatMap] at inRows
      rcases inRows with rfl | ⟨row', inRest, inPair⟩
      · exact small.1
      · simp only [List.mem_cons, List.not_mem_nil, or_false] at inPair
        rcases inPair with rfl | rfl
        · decide
        · exact small.2 _ inRest

/-- **The count is what the buffer took.** It is never behind what the sink stored, and ahead of it by at most what the
buffer holds. The two agree exactly if the writing went well or the sink ran out of room in a stretch that
goes past the buffer. A frame whose rows all fit into the buffer has no such stretch, so for it every failure is
reported with too high a count. -/
theorem writeTo_counts_stored_iff (f : Frame) (s : Sink) :
    let stored := (f.writeTo s).1.written.length - s.written.length
    let count := (f.writeTo s).2.1
    let ok := (f.writeTo s).2.2
    stored ≤ count ∧ count ≤ stored + capacity ∧ count ≤ f.text.length ∧
      (count = stored ↔ ok = true ∨ ∃ stretch ∈ f.bypasses, stretch.1 ≤ stored ∧ stored < stretch.2) ∧
      ((∀ row ∈ f.rows, row.length ≤ capacity) → (count = stored ↔ ok = true)) := by
  have delivers := f.writeTo_delivers s
  obtain ⟨sink, ok⟩ := f.writeTo_eq s
  dsimp only
  rw [sink, ok, Sink.length_accept]
  have agree : (f.writeTo s).2.1 = (s.accept f.text).2.1 ↔ (s.accept f.text).2.2 = true ∨
      ∃ stretch ∈ f.bypasses, stretch.1 ≤ (s.accept f.text).2.1 ∧ (s.accept f.text).2.1 < stretch.2 := by
    rw [← delivers.pending_eq_nil_iff, delivers.count_eq, ← List.length_eq_zero_iff]
    omega
  have bound := delivers.pending_le
  have count := delivers.count_eq
  refine ⟨by omega, by omega, delivers.count_le, agree, fun small => ?_⟩
  rw [agree, bypasses_eq_nil small]
  simp

/-- A sink without room stores nothing of the smallest picture, and five octets are reported. -/
theorem writeTo_overcounts :
    (Frame.writeTo ⟨1, 1, [[0x30]]⟩ ⟨[], some 0⟩).1.written = [] ∧
    (Frame.writeTo ⟨1, 1, [[0x30]]⟩ ⟨[], some 0⟩).2 = (5, false) := by
  decide +kernel

/-- A frame with a single row of nine thousand octets. -/
def wide : Frame := ⟨9000, 1, [List.replicate 9000 0x30]⟩

/-- All but the first 4096 octets of a wide frame go past the buffer. A sink that runs out of room among them is
reported truly, and one that runs out before is not. -/
theorem writeTo_counts_stored_iff_wide :
    wide.bypasses = [(4096, 9007)] ∧
    (wide.writeTo ⟨[], some 5000⟩).1.written.length = 5000 ∧ (wide.writeTo ⟨[], some 5000⟩).2 = (5000, false) ∧
    (wide.writeTo ⟨[], some 1000⟩).1.written.length = 1000 ∧ (wide.writeTo ⟨[], some 1000⟩).2.1 ≠ 1000 ∧
    (∀ row ∈ [[0x30]], row.length ≤ capacity) ∧ (Frame.writeTo ⟨1, 1, [[0x30]]⟩ ⟨[], some 0⟩).2.1 ≠ 0 := by
  have lengths : wide.parts.map List.length = [7, 9000] := by
    have header : wide.header.length = 7 := by decide +kernel
    have rows : wide.rows.intersperse [0x0A] = [List.replicate 9000 0x30] := rfl
    rw [parts, rows, List.map_cons, List.map_singleton, header, List.length_replicate]
  have bypasses : wide.bypasses = [(4096, 9007)] := by
    rw [Frame.bypasses, lengths]
    decide
  have length : wide.text.length = 9007 := by rw [← flatten_parts, List.length_flatten, lengths, List.sum_cons, List.sum_singleton]
  have ends (room : Nat) (scarce : room < 9007) :
      (wide.writeTo ⟨[], some room⟩).1.written.length = room ∧ (wide.writeTo ⟨[], some room⟩).2.2 = false := by
    obtain ⟨sink, ok⟩ := wide.writeTo_eq ⟨[], some room⟩
    have refused : ¬ wide.text.length ≤ room := by omega
    rw [sink, ok, Sink.accept]
    dsimp only
    rw [if_neg refused, List.nil_append, List.length_take]
    exact ⟨by omega, rfl⟩
  obtain ⟨stored, failed⟩ := ends 5000 (by decide)
  obtain ⟨stored', failed'⟩ := ends 1000 (by decide)
  obtain ⟨-, -, -, agree, -⟩ := writeTo_counts_stored_iff wide ⟨[], some 5000⟩
  obtain ⟨-, -, -, differ, -⟩ := writeTo_counts_stored_iff wide ⟨[], some 1000⟩
  obtain ⟨-, -, -, -, small⟩ := writeTo_counts_stored_iff ⟨1, 1, [[0x30]]⟩ ⟨[], some 0⟩
  rw [stored, failed, bypasses] at agree
  rw [stored', failed', bypasses] at differ
  have unstored : (Frame.writeTo ⟨1, 1, [[0x30]]⟩ ⟨[], some 0⟩).1.written = [] := by decide +kernel
  have refused : (Frame.writeTo ⟨1, 1, [[0x30]]⟩ ⟨[], some 0⟩).2.2 = false := by decide +kernel
  rw [unstored, refused] at small
  refine ⟨bypasses, stored, Prod.ext ?_ failed, stored', ?_, by decide, ?_⟩
  · exact agree.2 (Or.inr ⟨_, List.mem_singleton_self _, by decide⟩)
  · intro same
    simpa using differ.1 same
  · intro same
    exact absurd ((small (by decide)).1 same) (by decide)

end Frame

end BlitReel
