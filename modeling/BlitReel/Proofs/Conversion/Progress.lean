import Mathlib
import BlitReel.Proofs.Conversion.Outcome

/-!
# No schedule gets stuck

`Run.work` bounds the moves that a run can still make: every change leaves less of it, and as long as a
run has not settled there is a change that it can make. So every schedule ends, and the usual one
(`Run.complete`) ends within its effort.
-/

namespace BlitReel

/-- The moves that a task still needs. -/
def Task.weight (task : Task) : Nat := if task.stored?.isSome then 1 else 2

namespace Run

/-- What is left to read: a move for each delivery and for the end, and for its octets as many moves as the
frames made of them need at most. -/
def unread (ds : List Delivery) : Nat := ds.foldr (fun d n => d.data.length + 1 + n) 1

/-- The most moves that a run can still make. -/
def work (r : Run) : Nat :=
  (if r.ended then 0 else unread r.deliveries) + r.assembler.buffered + 3 * r.waiting.length +
    (r.tasks.map Task.weight).sum

variable {s : Source} {r r' : Run} {left? : Option (Int64 × Octets)}

theorem sum_weight_eraseIdx {tasks : List Task} {task : Task} {k : Nat} (at_k : tasks[k]? = some task) :
    (tasks.map Task.weight).sum = task.weight + ((tasks.eraseIdx k).map Task.weight).sum := by
  have perm := (Ledger.perm_task at_k).map Task.weight
  rw [perm.sum_eq, List.map_cons, List.sum_cons]

theorem sum_weight_set {tasks : List Task} {task : Task} {k : Nat} (at_k : tasks[k]? = some task) (task' : Task) :
    ((tasks.set k task').map Task.weight).sum = task'.weight + ((tasks.eraseIdx k).map Task.weight).sum := by
  obtain ⟨inside, -⟩ := List.getElem?_eq_some_iff.1 at_k
  have perm := (List.set_perm_cons_eraseIdx inside task').map Task.weight
  rw [perm.sum_eq, List.map_cons, List.sum_cons]

/-- The octets of a delivery pay for the frames that it completes. -/
theorem receive_work (sound : r.options.Sound) (reader : Reader s r) {d : Delivery} {rest : List Delivery}
    (running : r.ended = false) (handed : r.waiting = []) (next : r.deliveries = d :: rest) :
    ({ r with deliveries := rest }.receive d).work < r.work := by
  have size := reader.size
  obtain ⟨a', cut, size', arrived, emitted⟩ :=
    cut_delivery reader.arrived (by rw [size]; exact reader.drained) d.data
  obtain ⟨_, rfl, received⟩ := receive_eq { r with deliveries := rest } d
  have before := reader.arrived.buffered_eq
  have taken := reader.arrived.taken_le
  have after := arrived.buffered_eq
  have taken' := arrived.taken_le
  rw [size', size] at after taken'
  rw [size] at before taken emitted
  have drained := reader.drained
  have grows : r.assembler.emitted ≤ a'.emitted := by
    rw [drained, emitted]
    exact Nat.div_le_div_right (by simp)
  obtain ⟨new, more⟩ := Nat.exists_eq_add_of_le grows
  have length : (({ r with deliveries := rest }.receive d).waiting).length = new := by
    rw [received]
    simp only [cut, List.length_map, List.length_range', size]
    omega
  have paid : 3 * new ≤ new * r.options.geometry.octets := by
    rw [Nat.mul_comm 3]
    exact Nat.mul_le_mul_left new sound.geometry.three_le_octets
  have product : a'.emitted * r.options.geometry.octets =
      r.assembler.emitted * r.options.geometry.octets + new * r.options.geometry.octets := by
    rw [more, Nat.add_mul]
  have buffered : (({ r with deliveries := rest }.receive d).assembler).buffered = a'.buffered := by
    rw [received]
    simp only [cut]
  have tasks : ({ r with deliveries := rest }.receive d).tasks = r.tasks := by rw [received]
  have deliveries : ({ r with deliveries := rest }.receive d).deliveries = rest := by rw [received]
  have unreadNow : unread r.deliveries = d.data.length + 1 + unread rest := by
    rw [next]
    rfl
  simp only [List.length_append] at after taken'
  generalize { r with deliveries := rest }.receive d = r' at length buffered tasks deliveries
  rw [work, work, length, buffered, tasks, deliveries, handed, running, unreadNow]
  simp only [Bool.false_eq_true, ↓reduceIte, List.length_nil]
  split <;> omega

theorem work_lt_of_tasks (ended : r'.ended = r.ended) (deliveries : r'.deliveries = r.deliveries)
    (assembler : r'.assembler = r.assembler) (waiting : r'.waiting = r.waiting)
    (tasks : (r'.tasks.map Task.weight).sum < (r.tasks.map Task.weight).sum) : r'.work < r.work := by
  rw [work, work, ended, deliveries, assembler, waiting]
  omega

/-- Every change leaves less work. -/
theorem Change.work_lt (sound : r.options.Sound) (reader : Reader s r) (change : Change r left? r') :
    r'.work < r.work := by
  cases change with
  | finish running out =>
    simp only [work, running, out, unread, Bool.false_eq_true, ↓reduceIte, List.foldr_nil]
    omega
  | receive d rest running handed next => exact receive_work sound reader running handed next
  | launch raw rest next room =>
    simp only [work, next, List.map_append, List.sum_append, List.length_cons, List.map_cons, List.map_nil,
      List.sum_cons, List.sum_nil, Task.weight, Option.isSome_none, Bool.false_eq_true, ↓reduceIte]
    omega
  | keep k raw f error loc tree task =>
    refine work_lt_of_tasks rfl rfl rfl rfl ?_
    change ((r.tasks.set k ⟨raw, some (f, error)⟩).map Task.weight).sum < _
    rw [sum_weight_eraseIdx task, sum_weight_set task]
    simp [Task.weight]
  | spoil k raw kept loc tree failure task =>
    refine work_lt_of_tasks rfl rfl rfl rfl ?_
    change ((r.tasks.eraseIdx k).map Task.weight).sum < _
    rw [sum_weight_eraseIdx task]
    simp [Task.weight]
  | lose k raw failure task =>
    refine work_lt_of_tasks rfl rfl rfl rfl ?_
    change ((r.tasks.eraseIdx k).map Task.weight).sum < _
    rw [sum_weight_eraseIdx task]
    simp [Task.weight]
  | report k raw f error task =>
    refine work_lt_of_tasks rfl rfl rfl rfl ?_
    change ((r.tasks.eraseIdx k).map Task.weight).sum < _
    rw [sum_weight_eraseIdx task]
    simp [Task.weight]

/-- Where no usual move is left the run has settled. -/
theorem settled_of_nextMove? (room : 0 < r.limit) (h : r.nextMove? = none) : r.settled = true := by
  rw [nextMove?] at h
  split at h
  · cases h
  rename_i noLaunch
  split at h
  · cases h
  rename_i noRead
  split at h <;> rename_i tasks
  · simp only [tasks, List.length_nil, room, decide_true, Bool.and_true, Bool.not_eq_true',
      Bool.not_eq_false] at noLaunch
    simp only [noLaunch, Bool.true_and, Bool.and_eq_true, Bool.not_eq_true', not_and, Bool.not_eq_false] at noRead
    cases ended : r.ended with
    | true => simp [settled, ended, noLaunch, tasks]
    | false => simp [settled, noRead ended, noLaunch, tasks]
  · cases h
  · cases h

/-- The usual move is a change. -/
theorem nextMove?_change (sound : r.options.Sound) (sized : r.Sized) {m : Move} (h : r.nextMove? = some m) :
    Change r (r.leaves? m) (r.step m) := by
  rw [nextMove?] at h
  split at h <;> rename_i launch
  · cases h
    rw [Bool.and_eq_true, decide_eq_true_eq] at launch
    cases next : r.waiting with
    | nil => simp [next] at launch
    | cons raw rest => exact launch_change next launch.2
  split at h <;> rename_i read
  · cases h
    simp only [Bool.and_eq_true, Bool.not_eq_true', List.isEmpty_iff] at read
    exact read_change read.1.2 read.2 read.1.1
  split at h <;> rename_i tasks
  · cases h
  · cases h
    exact store_change sound sized (by rw [tasks]; rfl) none
  · cases h
    exact report_change (by rw [tasks]; rfl)

/-- The moves that the usual schedule makes. -/
def usualMoves : Nat → Run → List Move
  | 0, _ => []
  | fuel + 1, r =>
    match r.nextMove? with
    | some m => m :: usualMoves fuel (r.step m)
    | none => []

theorem steps_append (r : Run) (moves more : List Move) : r.steps (moves ++ more) = (r.steps moves).steps more :=
  List.foldl_append

theorem steps_usualMoves (fuel : Nat) (r : Run) : r.steps (usualMoves fuel r) = drive fuel r := by
  induction fuel generalizing r with
  | zero => rfl
  | succ fuel ih =>
    rw [usualMoves, drive]
    cases r.nextMove? with
    | none => rfl
    | some m => exact ih (r.step m)

theorem length_usualMoves (fuel : Nat) (r : Run) : (usualMoves fuel r).length ≤ fuel := by
  induction fuel generalizing r with
  | zero => exact Nat.le_refl 0
  | succ fuel ih =>
    rw [usualMoves]
    cases r.nextMove? with
    | none => exact Nat.zero_le _
    | some m => exact Nat.succ_le_succ (ih (r.step m))

/-- The move does not call the run off, and the system does not refuse its write. -/
def Move.Calm : Move → Prop
  | .cancel => False
  | .store _ (some _) => False
  | _ => True

theorem calm_nextMove? {m : Move} (next : r.nextMove? = some m) : m.Calm := by
  unfold nextMove? at next
  split at next
  · cases next
    trivial
  split at next
  · cases next
    trivial
  split at next <;> cases next <;> trivial

theorem calm_usualMoves (fuel : Nat) (r : Run) : ∀ m ∈ usualMoves fuel r, m.Calm := by
  induction fuel generalizing r with
  | zero => simp [usualMoves]
  | succ fuel ih =>
    rw [usualMoves]
    cases next : r.nextMove? with
    | none => simp
    | some m =>
      intro m' mem
      rcases List.mem_cons.1 mem with rfl | later
      · exact calm_nextMove? next
      · exact ih (r.step m) m' later

theorem faultless_usualMoves (fuel : Nat) (r : Run) (k : Nat) (w : WriteFault) :
    .store k (some w) ∉ usualMoves fuel r := fun mem => calm_usualMoves fuel r _ mem

section Usual

variable {t : FileTree} {o : ConversionOptions} {limit : Nat} {log : List (Int64 × Octets)}

theorem Invariant.nextMove?_work (sound : o.Sound) (h : Invariant t s o limit r log) {m : Move}
    (next : r.nextMove? = some m) : (r.step m).work < r.work := by
  have sound' : r.options.Sound := by
    rw [h.options]
    exact sound
  exact (nextMove?_change sound' h.sized next).work_lt sound' h.reader

/-- With as many moves as there is work the usual schedule brings a run to its end. -/
theorem Invariant.drive_settled (sound : o.Sound) (room : 0 < limit) (h : Invariant t s o limit r log) {fuel : Nat}
    (enough : r.work ≤ fuel) : (drive fuel r).settled = true := by
  have stop {r : Run} {log : List (Int64 × Octets)} (h : Invariant t s o limit r log) (next : r.nextMove? = none) :
      r.settled = true :=
    settled_of_nextMove? (by rw [h.limit]; exact room) next
  induction fuel generalizing r log with
  | zero =>
    cases next : r.nextMove? with
    | none => exact stop h next
    | some m =>
      have := h.nextMove?_work sound next
      omega
  | succ fuel ih =>
    rw [drive]
    cases next : r.nextMove? with
    | none => exact stop h next
    | some m =>
      have := h.nextMove?_work sound next
      exact ih (h.step sound m) (by omega)

/-- No move adds to the work. -/
theorem Invariant.step_work_le (sound : o.Sound) (h : Invariant t s o limit r log) (m : Move) :
    (r.step m).work ≤ r.work := by
  have sound' : r.options.Sound := by
    rw [h.options]
    exact sound
  by_cases off : m = .cancel
  · subst off
    exact Nat.le_refl _
  rcases step_cases sound' h.sized off with ⟨same, -⟩ | change
  · rw [same]
  · exact (change.work_lt sound' h.reader).le

theorem Invariant.steps_work_le (sound : o.Sound) (h : Invariant t s o limit r log) (moves : List Move) :
    (r.steps moves).work ≤ r.work := by
  induction moves generalizing r log with
  | nil => exact Nat.le_refl _
  | cons m moves ih => exact (ih (h.step sound m)).trans (h.step_work_le sound m)

/-- Moves of which every one changes the run. -/
def Busy (r : Run) : List Move → Prop
  | [] => True
  | m :: moves => r.step m ≠ r ∧ (r.step m).Busy moves

theorem Change.cancelled_eq (change : Change r left? r') : r'.cancelled = r.cancelled := by
  cases change with
  | receive d rest =>
    obtain ⟨_, rfl, received⟩ := receive_eq { r with deliveries := rest } d
    rw [received]
  | finish | launch | keep | spoil | lose | report => rfl

/-- There is a move for each piece of work, and one more to call the run off. -/
theorem Invariant.length_busy (sound : o.Sound) (h : Invariant t s o limit r log) {moves : List Move}
    (busy : r.Busy moves) : moves.length ≤ r.work + (if r.cancelled then 0 else 1) := by
  induction moves generalizing r log with
  | nil => exact Nat.zero_le _
  | cons m moves ih =>
    obtain ⟨changes, busy⟩ := busy
    have rest := ih (h.step sound m) busy
    have sound' : r.options.Sound := by
      rw [h.options]
      exact sound
    rw [List.length_cons]
    by_cases off : m = .cancel
    · subst off
      have going : r.cancelled = false := by
        by_contra called
        apply changes
        rw [Bool.not_eq_false] at called
        rw [Run.step, ← called]
      have work : (r.step .cancel).work = r.work := rfl
      have cancelled : (r.step .cancel).cancelled = true := rfl
      rw [work, cancelled] at rest
      simp only [going, ↓reduceIte, Bool.false_eq_true] at rest ⊢
      omega
    · rcases step_cases sound' h.sized off with ⟨same, -⟩ | change
      · exact absurd same changes
      · have less := change.work_lt sound' h.reader
        rw [change.cancelled_eq] at rest
        omega

end Usual

end Run

theorem ConversionOptions.limit_pos (o : ConversionOptions) (processors : Nat) : 0 < o.limit processors := by
  rw [limit]
  split
  · omega
  · rename_i positive
    rw [Int64.le_iff_toInt_le] at positive
    have zero : (0 : Int64).toInt = 0 := by decide
    omega

namespace Conversion

/-- The effort covers all the work of a run that has just started, and one move more. -/
theorem start_work_lt (c : Conditions) (tree : FileTree) (s : Source) (o : ConversionOptions) (size : Nat) :
    (start c tree s o { frameSize := size }).work < (start c tree s o { frameSize := size }).effort := by
  have more (ds : List Delivery) : Run.unread ds < ds.foldr (fun d n => d.data.length + 1 + n) 2 := by
    rw [Run.unread]
    induction ds with
    | nil => exact Nat.lt_succ_self 1
    | cons d ds ih =>
      rw [List.foldr_cons, List.foldr_cons]
      omega
  simpa [start, Run.note, Run.work, Run.effort, Assembler.buffered] using more s.deliveries

/-- Whatever has happened so far, a conversion can be brought to its end within its effort. -/
theorem can_finish (c : Conditions) (t : FileTree) (s : Source) (o : ConversionOptions) (moves : List Run.Move) :
    ∃ more : List Run.Move, more.length ≤ s.deliveries.foldr (fun d n => d.data.length + 1 + n) 2 ∧
      finishes c t s o (moves ++ more) = true := by
  rcases begin_cases c t s o with ⟨tree, f, fails, -⟩ | ⟨tree, begins, -, sound⟩
  · exact ⟨[], Nat.zero_le _, by rw [finishes, fails]⟩
  · have h := invariant_start c sound tree s
    have start_work := start_work_lt c tree s o o.geometry.octets
    set r := start c tree s o { frameSize := o.geometry.octets }
    refine ⟨Run.usualMoves (r.steps moves).work (r.steps moves), ?_, ?_⟩
    · calc _ ≤ (r.steps moves).work := Run.length_usualMoves _ _
        _ ≤ r.work := h.steps_work_le sound moves
        _ ≤ r.effort := start_work.le
    · rw [finishes, begins]
      dsimp only
      rw [Run.steps_append, Run.steps_usualMoves]
      exact (h.steps sound moves).drive_settled sound (o.limit_pos c.processors) (Nat.le_refl _)

/-- A conversion takes one of the schedules that finish; one that was called off at first starts with that. No write
of a frame is refused along it, beyond what the tree itself rules out. -/
theorem convert_usual (c : Conditions) (t : FileTree) (s : Source) (o : ConversionOptions) (cancelled : Bool) :
    ∃ moves, finishes c t s o moves = true ∧ (∀ k w, .store k (some w) ∉ moves) ∧
      convert c t s o cancelled = convertAlong c t s o moves := by
  simp only [finishes, convert, convertAlong]
  rcases begin_cases c t s o with ⟨tree, f, fails, -⟩ | ⟨tree, begins, -, sound⟩
  · rw [fails]
    exact ⟨[], rfl, fun _ _ => List.not_mem_nil, rfl⟩
  · rw [begins]
    dsimp only
    have h := invariant_start c sound tree s
    have enough := (start_work_lt c tree s o o.geometry.octets).le
    have room := o.limit_pos c.processors
    set r := start c tree s o { frameSize := o.geometry.octets }
    cases cancelled with
    | false =>
      refine ⟨Run.usualMoves r.effort r, ?_, Run.faultless_usualMoves _ _, ?_⟩
      · rw [Run.steps_usualMoves]
        exact h.drive_settled sound room enough
      · rw [Run.steps_usualMoves]
        rfl
    | true =>
      refine ⟨.cancel :: Run.usualMoves r.effort (r.step .cancel), ?_, ?_, ?_⟩
      · change ((r.step .cancel).steps _).settled = true
        rw [Run.steps_usualMoves]
        exact (h.step sound .cancel).drive_settled sound room enough
      · intro k w mem
        rcases List.mem_cons.1 mem with impossible | mem
        · cases impossible
        · exact Run.faultless_usualMoves _ _ k w mem
      · change _ = conclude c s.exit ((r.step .cancel).steps _)
        rw [Run.steps_usualMoves]
        rfl

theorem convert_eq (c : Conditions) (t : FileTree) (s : Source) (o : ConversionOptions) (cancelled : Bool) :
    ∃ moves, finishes c t s o moves = true ∧ convert c t s o cancelled = convertAlong c t s o moves := by
  obtain ⟨moves, finished, -, same⟩ := convert_usual c t s o cancelled
  exact ⟨moves, finished, same⟩

end Conversion

end BlitReel
