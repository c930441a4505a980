import Mathlib
import BlitReel.Service.Manager

/-!
# What errands have to do

A move changes one errand at most, or adds one (`getElem?_step_other`). Whatever an errand has to do,
only its last act may answer the call (`Errand.Orderly`), so no act is lost when an errand is
answered. Launching a conversion and putting its last status in place are its milestones;
`Manager.milestones` lists those that errands have before them.
-/

namespace BlitReel

/-- Whether an act may answer the call, which ends the errand. -/
def Act.mayAnswer : Act → Bool
  | .begin .. | .answer | .observe | .await => true
  | _ => false

/-- Whether an act carries a conversion on to its next stage. -/
def Act.isMilestone : Act → Bool
  | .launch _ | .conclude .. => true
  | _ => false

/-- The milestones that an errand has before it. -/
def Errand.milestones (t : Errand) : List Act := t.todo.filter Act.isMilestone

/-- The status that a call has returned. -/
def Errand.returned? (t : Errand) : Option Status := t.reply?.bind (·.toOption)

theorem Errand.returned?_eq_some_iff {t : Errand} {s : Status} : t.returned? = some s ↔ t.reply? = some (.ok s) := by
  obtain ⟨todo, _ | (f | s')⟩ := t <;> simp [returned?, Except.toOption]

namespace Manager

variable {m : Manager} {k : Nat} {t : Errand}

/-- The milestones that errands have before them. -/
def milestones (m : Manager) : List Act := m.errands.flatMap Errand.milestones

/-- The warning of a conversion that is to end while none is under way. -/
def inconsistency : Note := noteOf .warn "State inconsistency, expected converting" []

section Update

variable (there : m.errands[k]? = some t) (f : Errand → Errand)

include there

theorem getElem?_updateErrand_self : (m.updateErrand k f).errands[k]? = some (f t) := by
  simp [updateErrand, there]

theorem forall_updateErrand {P : Errand → Prop} (all : ∀ t ∈ m.errands, P t) (new : P (f t)) :
    ∀ t' ∈ (m.updateErrand k f).errands, P t' := by
  intro t' mem
  obtain ⟨i, found⟩ := List.mem_iff_getElem?.1 mem
  by_cases same : k = i
  · subst same
    rw [getElem?_updateErrand_self there f] at found
    cases found
    exact new
  · rw [updateErrand, List.getElem?_modify_ne f _ same] at found
    exact all t' (List.mem_of_getElem? found)

/-- What is read off one errand stands together in what is read off all. -/
theorem flatMap_updateErrand {α : Type} (g : Errand → List α) : ∃ before after,
    m.errands.flatMap g = before ++ g t ++ after ∧
      (m.updateErrand k f).errands.flatMap g = before ++ g (f t) ++ after := by
  obtain ⟨h, rfl⟩ := List.getElem?_eq_some_iff.1 there
  obtain ⟨front, a, back, split, length, modified⟩ := List.exists_of_modify f h
  refine ⟨front.flatMap g, back.flatMap g, ?_, ?_⟩
  · have mid : m.errands[k] = a := by simp [split, ← length]
    rw [mid, split]
    simp
  · have mid : m.errands[k] = a := by simp [split, ← length]
    rw [mid, updateErrand, modified]
    simp

theorem milestones_updateErrand : ∃ before after, m.milestones = before ++ t.milestones ++ after ∧
    (m.updateErrand k f).milestones = before ++ (f t).milestones ++ after :=
  flatMap_updateErrand there f Errand.milestones

/-- An errand that keeps its milestones keeps those of all. -/
theorem milestones_updateErrand_same (same : (f t).milestones = t.milestones) :
    (m.updateErrand k f).milestones = m.milestones := by
  obtain ⟨before, after, old, new⟩ := milestones_updateErrand there f
  rw [old, new, same]

/-- When all milestones are those of one errand, they change as its do. -/
theorem milestones_updateErrand_all (all : m.milestones = t.milestones) :
    (m.updateErrand k f).milestones = (f t).milestones := by
  obtain ⟨before, after, old, new⟩ := milestones_updateErrand there f
  rw [all] at old
  have length := congrArg List.length old
  simp only [List.length_append] at length
  obtain rfl : before = [] := List.length_eq_zero_iff.1 (by omega)
  obtain rfl : after = [] := List.length_eq_zero_iff.1 (by omega)
  simpa using new

end Update

theorem milestones_addErrand (m : Manager) (t : Errand) : (m.addErrand t).milestones = m.milestones ++ t.milestones := by
  simp [milestones, addErrand]

/-- A milestone that is the only one of all is the only one of its errand. -/
theorem milestones_eq_single {a b : Act} {rest : List Act} {reply? : Option (Except Failure Status)}
    (there : m.errands[k]? = some ⟨a :: rest, reply?⟩) (mark : a.isMilestone = true) (all : m.milestones = [b]) :
    a = b ∧ Errand.milestones { todo := rest } = [] ∧ m.milestones = (⟨a :: rest, reply?⟩ : Errand).milestones := by
  obtain ⟨before, after, old, -⟩ := milestones_updateErrand there id
  have own : (⟨a :: rest, reply?⟩ : Errand).milestones = a :: Errand.milestones { todo := rest } := by
    simp [Errand.milestones, mark]
  rw [all, own] at old
  have length := congrArg List.length old
  simp only [List.length_append, List.length_cons, List.length_nil] at length
  obtain rfl : before = [] := List.length_eq_zero_iff.1 (by omega)
  have none : Errand.milestones { todo := rest } = [] := List.length_eq_zero_iff.1 (by omega)
  rw [own, none, all]
  simp only [List.nil_append, List.cons_append, List.cons.injEq] at old
  exact ⟨old.1.symm, rfl, by rw [old.1]⟩

theorem mem_milestones {a : Act} (there : m.errands[k]? = some t) (mem : a ∈ t.todo) (mark : a.isMilestone = true) :
    a ∈ m.milestones :=
  List.mem_flatMap.2 ⟨t, List.mem_of_getElem? there, List.mem_filter.2 ⟨mem, mark⟩⟩

end Manager

/-- Only the last act of an errand may answer, and none warns of an inconsistency. -/
structure Errand.Orderly (t : Errand) : Prop where
  last : t.todo.Pairwise fun a _ => a.mayAnswer = false
  consistent : .note Manager.inconsistency ∉ t.todo

namespace Errand.Orderly

variable {a : Act} {rest : List Act} {reply? : Option (Except Failure Status)}

theorem tail (h : Orderly ⟨a :: rest, reply?⟩) : Orderly ⟨rest, reply?⟩ := by
  constructor
  · exact (List.pairwise_cons.1 h.last).2
  · intro mem
    exact h.consistent (List.mem_cons_of_mem a mem)

/-- Nothing follows an act that may answer. -/
theorem rest_eq_nil (h : Orderly ⟨a :: rest, reply?⟩) (answers : a.mayAnswer = true) : rest = [] := by
  cases rest with
  | nil => rfl
  | cons b rest =>
    have silent := (List.pairwise_cons.1 h.last).1 b List.mem_cons_self
    rw [answers] at silent
    cases silent

/-- Acts that neither answer nor warn may come before what is left to do. -/
theorem append (h : Orderly ⟨rest, reply?⟩) (acts : List Act) (silent : ∀ a ∈ acts, a.mayAnswer = false)
    (consistent : .note Manager.inconsistency ∉ acts) : Orderly ⟨acts ++ rest, reply?⟩ := by
  constructor
  · apply List.pairwise_append.2
    refine ⟨?_, h.last, fun a mem _ _ => silent a mem⟩
    exact List.Pairwise.imp_of_mem (R := fun _ _ => True) (fun mem _ _ => silent _ mem)
      (List.pairwise_of_forall fun _ _ => trivial)
  · intro mem
    rcases List.mem_append.1 mem with mem | mem
    · exact consistent mem
    · exact h.consistent mem

theorem single (a : Act) (ne : a ≠ .note Manager.inconsistency) (reply? : Option (Except Failure Status)) :
    Orderly ⟨[a], reply?⟩ := by
  constructor
  · exact List.pairwise_singleton _ a
  · intro mem
    exact ne (List.mem_singleton.1 mem).symm

theorem done (reply? : Option (Except Failure Status)) : Orderly ⟨[], reply?⟩ :=
  ⟨List.Pairwise.nil, List.not_mem_nil⟩

end Errand.Orderly

namespace Manager

variable {m : Manager} {k : Nat} {t : Errand}

/-- All errands are orderly, and no inconsistency has been noted. -/
structure Orderly (m : Manager) : Prop where
  errands : ∀ t ∈ m.errands, t.Orderly
  consistent : inconsistency ∉ m.journal

namespace Orderly

variable {m' : Manager} (h : m.Orderly)

include h

theorem added (errands : m'.errands = m.errands ++ [t]) (journal : m'.journal = m.journal) (new : t.Orderly) :
    m'.Orderly := by
  constructor
  · intro t' mem
    rw [errands] at mem
    rcases List.mem_append.1 mem with mem | mem
    · exact h.errands t' mem
    · rw [List.mem_singleton.1 mem]
      exact new
  · rw [journal]
    exact h.consistent

theorem noted {notes : Journal} (errands : m'.errands = m.errands) (journal : m'.journal = m.journal ++ notes)
    (consistent : inconsistency ∉ notes) : m'.Orderly := by
  constructor
  · rw [errands]
    exact h.errands
  · intro mem
    rw [journal] at mem
    rcases List.mem_append.1 mem with mem | mem
    · exact h.consistent mem
    · exact consistent mem

theorem changed {f : Errand → Errand} (there : m.errands[k]? = some t) (errands : m'.errands = m.errands.modify k f)
    (journal : m'.journal = m.journal) (new : (f t).Orderly) : m'.Orderly := by
  constructor
  · rw [errands]
    exact forall_updateErrand there f h.errands new
  · rw [journal]
    exact h.consistent

end Orderly

theorem sendTo_eq (m : Manager) (client : Nat) (want : Subscription) (p : Packet) :
    ∃ sent, m.sendTo client want p = { m with sent } := by
  unfold sendTo
  split
  · split
    · exact ⟨_, rfl⟩
    · exact ⟨m.sent, rfl⟩
  · exact ⟨m.sent, rfl⟩

/-- Whether a client joins, speaks or leaves. -/
def Move.isOfClient : Move → Bool
  | .connect | .hear .. | .disconnect .. => true
  | _ => false

/-- What a client does leaves status, conversions and errands alone, and warns of no inconsistency. -/
theorem step_ofClient (m : Manager) {v : Move} (client : v.isOfClient = true) :
    ∃ clients joined sent notes, m.step v = { m with clients, joined, sent, journal := m.journal ++ notes } ∧
      inconsistency ∉ notes := by
  have unnoted : ∃ clients joined sent notes,
      m = { m with clients, joined, sent, journal := m.journal ++ notes } ∧ inconsistency ∉ notes :=
    ⟨m.clients, m.joined, m.sent, [], by simp⟩
  cases v with
  | connect => exact ⟨m.clients ++ [{ number := m.joined }], m.joined + 1, m.sent, [], by simp only [step, List.append_nil],
      List.not_mem_nil⟩
  | hear number data =>
    simp only [step]
    split
    · simp only [heard]
      split
      · exact ⟨m.clients, m.joined, m.sent, [_], rfl, by simp [inconsistency, noteOf]⟩
      · obtain ⟨sent, same⟩ := sendTo_eq { m with clients := _ } number .status (.ofStatus m.status)
        exact ⟨_, m.joined, sent, [], by rw [same, List.append_nil], List.not_mem_nil⟩
    · exact unnoted
  | disconnect number words =>
    simp only [step]
    split
    · exact ⟨_, m.joined, m.sent, [_], rfl, by simp [inconsistency, noteOf]⟩
    · exact unnoted
  | start _ _ | cancel | advance _ | giveUp _ | progress _ _ | finish _ _ => cases client

/-- What an act leaves to do is orderly, unless a conversion is to end while none is under way. -/
theorem Orderly.perform (h : m.Orderly) {a : Act} {rest : List Act} {reply? : Option (Except Failure Status)}
    (there : m.errands[k]? = some ⟨a :: rest, reply?⟩)
    (converting : ∀ job status, a = .conclude job status → m.status.kind = Status.converting) :
    (m.perform k rest a).Orderly := by
  have old := h.errands _ (List.mem_of_getElem? there)
  have ended (r : Except Failure Status) : (m.replyTo k r).Orderly := h.changed there rfl rfl (Errand.Orderly.done _)
  cases a with
  | begin settings input now =>
    simp only [Manager.perform, beginJob]
    split
    · obtain rfl := old.rest_eq_nil rfl
      refine h.changed there rfl rfl (Errand.Orderly.append ?_ [_, _, _] ?_ ?_)
      · exact Errand.Orderly.single .answer (by simp) _
      · simp [Act.mayAnswer]
      · simp [inconsistency, noteOf]
    · exact ended _
  | conclude job status =>
    simp only [Manager.perform, concludeJob, converting job status rfl, beq_self_eq_true, ↓reduceIte]
    refine h.changed there rfl rfl ?_
    exact old.tail.append [_] (by simp [Act.mayAnswer]) (by simp)
  | broadcast want p =>
    refine h.changed there rfl rfl ?_
    exact old.tail.append _ (by simp [Act.mayAnswer]) (by simp)
  | send client want p =>
    obtain ⟨sent, same⟩ := m.sendTo_eq client want p
    rw [Manager.perform, same]
    exact h.changed there rfl rfl old.tail
  | note n =>
    have ne : n ≠ inconsistency := by
      rintro rfl
      exact old.consistent List.mem_cons_self
    have noted : (m.write n).Orderly := h.noted rfl rfl (by simpa using Ne.symm ne)
    exact noted.changed there rfl rfl old.tail
  | launch job => exact h.changed there rfl rfl old.tail
  | answer => exact ended _
  | observe =>
    simp only [Manager.perform, observeJob]
    split
    · obtain rfl := old.rest_eq_nil rfl
      refine h.changed there rfl rfl (Errand.Orderly.append ?_ [_] ?_ ?_)
      · exact Errand.Orderly.single .await (by simp) _
      · simp [Act.mayAnswer]
      · simp
    · exact ended _
  | signal job => exact h.changed there rfl rfl old.tail
  | await =>
    simp only [Manager.perform]
    split
    · exact ended _
    · exact h

theorem orderly_closing (job : Nat) (j : Job) (r : Except Failure Manifest) :
    Errand.Orderly { todo := closing job j r } := by
  apply Errand.Orderly.append (Errand.Orderly.single (.conclude job (j.lastStatus r)) (by simp) none)
  · cases r with
    | error f => simp [report, Act.mayAnswer]
    | ok man =>
      simp only [report]
      split <;> simp [Act.mayAnswer]
  · cases r with
    | error f => simp [report, inconsistency, noteOf]
    | ok man =>
      simp only [report]
      split <;> simp [inconsistency, noteOf]

/-- Every move keeps the errands orderly, unless a conversion is to end while none is under way. -/
theorem Orderly.step (h : m.Orderly) (v : Move) (converting : ∀ job status, .conclude job status ∈ m.milestones →
    m.status.kind = Status.converting) : (m.step v).Orderly := by
  by_cases client : v.isOfClient = true
  · obtain ⟨clients, joined, sent, notes, same, consistent⟩ := m.step_ofClient client
    rw [same]
    exact h.noted rfl rfl consistent
  cases v with
  | start request now =>
    simp only [Manager.step]
    split
    · exact h.added rfl rfl (Errand.Orderly.done _)
    · exact h.added rfl rfl (Errand.Orderly.single _ (by simp) _)
  | cancel => exact h.added rfl rfl (Errand.Orderly.single _ (by simp) _)
  | advance k =>
    simp only [Manager.step]
    split
    · rename_i a rest reply? there
      refine h.perform there fun job status same => converting job status ?_
      exact mem_milestones there (by simp [same]) rfl
    · exact h
  | giveUp k =>
    simp only [Manager.step]
    split
    · rename_i there
      exact h.changed there rfl rfl (Errand.Orderly.done _)
    · exact h
  | progress job p =>
    simp only [Manager.step]
    split
    · exact h.added rfl rfl (Errand.Orderly.single _ (by simp) _)
    · exact h
  | finish job r =>
    simp only [Manager.step]
    split
    · split
      · exact h.added rfl rfl (orderly_closing job _ r)
      · exact h
    · exact h
  | connect | hear _ _ | disconnect _ _ => exact absurd rfl client

section Frame

variable {i : Nat}

theorem getElem?_updateErrand_other (f : Errand → Errand) (ne : i ≠ k) :
    (m.updateErrand i f).errands[k]? = m.errands[k]? := List.getElem?_modify_ne f _ ne

theorem getElem?_addErrand (there : m.errands[k]? = some t) (new : Errand) : (m.addErrand new).errands[k]? = some t := by
  obtain ⟨inside, -⟩ := List.getElem?_eq_some_iff.1 there
  unfold addErrand
  rw [List.getElem?_append_left inside, there]

/-- An act leaves the settings, the clients and the other errands alone. -/
theorem perform_eq (m : Manager) (rest : List Act) (a : Act) : ∃ status jobs f sent journal,
    m.perform k rest a = { m with status, jobs, errands := m.errands.modify k f, sent, journal } := by
  cases a with
  | begin settings input now =>
    simp only [perform, beginJob]
    split <;> exact ⟨_, _, _, _, _, rfl⟩
  | conclude job status =>
    simp only [perform, concludeJob]
    split <;> exact ⟨_, _, _, _, _, rfl⟩
  | send client want p =>
    obtain ⟨sent, same⟩ := m.sendTo_eq client want p
    rw [perform, same]
    exact ⟨_, _, _, _, _, rfl⟩
  | observe =>
    simp only [perform, observeJob]
    split <;> exact ⟨_, _, _, _, _, rfl⟩
  | await =>
    simp only [perform]
    split
    · exact ⟨_, _, _, _, _, rfl⟩
    · exact ⟨m.status, m.jobs, id, m.sent, m.journal, by rw [List.modify_id]⟩
  | broadcast _ _ | note _ | launch _ | answer | signal _ => exact ⟨_, _, _, _, _, rfl⟩

theorem getElem?_perform_other (m : Manager) (rest : List Act) (a : Act) (ne : i ≠ k) :
    (m.perform i rest a).errands[k]? = m.errands[k]? := by
  obtain ⟨status, jobs, f, sent, journal, same⟩ := m.perform_eq (k := i) rest a
  rw [same]
  exact List.getElem?_modify_ne f _ ne

theorem length_perform (m : Manager) (rest : List Act) (a : Act) :
    (m.perform k rest a).errands.length = m.errands.length := by
  obtain ⟨status, jobs, f, sent, journal, same⟩ := m.perform_eq (k := k) rest a
  rw [same]
  exact List.length_modify ..

/-- An errand is changed by its own moves only. -/
theorem getElem?_step_other {v : Move} (there : m.errands[k]? = some t) (idle : v ≠ .advance k) (stays : v ≠ .giveUp k) :
    (m.step v).errands[k]? = some t := by
  by_cases client : v.isOfClient = true
  · obtain ⟨clients, joined, sent, notes, same, -⟩ := m.step_ofClient client
    rw [same]
    exact there
  cases v with
  | start request now =>
    simp only [step]
    split <;> exact getElem?_addErrand there _
  | cancel => exact getElem?_addErrand there _
  | advance i =>
    have ne : i ≠ k := fun same => idle (by rw [same])
    simp only [step]
    split
    · rw [getElem?_perform_other _ _ _ ne, there]
    · exact there
  | giveUp i =>
    have ne : i ≠ k := fun same => stays (by rw [same])
    simp only [step]
    split
    · unfold replyTo
      rw [getElem?_updateErrand_other _ ne, there]
    · exact there
  | progress job p =>
    simp only [step]
    split
    · exact getElem?_addErrand (m := { m with status := _ }) there _
    · exact there
  | finish job r =>
    simp only [step]
    split
    · split
      · exact getElem?_addErrand (m := { m with jobs := _ }) there _
      · exact there
    · exact there
  | connect | hear _ _ | disconnect _ _ => exact absurd rfl client

/-- What no client does leaves the settings and the clients alone. -/
theorem step_eq (m : Manager) {v : Move} (own : v.isOfClient = false) : ∃ status jobs errands sent journal,
    m.step v = { m with status, jobs, errands, sent, journal } := by
  cases v with
  | advance e =>
    simp only [step]
    split
    · obtain ⟨status, jobs, f, sent, journal, same⟩ := m.perform_eq _ _
      exact ⟨_, _, _, _, _, same⟩
    · exact ⟨_, _, _, _, _, rfl⟩
  | finish k r =>
    simp only [step]
    split
    · split <;> exact ⟨_, _, _, _, _, rfl⟩
    · exact ⟨_, _, _, _, _, rfl⟩
  | start _ _ | giveUp _ | progress _ _ =>
    simp only [step]
    split <;> exact ⟨_, _, _, _, _, rfl⟩
  | cancel => exact ⟨_, _, _, _, _, rfl⟩
  | connect | hear _ _ | disconnect _ _ => cases own

/-- No errand is forgotten. -/
theorem length_errands_step (m : Manager) (v : Move) : m.errands.length ≤ (m.step v).errands.length := by
  have added (t : Errand) : m.errands.length ≤ (m.errands ++ [t]).length := by
    rw [List.length_append]
    omega
  by_cases client : v.isOfClient = true
  · obtain ⟨clients, joined, sent, notes, same, -⟩ := m.step_ofClient client
    rw [same]
  cases v with
  | start request now =>
    simp only [step]
    split <;> exact added _
  | cancel => exact added _
  | advance k =>
    simp only [step]
    split
    · rw [length_perform]
    · exact Nat.le_refl _
  | giveUp k =>
    simp only [step]
    split
    · exact (List.length_modify ..).ge
    · exact Nat.le_refl _
  | progress job p =>
    simp only [step]
    split
    · exact added _
    · exact Nat.le_refl _
  | finish job r =>
    simp only [step]
    split
    · split
      · exact added _
      · exact Nat.le_refl _
    · exact Nat.le_refl _
  | connect | hear _ _ | disconnect _ _ => exact absurd rfl client

theorem length_errands_steps (m : Manager) (moves : List Move) : m.errands.length ≤ (m.steps moves).errands.length := by
  induction moves generalizing m with
  | nil => exact Nat.le_refl _
  | cons v moves ih => exact (length_errands_step m v).trans (ih (m.step v))

end Frame

end Manager

end BlitReel
