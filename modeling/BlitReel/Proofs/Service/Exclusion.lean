import Mathlib
import BlitReel.Proofs.Service.Errand

/-!
# One conversion at a time

Calls, runners and clients move in any order, and nothing but the test in one act, that the service is
idle, keeps a second conversion out. The invariant says how status, conversions and errands hang
together: either the service rests, every conversion is concluded and no errand has a milestone before
it, or exactly one conversion is under way, the status is of that conversion, and the one milestone
before the errands is the next of that conversion (`Manager.Exclusive`). Every move keeps it
(`Exclusive.step`), so it holds after all moves (`sound_steps`).

A call that ends with an error has changed neither the status nor the conversions at any of its moves
(`inert_of_refused`).
-/

namespace BlitReel

/-- The milestone before a conversion, by its stage. -/
def Job.due (k : Nat) (j : Job) : List Act :=
  match j.stage with
  | .reserved => [.launch k]
  | .running => []
  | .returned r => [.conclude k (j.lastStatus r)]
  | .concluded => []

theorem Job.launch_mem_due {i k : Nat} {j : Job} (mem : .launch i ∈ j.due k) :
    i = k ∧ j.stage = .reserved ∧ j.due k = [.launch k] := by
  unfold due at mem ⊢
  cases stage : j.stage <;> simp_all

theorem Job.conclude_mem_due {i k : Nat} {j : Job} {status : Status} (mem : .conclude i status ∈ j.due k) :
    i = k ∧ ∃ r, j.stage = .returned r ∧ status = j.lastStatus r ∧ j.due k = [.conclude k status] := by
  unfold due at mem ⊢
  cases stage : j.stage <;> simp_all

namespace Manager

variable {m m' : Manager} {k e : Nat} {j : Job}

/-- A conversion has been let in, and its last status is not in place. -/
def Underway (m : Manager) (k : Nat) : Prop := ∃ j, m.jobs[k]? = some j ∧ j.stage ≠ .concluded

/-- No conversion is under way, by status, conversions and errands. -/
structure Resting (m : Manager) : Prop where
  kind : m.status.kind = Status.idle
  concluded : ∀ (i : Nat) (j : Job), m.jobs[i]? = some j → j.stage = .concluded
  milestones : m.milestones = []

/-- One conversion is under way, by status, conversions and errands. -/
structure Converting (m : Manager) (k : Nat) (j : Job) : Prop where
  there : m.jobs[k]? = some j
  going : j.stage ≠ .concluded
  others : ∀ (i : Nat) (j' : Job), i ≠ k → m.jobs[i]? = some j' → j'.stage = .concluded
  kind : m.status.kind = Status.converting
  slug : m.status.slug = j.settings.slug
  input : m.status.input = j.input
  milestones : m.milestones = j.due k

/-- At most one conversion is under way, and status and errands are as it wants them. -/
def Exclusive (m : Manager) : Prop := m.Resting ∨ ∃ k j, m.Converting k j

theorem Resting.of_eq (h : m.Resting) (kind : m'.status.kind = m.status.kind) (jobs : m'.jobs = m.jobs)
    (milestones : m'.milestones = m.milestones) : m'.Resting :=
  ⟨kind.trans h.kind, by rw [jobs]; exact h.concluded, milestones.trans h.milestones⟩

/-- A conversion that is let in is the only one. -/
theorem Resting.enter (h : m.Resting) {settings : Settings} {input : Octets} {now : Int64}
    (status : m'.status = startedStatus settings input now m.jobs.length)
    (jobs : m'.jobs = m.jobs ++ [({ settings, input } : Job)])
    (milestones : m'.milestones = [.launch m.jobs.length]) : m'.Converting m.jobs.length { settings, input } := by
  refine ⟨?_, by simp, ?_, ?_, ?_, ?_, milestones⟩
  · rw [jobs, List.getElem?_concat_length]
  · intro i j ne there
    rw [jobs, List.getElem?_append] at there
    split at there
    · exact h.concluded i j there
    · obtain ⟨inside, -⟩ := List.getElem?_eq_some_iff.1 there
      simp only [List.length_cons, List.length_nil] at inside
      omega
  · rw [status]
    rfl
  · rw [status]
    rfl
  · rw [status]
    rfl

namespace Converting

theorem eq_of_underway (h : m.Converting k j) {i : Nat} (underway : m.Underway i) : i = k := by
  obtain ⟨j', there, going⟩ := underway
  by_contra ne
  exact going (h.others i j' ne there)

theorem kind_ne_idle (h : m.Converting k j) : m.status.kind ≠ Status.idle := by
  rw [h.kind]
  decide

/-- A conversion keeps its status while its own place in the list is changed. -/
theorem changed (h : m.Converting k j) {f : Job → Job} (kind : m'.status.kind = m.status.kind)
    (slug : m'.status.slug = m.status.slug) (input : m'.status.input = m.status.input)
    (jobs : m'.jobs = m.jobs.modify k f) (going : (f j).stage ≠ .concluded)
    (same : (f j).settings = j.settings ∧ (f j).input = j.input) (milestones : m'.milestones = (f j).due k) :
    m'.Converting k (f j) := by
  refine ⟨?_, going, ?_, kind.trans h.kind, ?_, ?_, milestones⟩
  · rw [jobs, List.getElem?_modify_eq, h.there]
    rfl
  · intro i j' ne there
    rw [jobs, List.getElem?_modify_ne f _ ne.symm] at there
    exact h.others i j' ne there
  · rw [slug, h.slug, same.1]
  · rw [input, h.input, same.2]

theorem of_eq (h : m.Converting k j) (kind : m'.status.kind = m.status.kind) (slug : m'.status.slug = m.status.slug)
    (input : m'.status.input = m.status.input) (jobs : m'.jobs = m.jobs) (milestones : m'.milestones = m.milestones) :
    m'.Converting k j := by
  apply h.changed (f := id) kind slug input _ h.going ⟨rfl, rfl⟩ (milestones.trans h.milestones)
  rw [jobs, List.modify_id]

/-- When the last status of the conversion is in place, the service rests. -/
theorem conclude (h : m.Converting k j) (kind : m'.status.kind = Status.idle)
    (jobs : m'.jobs = m.jobs.modify k ({ · with stage := .concluded })) (milestones : m'.milestones = []) :
    m'.Resting := by
  refine ⟨kind, ?_, milestones⟩
  intro i j' there
  by_cases same : k = i
  · subst same
    rw [jobs, List.getElem?_modify_eq, h.there] at there
    cases there
    rfl
  · rw [jobs, List.getElem?_modify_ne _ _ same] at there
    exact h.others i j' (Ne.symm same) there

end Converting

namespace Exclusive

/-- Nothing else is needed than kind, slug, input, conversions and milestones. -/
theorem of_eq (h : m.Exclusive) (kind : m'.status.kind = m.status.kind) (slug : m'.status.slug = m.status.slug)
    (input : m'.status.input = m.status.input) (jobs : m'.jobs = m.jobs) (milestones : m'.milestones = m.milestones) :
    m'.Exclusive := by
  rcases h with rest | ⟨k, j, busy⟩
  · exact Or.inl (rest.of_eq kind jobs milestones)
  · exact Or.inr ⟨k, j, busy.of_eq kind slug input jobs milestones⟩

/-- A milestone that an errand has before it is the next of the conversion that is under way. -/
theorem converting_of_mem (h : m.Exclusive) {a : Act} (mem : a ∈ m.milestones) :
    ∃ k j, m.Converting k j ∧ a ∈ j.due k := by
  rcases h with rest | ⟨k, j, busy⟩
  · rw [rest.milestones] at mem
    cases mem
  · rw [busy.milestones] at mem
    exact ⟨k, j, busy, mem⟩

theorem signalled (h : m.Exclusive) {i : Nat} (status : m'.status = m.status)
    (jobs : m'.jobs = m.jobs.modify i ({ · with cancelled := true })) (milestones : m'.milestones = m.milestones) :
    m'.Exclusive := by
  have get (l : Nat) : m'.jobs[l]? = m.jobs[l]?.map fun j => if i = l then { j with cancelled := true } else j := by
    rw [jobs, List.getElem?_modify]
    rfl
  have stage (l : Nat) (j : Job) : (if i = l then { j with cancelled := true } else j).stage = j.stage := by
    split <;> rfl
  rcases h with rest | ⟨k, j, busy⟩
  · refine Or.inl ⟨by rw [status]; exact rest.kind, ?_, milestones.trans rest.milestones⟩
    intro l j' there
    rw [get] at there
    obtain ⟨j, old, rfl⟩ := Option.map_eq_some_iff.1 there
    rw [stage]
    exact rest.concluded l j old
  · refine Or.inr ⟨k, if i = k then { j with cancelled := true } else j, ?_, ?_, ?_, ?_, ?_, ?_, ?_⟩
    · rw [get, busy.there]
      rfl
    · rw [stage]
      exact busy.going
    · intro l j' ne there
      rw [get] at there
      obtain ⟨j, old, rfl⟩ := Option.map_eq_some_iff.1 there
      rw [stage]
      exact busy.others l j ne old
    · rw [status]
      exact busy.kind
    · rw [status, busy.slug]
      split <;> rfl
    · rw [status, busy.input]
      split <;> rfl
    · rw [milestones, busy.milestones]
      split <;> rfl

end Exclusive

theorem milestones_closing (k : Nat) (j : Job) (r : Except Failure Manifest) :
    Errand.milestones { todo := closing k j r } = [.conclude k (j.lastStatus r)] := by
  have none : (report j r).filter Act.isMilestone = [] := by
    cases r with
    | error f => rfl
    | ok man =>
      simp only [report]
      split <;> rfl
  simp only [Errand.milestones, closing, List.filter_append, none]
  rfl

/-- No act lets in a second conversion. -/
theorem Exclusive.perform (h : m.Exclusive) {a : Act} {rest : List Act} {reply? : Option (Except Failure Status)}
    (there : m.errands[e]? = some ⟨a :: rest, reply?⟩) (orderly : Errand.Orderly ⟨a :: rest, reply?⟩) :
    (m.perform e rest a).Exclusive := by
  have skipped (plain : a.isMilestone = false) :
      (⟨a :: rest, reply?⟩ : Errand).milestones = rest.filter Act.isMilestone := by
    simp [Errand.milestones, plain]
  have ended (answers : a.mayAnswer = true) (r : Except Failure Status) : (m.replyTo e r).Exclusive := by
    refine h.of_eq rfl rfl rfl rfl ?_
    apply milestones_updateErrand_same there
    obtain rfl := orderly.rest_eq_nil answers
    cases a <;> first | rfl | cases answers
  -- An act that is no milestone and puts none before what is left to do.
  have onward (plain : a.isMilestone = false) (todo : List Act)
      (same : todo.filter Act.isMilestone = rest.filter Act.isMilestone) :
      (m.continueWith e todo).milestones = m.milestones :=
    milestones_updateErrand_same there _ (same.trans (skipped plain).symm)
  cases a with
  | begin settings input now =>
    simp only [Manager.perform, beginJob]
    split
    · rename_i idle
      rcases h with resting | ⟨k, j, busy⟩
      · refine Or.inr ⟨m.jobs.length, _, resting.enter rfl rfl ?_⟩
        obtain rfl := orderly.rest_eq_nil rfl
        exact milestones_updateErrand_all there _ resting.milestones
      · exact absurd (beq_iff_eq.1 idle) busy.kind_ne_idle
    · exact ended rfl _
  | conclude i status =>
    -- The errand holds the one milestone that is left anywhere, so the conversion that it concludes is the
    -- one under way, and no errand has a milestone before it afterwards.
    obtain ⟨k, j, busy, mem⟩ := h.converting_of_mem (mem_milestones there List.mem_cons_self rfl)
    obtain ⟨rfl, r, -, rfl, due⟩ := Job.conclude_mem_due mem
    obtain ⟨-, none, all⟩ := milestones_eq_single there rfl (busy.milestones.trans due)
    simp only [Manager.perform, concludeJob, busy.kind, beq_self_eq_true, ↓reduceIte]
    refine Or.inl (busy.conclude ?_ rfl ?_)
    · cases r <;> rfl
    · exact (milestones_updateErrand_all there _ all).trans none
  | broadcast want p =>
    refine h.of_eq rfl rfl rfl rfl ?_
    apply onward rfl
    rw [List.filter_append, List.filter_eq_nil_iff.2 (by simp [Act.isMilestone])]
    rfl
  | send client want p =>
    obtain ⟨sent, same⟩ := m.sendTo_eq client want p
    rw [Manager.perform, same]
    exact h.of_eq rfl rfl rfl rfl (onward rfl rest rfl)
  | note n => exact h.of_eq rfl rfl rfl rfl (onward rfl rest rfl)
  | launch i =>
    obtain ⟨k, j, busy, mem⟩ := h.converting_of_mem (mem_milestones there List.mem_cons_self rfl)
    obtain ⟨rfl, -, due⟩ := Job.launch_mem_due mem
    obtain ⟨-, none, all⟩ := milestones_eq_single there rfl (busy.milestones.trans due)
    refine Or.inr ⟨i, _, busy.changed rfl rfl rfl rfl (by simp) ⟨rfl, rfl⟩ ?_⟩
    exact (milestones_updateErrand_all there _ all).trans none
  | answer => exact ended rfl _
  | observe =>
    simp only [Manager.perform, observeJob]
    split
    · exact h.of_eq rfl rfl rfl rfl (onward rfl _ rfl)
    · exact ended rfl _
  | signal i => exact h.signalled rfl rfl (onward rfl rest rfl)
  | await =>
    simp only [Manager.perform]
    split
    · exact ended rfl _
    · exact h

/-- The return of a runner leaves its conversion the only one. -/
theorem Exclusive.finish (h : m.Exclusive) {i : Nat} (there : m.jobs[i]? = some j) (running : j.stage = .running)
    (r : Except Failure Manifest) (jobs : m'.jobs = m.jobs.modify i ({ · with stage := .returned r }))
    (status : m'.status = m.status)
    (milestones : m'.milestones = m.milestones ++ Errand.milestones { todo := closing i j r }) : m'.Exclusive := by
  rw [milestones_closing] at milestones
  rcases h with rest | ⟨k, j', busy⟩
  · have concluded := rest.concluded i j there
    rw [running] at concluded
    cases concluded
  · obtain rfl : i = k := busy.eq_of_underway ⟨j, there, by simp [running]⟩
    obtain rfl : j = j' := by simpa [there] using busy.there
    refine Or.inr ⟨i, _, busy.changed ?_ ?_ ?_ jobs (by simp) ⟨rfl, rfl⟩ ?_⟩
    · rw [status]
    · rw [status]
    · rw [status]
    · rw [milestones, busy.milestones, Job.due, running]
      rfl

/-- Every move leaves at most one conversion under way. -/
theorem Exclusive.step (h : m.Exclusive) (orderly : m.Orderly) (v : Move) : (m.step v).Exclusive := by
  have called {t : Errand} (none : t.milestones = []) {m' : Manager} (errands : m'.errands = m.errands ++ [t]) :
      m'.milestones = m.milestones := by
    have all := milestones_addErrand m t
    rw [none, List.append_nil] at all
    rw [← all, Manager.milestones, errands]
    rfl
  by_cases client : v.isOfClient = true
  · -- A client changes neither the status nor any errand.
    obtain ⟨clients, joined, sent, notes, same, -⟩ := m.step_ofClient client
    rw [same]
    exact h.of_eq rfl rfl rfl rfl rfl
  cases v with
  | start request now =>
    simp only [Manager.step]
    split <;> exact h.of_eq rfl rfl rfl rfl (called rfl rfl)
  | cancel => exact h.of_eq rfl rfl rfl rfl (called rfl rfl)
  | advance e =>
    simp only [Manager.step]
    split
    · rename_i there
      exact h.perform there (orderly.errands _ (List.mem_of_getElem? there))
    · exact h
  | giveUp e =>
    simp only [Manager.step]
    split
    · rename_i there
      refine h.of_eq rfl rfl rfl rfl ?_
      apply milestones_updateErrand_same there
      obtain rfl := (orderly.errands _ (List.mem_of_getElem? there)).rest_eq_nil rfl
      rfl
    · exact h
  | progress i p =>
    simp only [Manager.step]
    split
    · exact h.of_eq rfl rfl rfl rfl (called rfl rfl)
    · exact h
  | finish i r =>
    simp only [Manager.step]
    split
    · rename_i j there
      split
      · rename_i running
        have stage : j.stage = .running := by
          cases stage : j.stage <;> simp_all [JobStage.isRunning]
        exact h.finish there stage r rfl rfl (milestones_addErrand m _)
      · exact h
    · exact h
  | connect | hear _ _ | disconnect _ _ => exact absurd rfl client

/-- The invariant of the service. -/
structure Sound (m : Manager) : Prop where
  orderly : m.Orderly
  exclusive : m.Exclusive

theorem Sound.step (h : m.Sound) (v : Move) : (m.step v).Sound := by
  refine ⟨h.orderly.step v ?_, h.exclusive.step h.orderly v⟩
  intro job status mem
  obtain ⟨k, j, busy, -⟩ := h.exclusive.converting_of_mem mem
  exact busy.kind

theorem Sound.steps (h : m.Sound) (moves : List Move) : (m.steps moves).Sound := by
  induction moves generalizing m with
  | nil => exact h
  | cons v moves ih => exact ih (h.step v)

theorem steps_append (m : Manager) (before after : List Move) :
    m.steps (before ++ after) = (m.steps before).steps after := List.foldl_append

theorem sound_steps (base : Settings) (moves : List Move) : (steps { base } moves).Sound := by
  apply Sound.steps
  constructor
  · constructor
    · intro t mem
      cases mem
    · intro mem
      cases mem
  · refine Or.inl ⟨rfl, ?_, rfl⟩
    intro i j there
    cases there

section Stands

variable (h : m.Exclusive)

include h

theorem Exclusive.converting_iff : m.status.kind = Status.converting ↔ ∃! k, m.Underway k := by
  rcases h with rest | ⟨k, j, busy⟩
  · constructor
    · intro kind
      rw [rest.kind] at kind
      exact absurd kind (by decide)
    · rintro ⟨k, ⟨j, there, going⟩, -⟩
      exact absurd (rest.concluded k j there) going
  · constructor
    · intro _
      exact ⟨k, ⟨j, busy.there, busy.going⟩, fun i underway => busy.eq_of_underway underway⟩
    · intro _
      exact busy.kind

theorem Exclusive.idle_iff : m.status.kind = Status.idle ↔ ∀ k, ¬ m.Underway k := by
  rcases h with rest | ⟨k, j, busy⟩
  · constructor
    · rintro - k ⟨j, there, going⟩
      exact going (rest.concluded k j there)
    · intro _
      exact rest.kind
  · constructor
    · intro kind
      exact absurd kind busy.kind_ne_idle
    · intro none
      exact absurd ⟨j, busy.there, busy.going⟩ (none k)

theorem Exclusive.of_underway (there : m.jobs[k]? = some j) (going : j.stage ≠ .concluded) : m.Converting k j := by
  rcases h with rest | ⟨i, j', busy⟩
  · exact absurd (rest.concluded k j there) going
  · obtain rfl : k = i := busy.eq_of_underway ⟨j, there, going⟩
    obtain rfl : j = j' := by simpa [there] using busy.there
    exact busy

/-- An errand that is to put the last status of a conversion in place finds that conversion under way, and
puts the status in place that is due to it. -/
theorem Exclusive.conclude {status : Status} {rest : List Act} {reply? : Option (Except Failure Status)}
    (there : m.errands[e]? = some ⟨.conclude k status :: rest, reply?⟩) :
    m.status.kind = Status.converting ∧ ∃ j r, m.jobs[k]? = some j ∧ j.stage = .returned r ∧
      (m.step (.advance e)).status = j.lastStatus r ∧ ¬ (m.step (.advance e)).Underway k := by
  obtain ⟨i, j, busy, mem⟩ := h.converting_of_mem (mem_milestones there List.mem_cons_self rfl)
  obtain ⟨rfl, r, returned, rfl, -⟩ := Job.conclude_mem_due mem
  refine ⟨busy.kind, j, r, busy.there, returned, ?_⟩
  simp only [Manager.step, there, Manager.perform, concludeJob, busy.kind, beq_self_eq_true, ↓reduceIte]
  refine ⟨rfl, ?_⟩
  rintro ⟨j', there', going⟩
  simp only [continueWith, updateErrand, List.getElem?_modify_eq, busy.there] at there'
  cases there'
  exact going rfl

end Stands

end Manager

/-- Whether an act is left to do for a call whose conversion has been let in. -/
def Act.follows : Act → Bool
  | .broadcast .. | .send .. | .note _ | .launch _ | .answer => true
  | _ => false

/-- A call that has been let in: nothing that it has to do can fail. -/
structure Errand.Entered (t : Errand) : Prop where
  todo : ∀ a ∈ t.todo, a.follows = true
  reply : ∀ f, t.reply? ≠ some (.error f)

/-- A call that has not been let in: it is about to ask, or it has been turned away. -/
def Errand.Outside (t : Errand) : Prop :=
  (∃ settings input now, t = { todo := [.begin settings input now] }) ∨ t.todo = []

namespace Manager

variable {m : Manager} {e : Nat} {t : Errand}

/-- The errand changes neither the status nor the conversions at any of its moves. -/
def Inert (e : Nat) (m : Manager) : List Move → Prop
  | [] => True
  | v :: moves =>
    (v = .advance e ∨ v = .giveUp e → (m.step v).status = m.status ∧ (m.step v).jobs = m.jobs) ∧
      Inert e (m.step v) moves

/-- A call that has been let in stays so. -/
theorem entered_step (there : m.errands[e]? = some t) (entered : t.Entered) (v : Move) :
    ∃ t', (m.step v).errands[e]? = some t' ∧ t'.Entered := by
  by_cases giveUp : v = .giveUp e
  · refine ⟨t, ?_, entered⟩
    subst giveUp
    simp only [step, there]
    split
    · rename_i same
      cases same
      exact absurd (entered.todo .await List.mem_cons_self) (by decide)
    · exact there
  by_cases advance : v = .advance e
  · subst advance
    obtain ⟨todo, reply?⟩ := t
    cases todo with
    | nil => exact ⟨_, by simp only [step, there], entered⟩
    | cons a rest =>
      have remaining (acts : List Act) (follow : ∀ b ∈ acts, b.follows = true) : Errand.Entered ⟨acts ++ rest, reply?⟩ := by
        refine ⟨fun b mem => ?_, entered.reply⟩
        rcases List.mem_append.1 mem with mem | mem
        · exact follow b mem
        · exact entered.todo b (List.mem_cons_of_mem a mem)
      simp only [step, there]
      cases a with
      | broadcast want p =>
        exact ⟨_, getElem?_updateErrand_self there _, remaining _ (by simp [Act.follows])⟩
      | send client want p =>
        obtain ⟨sent, same⟩ := m.sendTo_eq client want p
        rw [perform, same]
        exact ⟨_, getElem?_updateErrand_self (m := { m with sent }) there _, remaining [] (by simp)⟩
      | note n => exact ⟨_, getElem?_updateErrand_self (m := m.write n) there _, remaining [] (by simp)⟩
      | launch k =>
        exact ⟨_, getElem?_updateErrand_self (m := { m with jobs := _ }) there _, remaining [] (by simp)⟩
      | answer => exact ⟨_, getElem?_updateErrand_self there _, by simp, by simp⟩
      | begin _ _ _ | conclude _ _ | observe | signal _ | await =>
        exact absurd (entered.todo _ List.mem_cons_self) (by simp [Act.follows])
  · exact ⟨t, getElem?_step_other there advance giveUp, entered⟩

theorem entered_steps (there : m.errands[e]? = some t) (entered : t.Entered) (moves : List Move) :
    ∃ t', (m.steps moves).errands[e]? = some t' ∧ t'.Entered := by
  induction moves generalizing m t with
  | nil => exact ⟨t, there, entered⟩
  | cons v moves ih =>
    obtain ⟨t', there', entered'⟩ := entered_step there entered v
    exact ih there' entered'

/-- A call outside is let in, or its move has changed neither the status nor the conversions. -/
theorem outside_step (there : m.errands[e]? = some t) (outside : t.Outside) (v : Move) :
    ∃ t', (m.step v).errands[e]? = some t' ∧ (t'.Entered ∨ t'.Outside ∧
      (v = .advance e ∨ v = .giveUp e → (m.step v).status = m.status ∧ (m.step v).jobs = m.jobs)) := by
  by_cases own : v = .advance e ∨ v = .giveUp e
  · rcases outside with ⟨settings, input, now, rfl⟩ | nothing
    · rcases own with rfl | rfl
      · simp only [step, there, perform, beginJob]
        split
        · refine ⟨_, getElem?_updateErrand_self (m := { m with status := _, jobs := _ }) there _, Or.inl ⟨?_, ?_⟩⟩
          · simp [Act.follows]
          · simp
        · exact ⟨_, getElem?_updateErrand_self there _, Or.inr ⟨Or.inr rfl, fun _ => ⟨rfl, rfl⟩⟩⟩
      · have same : m.step (.giveUp e) = m := by simp only [step, there]
        rw [same]
        exact ⟨_, there, Or.inr ⟨Or.inl ⟨settings, input, now, rfl⟩, fun _ => ⟨rfl, rfl⟩⟩⟩
    · have same : m.step v = m := by
        obtain ⟨todo, reply?⟩ := t
        subst nothing
        rcases own with rfl | rfl
        · simp only [step, there]
        · simp only [step, there]
      rw [same]
      exact ⟨t, there, Or.inr ⟨Or.inr nothing, fun _ => ⟨rfl, rfl⟩⟩⟩
  · obtain ⟨advance, giveUp⟩ := not_or.1 own
    exact ⟨t, getElem?_step_other there advance giveUp, Or.inr ⟨outside, fun mine => absurd mine own⟩⟩

/-- A call outside that has an error for its reply in the end has been inert all along. -/
theorem inert_of_refused {moves : List Move} {t' : Errand} {f : Failure} (there : m.errands[e]? = some t)
    (outside : t.Outside) (after : (m.steps moves).errands[e]? = some t') (refused : t'.reply? = some (.error f)) :
    m.Inert e moves := by
  induction moves generalizing m t with
  | nil => trivial
  | cons v moves ih =>
    obtain ⟨next, there', entered | ⟨outside', unchanged⟩⟩ := outside_step there outside v
    · obtain ⟨final, there'', entered'⟩ := entered_steps there' entered moves
      rw [show (m.step v).steps moves = m.steps (v :: moves) from rfl, after] at there''
      cases there''
      exact absurd refused (entered'.reply f)
    · exact ⟨unchanged, ih there' outside' after⟩

/-- A request that comes in stands outside, and has changed neither the status nor the conversions. -/
theorem start_outside (m : Manager) (request : Request) (now : Int64) :
    (m.step (.start request now)).status = m.status ∧ (m.step (.start request now)).jobs = m.jobs ∧
      ∃ t, (m.step (.start request now)).errands[m.errands.length]? = some t ∧ t.Outside := by
  simp only [step]
  split
  · exact ⟨rfl, rfl, _, List.getElem?_concat_length, Or.inr rfl⟩
  · exact ⟨rfl, rfl, _, List.getElem?_concat_length, Or.inl ⟨_, _, _, rfl⟩⟩

/-- After any moves of clients, calls and runners the service is converting exactly when one conversion is
under way and idle exactly when none is; the status is of the conversion under way; the last status
of a conversion is put in place while that conversion is under way, and is due to it; and a call to
start that is answered with an error has changed neither the status nor the conversions. -/
theorem steps_exclusive (base : Settings) (moves : List Move) :
    let m := steps { base } moves
    (m.status.kind = Status.converting ↔ ∃! k, m.Underway k) ∧
    (m.status.kind = Status.idle ↔ ∀ k, ¬ m.Underway k) ∧
    (∀ (k : Nat) (j : Job), m.jobs[k]? = some j → j.stage ≠ .concluded →
      m.status.slug = j.settings.slug ∧ m.status.input = j.input) ∧
    (∀ e k status rest reply?, m.errands[e]? = some ⟨.conclude k status :: rest, reply?⟩ →
      m.status.kind = Status.converting ∧ ∃ j r, m.jobs[k]? = some j ∧ j.stage = .returned r ∧
        (m.step (.advance e)).status = j.lastStatus r ∧ ¬ (m.step (.advance e)).Underway k) ∧
    inconsistency ∉ m.journal ∧
    ∀ before request now after, moves = before ++ .start request now :: after →
      let old := steps { base } before
      let called := old.step (.start request now)
      ∀ t f, m.errands[old.errands.length]? = some t → t.reply? = some (.error f) →
        called.status = old.status ∧ called.jobs = old.jobs ∧ called.Inert old.errands.length after := by
  have sound := sound_steps base moves
  refine ⟨sound.exclusive.converting_iff, sound.exclusive.idle_iff, ?_, ?_, sound.orderly.consistent, ?_⟩
  · intro k j there going
    have busy := sound.exclusive.of_underway there going
    exact ⟨busy.slug, busy.input⟩
  · intro e k status rest reply? there
    exact sound.exclusive.conclude there
  · rintro before request now after rfl old called t f final refused
    obtain ⟨status, jobs, errand, there, outside⟩ := start_outside old request now
    refine ⟨status, jobs, inert_of_refused there outside ?_ refused⟩
    rw [steps_append] at final
    exact final

end Manager

/-- The last status that an errand is about to put in place, with its conversion. -/
def Errand.concluding? (t : Errand) : Option (Nat × Status) :=
  match t.todo with
  | .conclude k status :: _ => some (k, status)
  | _ => none

theorem Errand.concluding?_eq_some {t : Errand} {k : Nat} {status : Status} (h : t.concluding? = some (k, status)) :
    ∃ rest, t.todo = .conclude k status :: rest := by
  unfold concluding? at h
  split at h
  · rename_i rest todo
    cases h
    exact ⟨rest, todo⟩
  · cases h

namespace Manager

/-- Two requests come in before either has asked; one is let in, and its runner has been called off. -/
def contest : List Move :=
  [.start { input := Octets.ofString "-", slug := Octets.ofString "a" } 0,
    .start { input := Octets.ofString "-", slug := Octets.ofString "b" } 0,
    .advance 0, .advance 1, .advance 0, .advance 0, .advance 0, .finish 0 (.error .cancelled), .advance 2, .advance 2]

theorem steps_exclusive_contest :
    (steps {} contest).status.kind = Status.converting ∧ (∃! k, (steps {} contest).Underway k) ∧
      (∃ t f, (steps {} contest).errands[1]? = some t ∧ t.reply? = some (.error f) ∧
        (steps {} (contest.take 2)).Inert 1 (contest.drop 2)) ∧
      ∃ status rest reply?, (steps {} contest).errands[2]? = some ⟨.conclude 0 status :: rest, reply?⟩ ∧
        ¬ ((steps {} contest).step (.advance 2)).Underway 0 := by
  obtain ⟨converting, -, -, conclude, -, refused⟩ := steps_exclusive {} contest
  have kind : (steps {} contest).status.kind = Status.converting := by decide +kernel
  refine ⟨kind, converting.1 kind, ?_, ?_⟩
  · have turned : (steps {} contest).errands[1]?.bind (·.reply?) = some (.error busy) := by decide +kernel
    obtain ⟨t, there, reply⟩ := Option.bind_eq_some_iff.1 turned
    exact ⟨t, busy, there, reply, (refused (contest.take 1) _ 0 (contest.drop 2) rfl t busy there reply).2.2⟩
  · have last : ((steps {} contest).errands[2]?.bind (·.concluding?)).map (·.1) = some 0 := by decide +kernel
    obtain ⟨⟨k, status⟩, next, rfl⟩ := Option.map_eq_some_iff.1 last
    obtain ⟨t, there, concluding⟩ := Option.bind_eq_some_iff.1 next
    obtain ⟨rest, todo⟩ := Errand.concluding?_eq_some concluding
    have pending : (steps {} contest).errands[2]? = some ⟨.conclude 0 status :: rest, t.reply?⟩ := by rw [there, ← todo]
    obtain ⟨-, j, r, -, -, -, ended⟩ := conclude 2 0 status rest t.reply? pending
    exact ⟨status, rest, t.reply?, pending, ended⟩

end Manager

end BlitReel
