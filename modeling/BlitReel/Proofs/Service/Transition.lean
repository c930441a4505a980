import Mathlib
import BlitReel.Proofs.Service.Exclusion

/-!
# What a move does to the status and the conversions

`Manager.Transition` lists what one move can do to the status and the conversions of a sound service, and
`Sound.transition` says that every move does one of these things. From this list come the life of a conversion
(`Transition.jobChange`): it is let in, launched, its runner returns, and its last status is put in place; and
that the status is always of the conversion that was let in last (`Latest`).
-/

namespace BlitReel.Manager

variable {m m' : Manager} {v : Move} {k e : Nat} {j j' : Job} {r : Except Failure Manifest}

/-- What a move does to the status and the conversions. -/
inductive Transition (m m' : Manager) : Move → Prop
  | quiet (v : Move) (status : m'.status = m.status) (jobs : m'.jobs = m.jobs) : Transition m m' v
  | enter (e : Nat) (settings : Settings) (input : Octets) (now : Int64) (resting : m.Resting)
      (status : m'.status = startedStatus settings input now m.jobs.length)
      (jobs : m'.jobs = m.jobs ++ [({ settings, input } : Job)]) : Transition m m' (.advance e)
  | launch (e k : Nat) (j : Job) (busy : m.Converting k j) (reserved : j.stage = .reserved)
      (status : m'.status = m.status) (jobs : m'.jobs = m.jobs.modify k ({ · with stage := .running })) :
      Transition m m' (.advance e)
  | signal (e k : Nat) (status : m'.status = m.status)
      (jobs : m'.jobs = m.jobs.modify k ({ · with cancelled := true })) : Transition m m' (.advance e)
  | report (k : Nat) (p : Progress) (status : m'.status = { m.status with written := p.written })
      (jobs : m'.jobs = m.jobs) : Transition m m' (.progress k p)
  | finish (k : Nat) (r : Except Failure Manifest) (j : Job) (busy : m.Converting k j) (running : j.stage = .running)
      (status : m'.status = m.status) (jobs : m'.jobs = m.jobs.modify k ({ · with stage := .returned r })) :
      Transition m m' (.finish k r)
  | conclude (e k : Nat) (j : Job) (r : Except Failure Manifest) (busy : m.Converting k j)
      (returned : j.stage = .returned r) (status : m'.status = j.lastStatus r)
      (jobs : m'.jobs = m.jobs.modify k ({ · with stage := .concluded })) : Transition m m' (.advance e)

theorem Sound.turn_perform (h : m.Sound) {a : Act} {rest : List Act} {reply? : Option (Except Failure Status)}
    (there : m.errands[e]? = some ⟨a :: rest, reply?⟩) : Transition m (m.perform e rest a) (.advance e) := by
  cases a with
  | begin settings input now =>
    simp only [perform, beginJob]
    split
    · rename_i idle
      rcases h.exclusive with resting | ⟨k, j, busy⟩
      · exact .enter e settings input now resting rfl rfl
      · exact absurd (beq_iff_eq.1 idle) busy.kind_ne_idle
    · exact .quiet _ rfl rfl
  | conclude k status =>
    obtain ⟨i, j, busy, mem⟩ := h.exclusive.converting_of_mem (mem_milestones there List.mem_cons_self rfl)
    obtain ⟨rfl, r, returned, rfl, -⟩ := Job.conclude_mem_due mem
    simp only [perform, concludeJob, busy.kind, beq_self_eq_true, ↓reduceIte]
    exact .conclude e k j r busy returned rfl rfl
  | launch k =>
    obtain ⟨i, j, busy, mem⟩ := h.exclusive.converting_of_mem (mem_milestones there List.mem_cons_self rfl)
    obtain ⟨rfl, reserved, -⟩ := Job.launch_mem_due mem
    exact .launch e k j busy reserved rfl rfl
  | send client want p =>
    obtain ⟨sent, same⟩ := m.sendTo_eq client want p
    rw [perform, same]
    exact .quiet _ rfl rfl
  | signal k => exact .signal e k rfl rfl
  | observe =>
    simp only [perform, observeJob]
    split <;> exact .quiet _ rfl rfl
  | await =>
    simp only [perform]
    split <;> exact .quiet _ rfl rfl
  | broadcast _ _ | note _ | answer => exact .quiet _ rfl rfl

/-- Every move of a sound service is one of those listed. -/
theorem Sound.transition (h : m.Sound) (v : Move) : Transition m (m.step v) v := by
  by_cases client : v.isOfClient = true
  · obtain ⟨clients, joined, sent, notes, same, -⟩ := m.step_ofClient client
    rw [same]
    exact .quiet v rfl rfl
  cases v with
  | start request now =>
    simp only [Manager.step]
    split <;> exact .quiet _ rfl rfl
  | cancel => exact .quiet _ rfl rfl
  | advance e =>
    simp only [Manager.step]
    split
    · rename_i there
      exact h.turn_perform there
    · exact .quiet _ rfl rfl
  | giveUp e =>
    simp only [Manager.step]
    split <;> exact .quiet _ rfl rfl
  | progress k p =>
    simp only [Manager.step]
    split
    · exact .report k p rfl rfl
    · exact .quiet _ rfl rfl
  | finish k r =>
    simp only [Manager.step]
    split
    · rename_i j there
      split
      · rename_i running
        have stage : j.stage = .running := by
          cases stage : j.stage <;> simp_all [JobStage.isRunning]
        exact .finish k r j (h.exclusive.of_underway there (by simp [stage])) stage rfl rfl
      · exact .quiet _ rfl rfl
    · exact .quiet _ rfl rfl
  | connect | hear _ _ | disconnect _ _ => exact absurd rfl client

/-- Where a conversion comes from by a move: it is new, or it was there and has kept its stage or reached the
next one. -/
inductive JobChange (m m' : Manager) (v : Move) (k : Nat) (j' : Job) : Prop
  | new (last : k = m.jobs.length) (stage : j'.stage = .reserved)
  | kept (j : Job) (there : m.jobs[k]? = some j) (same : j'.settings = j.settings ∧ j'.input = j.input)
      (stage : j'.stage = j.stage)
  | launched (j : Job) (there : m.jobs[k]? = some j) (same : j'.settings = j.settings ∧ j'.input = j.input)
      (reserved : j.stage = .reserved) (stage : j'.stage = .running)
  | returned (j : Job) (there : m.jobs[k]? = some j) (same : j'.settings = j.settings ∧ j'.input = j.input)
      (r : Except Failure Manifest) (move : v = .finish k r) (running : j.stage = .running)
      (stage : j'.stage = .returned r)
  | concluded (j : Job) (there : m.jobs[k]? = some j) (same : j'.settings = j.settings ∧ j'.input = j.input)
      (r : Except Failure Manifest) (e : Nat) (move : v = .advance e) (returned : j.stage = .returned r)
      (stage : j'.stage = .concluded) (status : m'.status = j.lastStatus r)

/-- A conversion in a list of which one was changed. -/
theorem getElem?_modify_cases {jobs : List Job} {f : Job → Job} {i : Nat} (found : (jobs.modify i f)[k]? = some j') :
    ∃ j, jobs[k]? = some j ∧ (i = k ∧ j' = f j ∨ i ≠ k ∧ j' = j) := by
  rw [List.getElem?_modify] at found
  obtain ⟨j, there, changed⟩ := Option.map_eq_some_iff.1 found
  refine ⟨j, there, ?_⟩
  by_cases same : i = k
  · exact Or.inl ⟨same, by simpa [same] using changed.symm⟩
  · exact Or.inr ⟨same, by simpa [same] using changed.symm⟩

theorem Transition.jobChange (transition : Transition m m' v) (there' : m'.jobs[k]? = some j') :
    JobChange m m' v k j' := by
  cases transition with
  | quiet v status jobs =>
    rw [jobs] at there'
    exact .kept j' there' ⟨rfl, rfl⟩ rfl
  | report i p status jobs =>
    rw [jobs] at there'
    exact .kept j' there' ⟨rfl, rfl⟩ rfl
  | enter e settings input now resting status jobs =>
    rw [jobs, List.getElem?_append] at there'
    split at there'
    · exact .kept j' there' ⟨rfl, rfl⟩ rfl
    · rename_i outside
      obtain ⟨inside, rfl⟩ := List.getElem?_eq_some_iff.1 there'
      simp only [List.length_cons, List.length_nil] at inside
      refine .new (by omega) ?_
      simp
  | launch e i j₀ busy reserved status jobs =>
    rw [jobs] at there'
    obtain ⟨j, there, ⟨rfl, rfl⟩ | ⟨-, rfl⟩⟩ := getElem?_modify_cases there'
    · obtain rfl : j₀ = j := by simpa [there] using busy.there.symm
      exact .launched j₀ there ⟨rfl, rfl⟩ reserved rfl
    · exact .kept j' there ⟨rfl, rfl⟩ rfl
  | signal e i status jobs =>
    rw [jobs] at there'
    obtain ⟨j, there, ⟨rfl, rfl⟩ | ⟨-, rfl⟩⟩ := getElem?_modify_cases there'
    · exact .kept j there ⟨rfl, rfl⟩ rfl
    · exact .kept j' there ⟨rfl, rfl⟩ rfl
  | finish i r j₀ busy running status jobs =>
    rw [jobs] at there'
    obtain ⟨j, there, ⟨rfl, rfl⟩ | ⟨-, rfl⟩⟩ := getElem?_modify_cases there'
    · obtain rfl : j₀ = j := by simpa [there] using busy.there.symm
      exact .returned j₀ there ⟨rfl, rfl⟩ r rfl running rfl
    · exact .kept j' there ⟨rfl, rfl⟩ rfl
  | conclude e i j₀ r busy returned status jobs =>
    rw [jobs] at there'
    obtain ⟨j, there, ⟨rfl, rfl⟩ | ⟨-, rfl⟩⟩ := getElem?_modify_cases there'
    · obtain rfl : j₀ = j := by simpa [there] using busy.there.symm
      exact .concluded j₀ there ⟨rfl, rfl⟩ r e rfl returned rfl status
    · exact .kept j' there ⟨rfl, rfl⟩ rfl

/-- A conversion that is not new had the same settings and the same input before. -/
theorem JobChange.origin (h : JobChange m m' v k j') :
    k = m.jobs.length ∨ ∃ j, m.jobs[k]? = some j ∧ j'.settings = j.settings ∧ j'.input = j.input := by
  cases h with
  | new last => exact Or.inl last
  | kept j there same | launched j there same | returned j there same | concluded j there same =>
    exact Or.inr ⟨j, there, same⟩

/-- No conversion is forgotten. -/
theorem Transition.length_le (transition : Transition m m' v) : m.jobs.length ≤ m'.jobs.length := by
  cases transition with
  | enter e settings input now resting status jobs =>
    rw [jobs, List.length_append]
    omega
  | quiet _ _ jobs | report _ _ _ jobs => rw [jobs]
  | launch _ _ _ _ _ _ jobs | signal _ _ _ jobs | finish _ _ _ _ _ _ jobs | conclude _ _ _ _ _ _ _ jobs =>
    rw [jobs, List.length_modify]

theorem steps_snoc (m : Manager) (moves : List Move) (v : Move) : m.steps (moves ++ [v]) = (m.steps moves).step v :=
  steps_append m moves [v]

theorem Sound.length_jobs_le (h : m.Sound) (moves : List Move) : m.jobs.length ≤ (m.steps moves).jobs.length := by
  induction moves generalizing m with
  | nil => exact Nat.le_refl _
  | cons v moves ih => exact (h.transition v).length_le.trans (ih (h.step v))

/-- A conversion keeps its settings and its input. -/
theorem Transition.getElem?_jobs (transition : Transition m m' v) (there : m.jobs[k]? = some j) :
    ∃ j', m'.jobs[k]? = some j' ∧ j'.settings = j.settings ∧ j'.input = j.input := by
  obtain ⟨inside, -⟩ := List.getElem?_eq_some_iff.1 there
  have there' := List.getElem?_eq_getElem (inside.trans_le transition.length_le)
  rcases (transition.jobChange there').origin with outside | ⟨j₀, there₀, same⟩
  · omega
  · obtain rfl : j = j₀ := Option.some.inj (there.symm.trans there₀)
    exact ⟨_, there', same⟩

theorem Sound.getElem?_jobs_steps (h : m.Sound) (there : m.jobs[k]? = some j) (moves : List Move) :
    ∃ j', (m.steps moves).jobs[k]? = some j' ∧ j'.settings = j.settings ∧ j'.input = j.input := by
  induction moves using List.reverseRecOn with
  | nil => exact ⟨j, there, rfl, rfl⟩
  | append_singleton moves v ih =>
    obtain ⟨j₁, there₁, settings, input⟩ := ih
    obtain ⟨j₂, there₂, settings', input'⟩ := ((h.steps moves).transition v).getElem?_jobs there₁
    rw [steps_snoc]
    exact ⟨j₂, there₂, settings'.trans settings, input'.trans input⟩

section History

variable {base : Settings} {moves : List Move}

/-- A move among some moves and one more is the last one or among the others. -/
theorem snoc_eq_append_cons {made after : List Move} {w : Move} : moves ++ [v] = made ++ w :: after ↔
    after = [] ∧ made = moves ∧ w = v ∨ ∃ front, after = front ++ [v] ∧ moves = made ++ w :: front := by
  constructor
  · intro split
    rcases List.eq_nil_or_concat' after with rfl | ⟨front, last, rfl⟩
    · obtain ⟨rfl, same⟩ := List.append_inj' split rfl
      cases same
      exact Or.inl ⟨rfl, rfl, rfl⟩
    · rw [← List.cons_append, ← List.append_assoc] at split
      obtain ⟨rfl, same⟩ := List.append_inj' split rfl
      cases same
      exact Or.inr ⟨front, rfl, rfl⟩
  · rintro (⟨rfl, rfl, rfl⟩ | ⟨front, rfl, rfl⟩)
    · rfl
    · simp

/-- During these moves the runner of a conversion, which was at work, has returned with this outcome. -/
def HasReturned (m : Manager) (moves : List Move) (k : Nat) (r : Except Failure Manifest) : Prop :=
  ∃ before after j, moves = before ++ .finish k r :: after ∧ (m.steps before).jobs[k]? = some j ∧ j.stage = .running

/-- During these moves the runner of a conversion has returned, and later the last status that is due to it was
put in place. -/
def HasEnded (m : Manager) (moves : List Move) (k : Nat) : Prop :=
  ∃ before e after r j, moves = before ++ .advance e :: after ∧ m.HasReturned before k r ∧
    (m.steps before).jobs[k]? = some j ∧ (m.steps (before ++ [.advance e])).status = j.lastStatus r

theorem HasReturned.append (h : m.HasReturned moves k r) (more : List Move) : m.HasReturned (moves ++ more) k r := by
  obtain ⟨before, after, j, rfl, there, running⟩ := h
  exact ⟨before, after ++ more, j, by simp, there, running⟩

theorem HasEnded.append (h : m.HasEnded moves k) (more : List Move) : m.HasEnded (moves ++ more) k := by
  obtain ⟨before, e, after, r, j, rfl, rest⟩ := h
  exact ⟨before, e, after ++ more, r, j, by simp, rest⟩

/-- When the moves `made` have been made, the first ones of `moves`, the errand does this act. -/
def Does (m : Manager) (e : Nat) (moves made : List Move) (a : Act) : Prop :=
  (∃ after, moves = made ++ .advance e :: after) ∧ ∃ rest reply?, (m.steps made).errands[e]? = some ⟨a :: rest, reply?⟩

/-- What an errand has done by one more move. -/
theorem does_snoc {made : List Move} {a : Act} : m.Does e (moves ++ [v]) made a ↔ m.Does e moves made a ∨
    made = moves ∧ v = .advance e ∧ ∃ rest reply?, (m.steps moves).errands[e]? = some ⟨a :: rest, reply?⟩ := by
  constructor
  · rintro ⟨⟨after, split⟩, there⟩
    rcases snoc_eq_append_cons.1 split with ⟨-, rfl, rfl⟩ | ⟨front, -, rfl⟩
    · exact Or.inr ⟨rfl, rfl, there⟩
    · exact Or.inl ⟨⟨front, rfl⟩, there⟩
  · rintro (⟨⟨after, rfl⟩, there⟩ | ⟨rfl, rfl, there⟩)
    · exact ⟨⟨after ++ [v], by simp⟩, there⟩
    · exact ⟨⟨[], rfl⟩, there⟩

/-- An errand that has not come in has done nothing. -/
theorem not_does_of_length {made : List Move} {a : Act} (m : Manager) (moves : List Move) :
    ¬ m.Does (m.steps moves).errands.length moves made a := by
  rintro ⟨⟨after, split⟩, rest, reply?, there⟩
  obtain ⟨inside, -⟩ := List.getElem?_eq_some_iff.1 there
  have later := length_errands_steps (m.steps made) (.advance (m.steps moves).errands.length :: after)
  rw [← steps_append, ← split] at later
  omega

/-- The stage of a conversion tells what has happened to it. -/
theorem history_of_stage (there : (steps { base } moves).jobs[k]? = some j) :
    (∀ r, j.stage = .returned r → HasReturned { base } moves k r) ∧
      (j.stage = .concluded → HasEnded { base } moves k) := by
  induction moves using List.reverseRecOn generalizing j with
  | nil => cases there
  | append_singleton moves v ih =>
    rw [steps_snoc] at there
    cases ((sound_steps base moves).transition v).jobChange there with
    | new _ stage => simp [stage]
    | kept j₀ there₀ _ stage =>
      obtain ⟨returned, ended⟩ := ih there₀
      rw [stage]
      exact ⟨fun r same => (returned r same).append [v], fun same => (ended same).append [v]⟩
    | launched _ _ _ _ stage => simp [stage]
    | returned j₀ there₀ _ r move running stage =>
      refine ⟨?_, by simp [stage]⟩
      intro r' same
      rw [stage, JobStage.returned.injEq] at same
      subst same move
      exact ⟨moves, [], j₀, rfl, there₀, running⟩
    | concluded j₀ there₀ _ r e move returned stage status =>
      refine ⟨by simp [stage], fun _ => ?_⟩
      subst move
      refine ⟨moves, e, [], r, j₀, rfl, (ih there₀).1 r returned, there₀, ?_⟩
      rw [steps_snoc]
      exact status

end History

/-- A conversion that is under way after a move was so before, or has just been let in. -/
theorem Transition.underway (transition : Transition m m' v) (underway : m'.Underway k) :
    m.Underway k ∨ k = m.jobs.length := by
  obtain ⟨j', there', going⟩ := underway
  cases transition.jobChange there' with
  | new last _ => exact Or.inr last
  | kept j there _ stage => exact Or.inl ⟨j, there, by rwa [← stage]⟩
  | launched j there _ reserved _ => exact Or.inl ⟨j, there, by simp [reserved]⟩
  | returned j there _ r _ running _ => exact Or.inl ⟨j, there, by simp [running]⟩
  | concluded _ _ _ _ _ _ _ stage _ => exact absurd stage going

/-- A move that lets no conversion in leaves the last one as to its settings and its input. -/
theorem Transition.getLast? (transition : Transition m m' v) (length : m'.jobs.length = m.jobs.length)
    (last : m'.jobs.getLast? = some j') :
    ∃ j, m.jobs.getLast? = some j ∧ j'.settings = j.settings ∧ j'.input = j.input := by
  rw [List.getLast?_eq_getElem?, length] at last
  obtain ⟨inside, -⟩ := List.getElem?_eq_some_iff.1 last
  simp only [List.getLast?_eq_getElem?]
  rcases (transition.jobChange last).origin with outside | old
  · omega
  · exact old

/-- Only the conversion that was let in last can be under way, and the status is of that conversion. -/
structure Latest (m : Manager) : Prop where
  last : ∀ k, m.Underway k → k + 1 = m.jobs.length
  pointed : m.status.kind = Status.converting → m.status.job?.map (· + 1) = some m.jobs.length
  described : ∀ j, m.jobs.getLast? = some j → m.status.slug = j.settings.slug ∧ m.status.input = j.input

namespace Latest

theorem last_of_transition (h : m.Latest) (transition : Transition m m' v) (length : m'.jobs.length = m.jobs.length)
    (underway : m'.Underway k) : k + 1 = m'.jobs.length := by
  obtain ⟨j', there', -⟩ := id underway
  obtain ⟨inside, -⟩ := List.getElem?_eq_some_iff.1 there'
  rcases transition.underway underway with old | new
  · rw [length, h.last k old]
  · omega

/-- A move that lets no conversion in and leaves the status but for the count of frames. -/
theorem counted (h : m.Latest) (transition : Transition m m' v) (length : m'.jobs.length = m.jobs.length)
    {written : Int64} (status : m'.status = { m.status with written }) : m'.Latest := by
  refine ⟨fun k => h.last_of_transition transition length, ?_, ?_⟩
  · rw [status, length]
    exact h.pointed
  · intro j' last
    obtain ⟨j, there, settings, input⟩ := transition.getLast? length last
    rw [status, settings, input]
    exact h.described j there

theorem enter (resting : m.Resting) (transition : Transition m m' v) {settings : Settings} {input : Octets}
    {now : Int64} (status : m'.status = startedStatus settings input now m.jobs.length)
    (jobs : m'.jobs = m.jobs ++ [({ settings, input } : Job)]) : m'.Latest := by
  have length : m'.jobs.length = m.jobs.length + 1 := by rw [jobs, List.length_append, List.length_singleton]
  refine ⟨?_, ?_, ?_⟩
  · intro k underway
    rcases transition.underway underway with ⟨j, there, going⟩ | new
    · exact absurd (resting.concluded k j there) going
    · rw [new, length]
  · intro _
    rw [status, length]
    rfl
  · intro j last
    rw [jobs, List.getLast?_concat] at last
    cases last
    rw [status]
    exact ⟨rfl, rfl⟩

theorem conclude (h : m.Latest) (transition : Transition m m' v) (length : m'.jobs.length = m.jobs.length)
    (busy : m.Converting k j)
    (status : m'.status = j.lastStatus r) : m'.Latest := by
  have final : (j.lastStatus r).kind = Status.idle ∧ (j.lastStatus r).slug = j.settings.slug ∧
      (j.lastStatus r).input = j.input := by
    cases r <;> exact ⟨rfl, rfl, rfl⟩
  refine ⟨fun k => h.last_of_transition transition length, ?_, ?_⟩
  · intro kind
    rw [status, final.1] at kind
    exact absurd kind (by decide)
  · intro j' last
    obtain ⟨j₀, there, settings, input⟩ := transition.getLast? length last
    have index : m.jobs.length - 1 = k := by
      have := h.last k ⟨j, busy.there, busy.going⟩
      omega
    rw [List.getLast?_eq_getElem?, index, busy.there] at there
    cases there
    rw [status, settings, input]
    exact final.2

theorem transition (h : m.Latest) (transition : Transition m m' v) : m'.Latest := by
  have modified {i : Nat} {f : Job → Job} (jobs : m'.jobs = m.jobs.modify i f) : m'.jobs.length = m.jobs.length := by
    rw [jobs, List.length_modify]
  cases id transition with
  | quiet _ status jobs => exact h.counted transition (by rw [jobs]) status
  | report _ p status jobs => exact h.counted transition (by rw [jobs]) status
  | launch _ _ _ _ _ status jobs => exact h.counted transition (modified jobs) status
  | signal _ _ status jobs => exact h.counted transition (modified jobs) status
  | finish _ _ _ _ _ status jobs => exact h.counted transition (modified jobs) status
  | enter _ _ _ _ resting status jobs => exact enter resting transition status jobs
  | conclude _ _ _ _ busy _ status jobs => exact h.conclude transition (modified jobs) busy status

/-- The conversion to which the status points is the one under way. -/
theorem underway_iff (h : m.Latest) (exclusive : m.Exclusive) (kind : m.status.kind = Status.converting) (i : Nat) :
    m.Underway i ↔ m.status.job? = some i := by
  obtain ⟨k, underway, unique⟩ := exclusive.converting_iff.1 kind
  have pointed := h.pointed kind
  rw [← h.last k underway, Option.map_eq_some_iff] at pointed
  obtain ⟨i', job, same⟩ := pointed
  obtain rfl : i' = k := by omega
  rw [job, Option.some.injEq]
  constructor
  · exact fun other => (unique i other).symm
  · rintro rfl
    exact underway

end Latest

theorem latest_steps (base : Settings) (moves : List Move) : (steps { base } moves).Latest := by
  induction moves using List.reverseRecOn with
  | nil =>
    refine ⟨?_, ?_, ?_⟩
    · rintro k ⟨j, there, -⟩
      cases there
    · intro kind
      have idle : Status.idle ≠ Status.converting := by decide
      exact absurd kind idle
    · intro j last
      cases last
  | append_singleton moves v ih =>
    rw [steps_snoc]
    exact ih.transition ((sound_steps base moves).transition v)

end BlitReel.Manager
