import Mathlib
import BlitReel.Proofs.Service.Publication
import BlitReel.Proofs.Service.Transition

/-!
# What a call to start returns

A call to start puts the status of its conversion in place, launches the conversion and then reads the
status once more to return it. By then its conversion may have ended and another one may have been let
in, so what it returns is of the conversion that was let in last (`start_returns_latest`): its own,
unless another one has come between.

`StartProgress` says how far a call has come, and `StartProgress.step` that every move keeps this.
-/

namespace BlitReel.Manager

variable {m : Manager} {v : Move} {e k : Nat} {j : Job} {t : Errand} {moves made : List Move}

/-- The settings of the service never change. -/
theorem base_steps (m : Manager) (moves : List Move) : (m.steps moves).base = m.base := by
  induction moves using List.reverseRecOn with
  | nil => rfl
  | append_singleton moves v ih =>
    rw [steps_snoc, ← ih]
    cases own : v.isOfClient with
    | true =>
      obtain ⟨clients, joined, sent, notes, same, -⟩ := (m.steps moves).step_ofClient own
      rw [same]
    | false =>
      obtain ⟨status, jobs, errands, sent, journal, same⟩ := (m.steps moves).step_eq own
      rw [same]

/-- When the moves `made` have been made, the errand lets in a conversion with these settings and this input. -/
def LetsIn (m : Manager) (e : Nat) (moves made : List Move) (settings : Settings) (input : Octets) (now : Int64) : Prop :=
  m.Does e moves made (.begin settings input now) ∧
    (m.steps (made ++ [.advance e])).status = startedStatus settings input now (m.steps made).jobs.length ∧
    (m.steps (made ++ [.advance e])).jobs = (m.steps made).jobs ++ [({ settings, input } : Job)]

/-- How far a call to start has come by these moves. -/
inductive StartProgress (m : Manager) (e : Nat) (request : Request) (now : Int64) (moves : List Move) : Errand → Prop
  | asking (settings : Settings) (accepted : request.accept m.base = .ok settings) :
      StartProgress m e request now moves { todo := [.begin settings request.input now] }
  | turnedAway (f : Failure) : StartProgress m e request now moves { reply? := some (.error f) }
  | entered (made : List Move) (letIn : m.LetsIn e moves made (request.apply m.base) request.input now) (acts : List Act)
      (onward : ∀ a ∈ acts, a.follows = true ∧ a.mayAnswer = false) :
      StartProgress m e request now moves { todo := acts ++ [.answer] }
  | answered (made between : List Move) (letIn : m.LetsIn e moves made (request.apply m.base) request.input now)
      (answers : m.Does e moves (made ++ .advance e :: between) .answer) :
      StartProgress m e request now moves { reply? := some (.ok (m.steps (made ++ .advance e :: between)).status) }

theorem LetsIn.snoc {settings : Settings} {input : Octets} {now : Int64} (h : m.LetsIn e moves made settings input now)
    (v : Move) : m.LetsIn e (moves ++ [v]) made settings input now :=
  ⟨does_snoc.2 (Or.inl h.1), h.2⟩

/-- A call that has been let in goes on to what it has to do next. -/
theorem getElem?_perform_onward {a : Act} {rest : List Act} {reply? : Option (Except Failure Status)}
    (there : m.errands[e]? = some ⟨a :: rest, reply?⟩) (follows : a.follows = true) (silent : a.mayAnswer = false) :
    ∃ acts : List Act, (∀ b ∈ acts, b.follows = true ∧ b.mayAnswer = false) ∧
      (m.perform e rest a).errands[e]? = some ⟨acts ++ rest, reply?⟩ := by
  cases a with
  | broadcast want p => exact ⟨_, by simp [Act.follows, Act.mayAnswer], getElem?_updateErrand_self there _⟩
  | send client want p =>
    obtain ⟨sent, same⟩ := m.sendTo_eq client want p
    rw [perform, same]
    exact ⟨[], by simp, getElem?_updateErrand_self (m := { m with sent }) there _⟩
  | note n => exact ⟨[], by simp, getElem?_updateErrand_self (m := m.write n) there _⟩
  | launch k => exact ⟨[], by simp, getElem?_updateErrand_self (m := { m with jobs := _ }) there _⟩
  | answer => cases silent
  | begin _ _ _ | conclude _ _ | observe | signal _ | await => cases follows

namespace StartProgress

variable {request : Request} {now : Int64}

theorem extend (progress : StartProgress m e request now moves t) (v : Move) :
    StartProgress m e request now (moves ++ [v]) t := by
  cases progress with
  | asking settings accepted => exact .asking settings accepted
  | turnedAway f => exact .turnedAway f
  | entered made letIn acts onward => exact .entered made (letIn.snoc v) acts onward
  | answered made between letIn answers => exact .answered made between (letIn.snoc v) (does_snoc.2 (Or.inl answers))

/-- A call asks: its conversion is let in, or it is turned away. -/
theorem ask {settings : Settings} (accepted : request.accept m.base = .ok settings)
    (there : (m.steps moves).errands[e]? = some { todo := [.begin settings request.input now] }) :
    ∃ t, (m.steps (moves ++ [.advance e])).errands[e]? = some t ∧
      StartProgress m e request now (moves ++ [.advance e]) t := by
  obtain ⟨-, rfl, -⟩ := Request.accept_eq_ok_iff.1 accepted
  have does : m.Does e (moves ++ [.advance e]) moves (.begin (request.apply m.base) request.input now) :=
    does_snoc.2 (Or.inr ⟨rfl, rfl, _, _, there⟩)
  have made : m.steps (moves ++ [.advance e]) =
      (m.steps moves).beginJob e (request.apply m.base) request.input now [] := by
    rw [steps_snoc]
    simp only [Manager.step, there, perform]
  unfold beginJob at made
  split at made
  · have letIn : m.LetsIn e (moves ++ [.advance e]) moves (request.apply m.base) request.input now := by
      refine ⟨does, ?_, ?_⟩
      · rw [made]
        rfl
      · rw [made]
        rfl
    rw [made]
    exact ⟨_, getElem?_updateErrand_self (m := { m.steps moves with status := _, jobs := _ }) there _,
      .entered moves letIn [_, _, _] (by simp [Act.follows, Act.mayAnswer])⟩
  · rw [made]
    exact ⟨_, getElem?_updateErrand_self there _, .turnedAway busy⟩

/-- A call that has been let in does its next act, and the last one answers it. -/
theorem proceed (letIn : m.LetsIn e moves made (request.apply m.base) request.input now) {acts : List Act}
    (onward : ∀ a ∈ acts, a.follows = true ∧ a.mayAnswer = false)
    (there : (m.steps moves).errands[e]? = some { todo := acts ++ [.answer] }) :
    ∃ t, (m.steps (moves ++ [.advance e])).errands[e]? = some t ∧
      StartProgress m e request now (moves ++ [.advance e]) t := by
  have letIn' := letIn.snoc (.advance e)
  rw [steps_snoc]
  cases acts with
  | nil =>
    obtain ⟨between, rfl⟩ := letIn.1.1
    refine ⟨_, ?_, .answered made between letIn' (does_snoc.2 (Or.inr ⟨rfl, rfl, [], none, there⟩))⟩
    simp only [Manager.step, List.nil_append, there, perform]
    exact getElem?_updateErrand_self there _
  | cons a acts =>
    obtain ⟨follows, silent⟩ := onward a List.mem_cons_self
    rw [List.cons_append] at there
    obtain ⟨more, new, there'⟩ := getElem?_perform_onward there follows silent
    rw [← List.append_assoc] at there'
    refine ⟨{ todo := more ++ acts ++ [.answer] }, ?_, .entered made letIn' (more ++ acts) ?_⟩
    · simp only [Manager.step, there]
      exact there'
    · intro b mem
      rcases List.mem_append.1 mem with mem | mem
      · exact new b mem
      · exact onward b (List.mem_cons_of_mem a mem)

/-- Every move keeps how far a call has come. -/
theorem step (progress : StartProgress m e request now moves t) (there : (m.steps moves).errands[e]? = some t)
    (v : Move) :
    ∃ t', (m.steps (moves ++ [v])).errands[e]? = some t' ∧ StartProgress m e request now (moves ++ [v]) t' := by
  -- A move that leaves the errand as it is.
  have idle (same : ((m.steps moves).step v).errands[e]? = some t) :
      ∃ t', (m.steps (moves ++ [v])).errands[e]? = some t' ∧ StartProgress m e request now (moves ++ [v]) t' := by
    refine ⟨t, ?_, progress.extend v⟩
    rw [steps_snoc, same]
  by_cases advance : v = .advance e
  · subst advance
    cases progress with
    | asking settings accepted => exact ask accepted there
    | entered made letIn acts onward => exact proceed letIn onward there
    | turnedAway | answered => exact idle (by simp only [Manager.step, there])
  by_cases giveUp : v = .giveUp e
  · -- Nothing that a call to start has to do can be given up.
    subst giveUp
    apply idle
    cases progress with
    | entered made letIn acts onward =>
      cases acts with
      | nil => simp only [Manager.step, List.nil_append, there]
      | cons a acts =>
        simp only [Manager.step, there]
        split
        · rename_i same
          cases same
          exact absurd (onward .await List.mem_cons_self).1 (by decide)
        · exact there
    | asking | turnedAway | answered => simp only [Manager.step, there]
  · exact idle (getElem?_step_other there advance giveUp)

end StartProgress

/-- How far a call to start has come since it came in. -/
theorem startProgress_steps (base : Settings) (before after : List Move) (request : Request) (now : Int64) :
    ∃ t,
      (steps { base } (before ++ [.start request now] ++ after)).errands[(steps { base } before).errands.length]? =
        some t ∧
      StartProgress { base } (steps { base } before).errands.length request now
        (before ++ [.start request now] ++ after) t := by
  induction after using List.reverseRecOn with
  | nil =>
    rw [List.append_nil, steps_snoc]
    simp only [step, base_steps]
    split
    · exact ⟨_, List.getElem?_concat_length, .turnedAway _⟩
    · rename_i settings accepted
      exact ⟨_, List.getElem?_concat_length, .asking settings accepted⟩
  | append_singleton after v ih =>
    obtain ⟨t, there, progress⟩ := ih
    rw [← List.append_assoc]
    exact progress.step there v

/-- Whatever else happens meanwhile, a call to start that returns a status has let in a conversion of its own, with
the settings and the input that it asked for, and the status is of the conversion that was let in last when the call
was answered. So the status is of what the call asked for exactly when that conversion has the same slug and the same
input; and it has, if none has been let in after its own. -/
theorem start_returns_latest (base : Settings) (before after : List Move) (request : Request) (now : Int64) :
    let m : Manager := { base }
    let moves := before ++ [.start request now] ++ after
    let e := (m.steps before).errands.length
    ∀ (t : Errand) (s : Status), (m.steps moves).errands[e]? = some t → t.reply? = some (.ok s) →
      ∃ (made between : List Move) (j : Job), m.LetsIn e moves made (request.apply base) request.input now ∧
        m.Does e moves (made ++ .advance e :: between) .answer ∧
        s = (m.steps (made ++ .advance e :: between)).status ∧
        (m.steps (made ++ .advance e :: between)).jobs.getLast? = some j ∧
        (s.input = request.input ∧ s.slug = (request.apply base).slug ↔
          j.input = request.input ∧ j.settings.slug = (request.apply base).slug) ∧
        ((m.steps (made ++ .advance e :: between)).jobs.length = (m.steps made).jobs.length + 1 →
          j.input = request.input ∧ j.settings = request.apply base) := by
  intro m moves e t s final returned
  obtain ⟨t', there, progress⟩ := startProgress_steps base before after request now
  obtain rfl : t = t' := Option.some.inj (final.symm.trans there)
  cases progress with
  | asking | turnedAway | entered => cases returned
  | answered made between letIn answers =>
    cases returned
    obtain ⟨-, -, jobs⟩ := id letIn
    have split : made ++ .advance e :: between = made ++ [.advance e] ++ between := by simp
    -- The conversion of the call is still in its place, so there is a last one.
    have own : (m.steps (made ++ [.advance e])).jobs[(m.steps made).jobs.length]? =
        some { settings := request.apply base, input := request.input } := by
      rw [jobs, List.getElem?_concat_length]
    obtain ⟨j', there', settings, input⟩ := (sound_steps base (made ++ [.advance e])).getElem?_jobs_steps own between
    rw [← steps_append, ← split] at there'
    obtain ⟨inside, -⟩ := List.getElem?_eq_some_iff.1 there'
    obtain ⟨j, last⟩ : ∃ j, (m.steps (made ++ .advance e :: between)).jobs.getLast? = some j := by
      rw [List.getLast?_eq_getElem?]
      have present : (m.steps (made ++ .advance e :: between)).jobs.length - 1 <
          (m.steps (made ++ .advance e :: between)).jobs.length := Nat.sub_lt (Nat.zero_lt_of_lt inside) Nat.one_pos
      exact ⟨_, List.getElem?_eq_getElem present⟩
    obtain ⟨slug, same⟩ := (latest_steps base (made ++ .advance e :: between)).described j last
    refine ⟨made, between, j, letIn, answers, rfl, last, ?_, ?_⟩
    · rw [same, slug]
    · intro alone
      have index : (m.steps (made ++ .advance e :: between)).jobs.length - 1 = (m.steps made).jobs.length := by omega
      rw [List.getLast?_eq_getElem?, index] at last
      obtain rfl : j' = j := Option.some.inj (there'.symm.trans last)
      exact ⟨input, settings⟩

/-- A request for a conversion. -/
def asked : Request := { input := Octets.ofString "a.webm", slug := Octets.ofString "a" }

/-- A request of another client. -/
def rival : Request := { input := Octets.ofString "b.webm", slug := Octets.ofString "b" }

/-- A client is there. -/
def arrived : List Move := [.connect]

/-- The conversion of the first call is launched and ends before the call is answered. -/
def ended : List Move :=
  [.advance 0, .advance 0, .advance 0, .advance 0, .advance 0, .finish 0 (.error .cancelled), .advance 1, .advance 1,
    .advance 1, .advance 1]

/-- The first call is answered after its conversion has ended. -/
def late : List Move := ended ++ [.advance 0]

/-- The first call is answered after its conversion has ended and that of another call has been let in. -/
def outpaced : List Move := ended ++ [.start rival 0, .advance 2, .advance 0]

theorem start_returns_latest_late :
    ∃ (t : Errand) (s : Status) (made between : List Move) (j : Job),
      (steps {} (arrived ++ [.start asked 0] ++ late)).errands[0]? = some t ∧
      t.reply? = some (.ok s) ∧ s.kind = Status.idle ∧ s.slug = asked.slug ∧
      LetsIn {} 0 (arrived ++ [.start asked 0] ++ late) made (asked.apply {}) asked.input 0 ∧
      (steps {} (made ++ .advance 0 :: between)).jobs.getLast? = some j ∧ j.input = asked.input := by
  have number : (steps {} arrived).errands.length = 0 := rfl
  have answer : ((steps {} (arrived ++ [.start asked 0] ++ late)).errands[0]?.bind (·.returned?)).map
      (fun s => (s.kind, s.slug, s.input)) = some (Status.idle, asked.slug, asked.input) := by decide +kernel
  obtain ⟨s, returned, same⟩ := Option.map_eq_some_iff.1 answer
  obtain ⟨t, there, reply⟩ := Option.bind_eq_some_iff.1 returned
  rw [Errand.returned?_eq_some_iff] at reply
  simp only [Prod.mk.injEq] at same
  obtain ⟨kind, slug, input⟩ := same
  have spec := start_returns_latest {} arrived late asked 0 t s
  simp only [number] at spec
  obtain ⟨made, between, j, letIn, -, -, last, same, -⟩ := spec there reply
  exact ⟨t, s, made, between, j, there, reply, kind, slug, letIn, last, (same.1 ⟨input, slug⟩).1⟩

/-- A call to start may return the status of what another client has asked for. -/
theorem start_returns_rival :
    ∃ (t : Errand) (s : Status), (steps {} (arrived ++ [.start asked 0] ++ outpaced)).errands[0]? = some t ∧
      t.reply? = some (.ok s) ∧ s.input = rival.input ∧ s.slug = (rival.apply {}).slug ∧
      ¬ (s.input = asked.input ∨ s.slug = (asked.apply {}).slug) := by
  have answer : ((steps {} (arrived ++ [.start asked 0] ++ outpaced)).errands[0]?.bind (·.returned?)).map
      (fun s => (s.input, s.slug)) = some (rival.input, (rival.apply {}).slug) := by decide +kernel
  have differ : ¬ (rival.input = asked.input ∨ (rival.apply {}).slug = (asked.apply {}).slug) := by decide +kernel
  obtain ⟨s, returned, same⟩ := Option.map_eq_some_iff.1 answer
  obtain ⟨t, there, reply⟩ := Option.bind_eq_some_iff.1 returned
  simp only [Prod.mk.injEq] at same
  obtain ⟨input, slug⟩ := same
  refine ⟨t, s, there, Errand.returned?_eq_some_iff.1 reply, input, slug, ?_⟩
  rw [input, slug]
  exact differ

end BlitReel.Manager
