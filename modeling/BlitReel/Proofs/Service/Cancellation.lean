import Mathlib
import BlitReel.Proofs.Service.Transition

/-!
# Calling a conversion off

A call to stop what is running looks which conversion is under way, calls that one off and waits for
the service to be idle. While it does so, that conversion may end and others may come and go. Still the
call touches no conversion but the one it found (`Spares`), and when it returns, that conversion is
ended (`HasEnded`): the service is idle, so every conversion let in so far is concluded.

`CancelProgress` says how far a call has come, and `CancelProgress.step` that every move keeps this.
-/

namespace BlitReel.Manager

variable {m : Manager} {v : Move} {e k : Nat} {t : Errand} {moves made : List Move} {found? : Option Nat}

/-- The errand has looked once, and then this conversion or none was under way. -/
def Looked (m : Manager) (e : Nat) (moves : List Move) (found? : Option Nat) : Prop :=
  ∃ made, (∀ other, m.Does e moves other .observe ↔ other = made) ∧ ∀ i, (m.steps made).Underway i ↔ found? = some i

/-- The errand has called this conversion off, after it had found it under way. -/
def Signalled (m : Manager) (e : Nat) (moves : List Move) (k : Nat) : Prop :=
  ∃ made, m.Does e moves made (.signal k) ∧ m.Looked e made (some k)

/-- Nothing changes but errands and, at most, that the conversion found is called off. -/
def Spares (m m' : Manager) (found? : Option Nat) : Prop :=
  ∃ errands jobs, m' = { m with errands, jobs } ∧
    (jobs = m.jobs ∨ ∃ k, found? = some k ∧ jobs = m.jobs.modify k ({ · with cancelled := true }))

/-- How far a call to stop the conversion under way has come by these moves, and what it has found. -/
inductive CancelProgress (m : Manager) (e : Nat) (moves : List Move) : Option Nat → Errand → Prop
  | asking (new : ∀ made, ¬ m.Does e moves made .observe) : CancelProgress m e moves none { todo := [.observe] }
  | refused (looked : m.Looked e moves none) : CancelProgress m e moves none { reply? := some (.error nothingRunning) }
  | seen (k : Nat) (looked : m.Looked e moves (some k)) :
      CancelProgress m e moves (some k) { todo := [.signal k, .await] }
  | waiting (k : Nat) (looked : m.Looked e moves (some k)) (signalled : m.Signalled e moves k) :
      CancelProgress m e moves (some k) { todo := [.await] }
  | stopped (k : Nat) (looked : m.Looked e moves (some k)) (signalled : m.Signalled e moves k) (made : List Move)
      (awaited : m.Does e moves made .await) (before : m.Signalled e made k)
      (idle : (m.steps made).status.kind = Status.idle) (ended : m.HasEnded made k) :
      CancelProgress m e moves (some k) { reply? := some (.ok (m.steps made).status) }
  | abandoned (k : Nat) (looked : m.Looked e moves (some k)) (signalled : m.Signalled e moves k) :
      CancelProgress m e moves (some k) { reply? := some (.error timedOut) }

theorem Looked.snoc (h : m.Looked e moves found?) (there : (m.steps moves).errands[e]? = some t)
    (past : v = .advance e → t.todo.head? ≠ some .observe) : m.Looked e (moves ++ [v]) found? := by
  obtain ⟨made, once, found⟩ := h
  refine ⟨made, fun other => ?_, found⟩
  rw [does_snoc, ← once other]
  constructor
  · rintro (old | ⟨-, own, rest, reply?, there'⟩)
    · exact old
    · rw [there] at there'
      cases there'
      exact absurd rfl (past own)
  · exact Or.inl

theorem Looked.unique {found?' : Option Nat} (h : m.Looked e moves found?) (h' : m.Looked e moves found?') :
    found? = found?' := by
  obtain ⟨made, once, found⟩ := h
  obtain ⟨made', once', found'⟩ := h'
  obtain rfl : made = made' := (once' made).1 ((once made).2 rfl)
  apply Option.ext
  intro i
  exact (found i).symm.trans (found' i)

theorem Signalled.snoc (h : m.Signalled e moves k) (v : Move) : m.Signalled e (moves ++ [v]) k := by
  obtain ⟨made, does, looked⟩ := h
  exact ⟨made, does_snoc.2 (Or.inl does), looked⟩

/-- A conversion that was found under way is still among the conversions. -/
theorem Looked.lt_length {base : Settings} (h : Looked { base } e moves (some k)) :
    k < (steps { base } moves).jobs.length := by
  obtain ⟨made, once, found⟩ := h
  obtain ⟨⟨after, rfl⟩, -⟩ := (once made).2 rfl
  obtain ⟨j, there, -⟩ := (found k).2 rfl
  obtain ⟨inside, -⟩ := List.getElem?_eq_some_iff.1 there
  rw [steps_append]
  exact inside.trans_le ((sound_steps base made).length_jobs_le _)

/-- When the service is idle, a conversion that was found under way has ended. -/
theorem Looked.hasEnded {base : Settings} (h : Looked { base } e moves (some k))
    (idle : (steps { base } moves).status.kind = Status.idle) : HasEnded { base } moves k := by
  have there := List.getElem?_eq_getElem h.lt_length
  have none := (sound_steps base moves).exclusive.idle_iff.1 idle k
  apply (history_of_stage there).2
  by_contra going
  exact none ⟨_, there, going⟩

/-- What a call has found and done is not undone by what it does not do. -/
theorem CancelProgress.extend (progress : CancelProgress m e moves found? t)
    (there : (m.steps moves).errands[e]? = some t)
    (past : v = .advance e → t.todo.head? ≠ some .observe) : CancelProgress m e (moves ++ [v]) found? t := by
  cases progress with
  | asking new =>
    refine .asking fun made does => ?_
    rcases does_snoc.1 does with old | ⟨-, own, -⟩
    · exact new made old
    · exact past own rfl
  | refused looked => exact .refused (looked.snoc there past)
  | seen k looked => exact .seen k (looked.snoc there past)
  | waiting k looked signalled => exact .waiting k (looked.snoc there past) (signalled.snoc v)
  | stopped k looked signalled made awaited before idle ended =>
    exact .stopped k (looked.snoc there past) (signalled.snoc v) made (does_snoc.2 (Or.inl awaited)) before idle ended
  | abandoned k looked signalled => exact .abandoned k (looked.snoc there past) (signalled.snoc v)

theorem CancelProgress.found_iff (progress : CancelProgress m e moves found? t) (k : Nat) :
    found? = some k ↔ m.Looked e moves (some k) := by
  have settled (looked : m.Looked e moves found?) : found? = some k ↔ m.Looked e moves (some k) := by
    constructor
    · rintro rfl
      exact looked
    · exact looked.unique
  cases progress with
  | asking new =>
    constructor
    · intro absent
      cases absent
    · rintro ⟨made, once, -⟩
      exact absurd ((once made).2 rfl) (new made)
  | refused looked => exact settled looked
  | seen k looked => exact settled looked
  | waiting k looked => exact settled looked
  | stopped k looked => exact settled looked
  | abandoned k looked => exact settled looked

theorem Spares.refl (m : Manager) (found? : Option Nat) : Spares m m found? := ⟨m.errands, m.jobs, rfl, Or.inl rfl⟩

/-- A call looks: it finds the conversion under way, or it is refused. -/
theorem CancelProgress.look {base : Settings} (new : ∀ made, ¬ Does { base } e moves made .observe)
    (there : (steps { base } moves).errands[e]? = some { todo := [.observe] }) :
    ∃ found? t, (steps { base } (moves ++ [.advance e])).errands[e]? = some t ∧
      CancelProgress { base } e (moves ++ [.advance e]) found? t ∧
      Spares (steps { base } moves) ((steps { base } moves).step (.advance e)) found? := by
  have sound := sound_steps base moves
  have looked (found? : Option Nat) (found : ∀ i, (steps { base } moves).Underway i ↔ found? = some i) :
      Looked { base } e (moves ++ [.advance e]) found? := by
    refine ⟨moves, fun other => ?_, found⟩
    rw [does_snoc]
    constructor
    · rintro (old | ⟨same, -⟩)
      · exact absurd old (new other)
      · exact same
    · rintro rfl
      exact Or.inr ⟨rfl, rfl, [], none, there⟩
  rw [steps_snoc]
  simp only [Manager.step, there, perform, observeJob]
  by_cases kind : (steps { base } moves).status.kind = Status.converting
  · obtain ⟨k, underway, -⟩ := sound.exclusive.converting_iff.1 kind
    have points := (latest_steps base moves).underway_iff sound.exclusive kind
    have job := (points k).1 underway
    rw [kind, job]
    refine ⟨some k, _, getElem?_updateErrand_self there _, .seen k (looked (some k) ?_), _, _, rfl, Or.inl rfl⟩
    intro i
    rw [points i, job]
  · have silent : ((steps { base } moves).status.kind == Status.converting) = false := by simpa using kind
    rw [silent]
    refine ⟨none, _, getElem?_updateErrand_self there _, .refused (looked none ?_), _, _, rfl, Or.inl rfl⟩
    intro i
    constructor
    · rintro ⟨j, there, going⟩
      exact absurd (sound.exclusive.of_underway there going).kind kind
    · intro absent
      cases absent

/-- A call calls off the conversion that it has found. -/
theorem CancelProgress.signal (looked : m.Looked e moves (some k))
    (there : (m.steps moves).errands[e]? = some { todo := [.signal k, .await] }) :
    ∃ t, (m.steps (moves ++ [.advance e])).errands[e]? = some t ∧
      CancelProgress m e (moves ++ [.advance e]) (some k) t ∧
      Spares (m.steps moves) ((m.steps moves).step (.advance e)) (some k) := by
  have does : m.Does e (moves ++ [.advance e]) moves (.signal k) := does_snoc.2 (Or.inr ⟨rfl, rfl, _, _, there⟩)
  have progress : CancelProgress m e (moves ++ [.advance e]) (some k) { todo := [.await] } :=
    .waiting k (looked.snoc there (by simp)) ⟨moves, does, looked⟩
  rw [steps_snoc]
  simp only [Manager.step, there, perform]
  exact ⟨_, getElem?_updateErrand_self (m := { m.steps moves with jobs := _ }) there _, progress, _, _, rfl,
    Or.inr ⟨k, rfl, rfl⟩⟩

/-- A call that waits returns once the service is idle, and by then the conversion that it found has ended. -/
theorem CancelProgress.await {base : Settings} (looked : Looked { base } e moves (some k))
    (signalled : Signalled { base } e moves k)
    (there : (steps { base } moves).errands[e]? = some { todo := [.await] }) :
    ∃ t, (steps { base } (moves ++ [.advance e])).errands[e]? = some t ∧
      CancelProgress { base } e (moves ++ [.advance e]) (some k) t ∧
      Spares (steps { base } moves) ((steps { base } moves).step (.advance e)) (some k) := by
  have looked' := looked.snoc there (v := .advance e) (by simp)
  rw [steps_snoc]
  simp only [Manager.step, there, perform]
  split
  · rename_i idle
    have kind := beq_iff_eq.1 idle
    have does : Does { base } e (moves ++ [.advance e]) moves .await := does_snoc.2 (Or.inr ⟨rfl, rfl, _, _, there⟩)
    exact ⟨_, getElem?_updateErrand_self there _,
      .stopped k looked' (signalled.snoc _) moves does signalled kind (looked.hasEnded kind), _, _, rfl, Or.inl rfl⟩
  · exact ⟨_, there, .waiting k looked' (signalled.snoc _), Spares.refl _ _⟩

/-- Every move takes a call further or leaves it, and its own moves spare all but what it has found. -/
theorem CancelProgress.step {base : Settings} (progress : CancelProgress { base } e moves found? t)
    (there : (steps { base } moves).errands[e]? = some t) (v : Move) :
    ∃ found?' t', (steps { base } (moves ++ [v])).errands[e]? = some t' ∧
      CancelProgress { base } e (moves ++ [v]) found?' t' ∧ (found? = none ∨ found?' = found?) ∧
      (v = .advance e ∨ v = .giveUp e → Spares (steps { base } moves) ((steps { base } moves).step v) found?') := by
  -- A move that leaves the service as it is.
  have idle (same : (steps { base } moves).step v = steps { base } moves)
      (past : v = .advance e → t.todo.head? ≠ some .observe) :
      ∃ found?' t', (steps { base } (moves ++ [v])).errands[e]? = some t' ∧
        CancelProgress { base } e (moves ++ [v]) found?' t' ∧ (found? = none ∨ found?' = found?) ∧
        (v = .advance e ∨ v = .giveUp e → Spares (steps { base } moves) ((steps { base } moves).step v) found?') := by
    refine ⟨found?, t, ?_, progress.extend there past, Or.inr rfl, fun _ => ?_⟩
    · rw [steps_snoc, same, there]
    · rw [same]
      exact Spares.refl _ _
  by_cases advance : v = .advance e
  · subst advance
    cases progress with
    | asking new =>
      obtain ⟨found?', t', there', progress, spares⟩ := CancelProgress.look new there
      exact ⟨found?', t', there', progress, Or.inl rfl, fun _ => spares⟩
    | seen k looked =>
      obtain ⟨t', there', progress, spares⟩ := CancelProgress.signal looked there
      exact ⟨some k, t', there', progress, Or.inr rfl, fun _ => spares⟩
    | waiting k looked signalled =>
      obtain ⟨t', there', progress, spares⟩ := CancelProgress.await looked signalled there
      exact ⟨some k, t', there', progress, Or.inr rfl, fun _ => spares⟩
    | refused | stopped | abandoned => exact idle (by simp only [Manager.step, there]) (by simp)
  by_cases giveUp : v = .giveUp e
  · subst giveUp
    cases progress with
    | waiting k looked signalled =>
      refine ⟨some k, { reply? := some (.error timedOut) }, ?_,
        .abandoned k (looked.snoc there (by simp)) (signalled.snoc _), Or.inr rfl, fun _ => ?_⟩
      · rw [steps_snoc]
        simp only [Manager.step, there]
        exact getElem?_updateErrand_self there _
      · simp only [Manager.step, there]
        exact ⟨_, _, rfl, Or.inl rfl⟩
    | asking | seen | refused | stopped | abandoned => exact idle (by simp only [Manager.step, there]) (by simp)
  · refine ⟨found?, t, ?_, progress.extend there fun own => absurd own advance, Or.inr rfl, fun own => ?_⟩
    · rw [steps_snoc]
      exact getElem?_step_other there advance giveUp
    · exact absurd own (not_or.2 ⟨advance, giveUp⟩)

theorem Spares.of_none {m' : Manager} (h : Spares m m' none) (found? : Option Nat) : Spares m m' found? := by
  obtain ⟨errands, jobs, same, kept | ⟨k, absent, -⟩⟩ := h
  · exact ⟨errands, jobs, same, Or.inl kept⟩
  · cases absent

/-- How far a call has come since it came in. -/
theorem cancelProgress_steps (base : Settings) (before after : List Move) :
    ∃ (found? : Option Nat) (t : Errand),
      (steps { base } (before ++ [.cancel] ++ after)).errands[(steps { base } before).errands.length]? = some t ∧
      CancelProgress { base } (steps { base } before).errands.length (before ++ [.cancel] ++ after) found? t ∧
      ∀ (made : List Move) (v : Move) (rest : List Move), after = made ++ v :: rest →
        v = .advance (steps { base } before).errands.length ∨ v = .giveUp (steps { base } before).errands.length →
        Spares (steps { base } (before ++ [.cancel] ++ made)) ((steps { base } (before ++ [.cancel] ++ made)).step v)
          found? := by
  set e := (steps { base } before).errands.length with number
  induction after using List.reverseRecOn with
  | nil =>
    refine ⟨none, { todo := [.observe] }, ?_, .asking ?_, ?_⟩
    · rw [List.append_nil, steps_snoc]
      exact List.getElem?_concat_length
    · intro made does
      rw [List.append_nil] at does
      rcases does_snoc.1 does with old | ⟨-, own, -⟩
      · exact not_does_of_length { base } before old
      · cases own
    · intro made v rest split
      cases (List.append_eq_nil_iff.1 split.symm).2
  | append_singleton after v ih =>
    obtain ⟨found?, t, there, progress, spares⟩ := ih
    obtain ⟨found?', t', there', progress', same, own⟩ := progress.step there v
    refine ⟨found?', t', ?_, ?_, ?_⟩
    · rw [← List.append_assoc]
      exact there'
    · rw [← List.append_assoc]
      exact progress'
    · intro made w rest split mine
      rcases snoc_eq_append_cons.1 split with ⟨-, rfl, rfl⟩ | ⟨front, -, rfl⟩
      · exact own mine
      · have early := spares made w front rfl mine
        rcases same with rfl | rfl
        · exact early.of_none _
        · exact early

/-- A call to stop what is running does this and no more, whatever else happens meanwhile. It finds the
conversion that is under way when it looks, and calls that one off before it is answered; no move of
its own changes anything else. When it returns a status, the runner of that conversion has returned and the
last status of the conversion has been put in place. A call that finds no conversion under way is answered
with an error and changes nothing. -/
theorem cancel_ends_found (base : Settings) (before after : List Move) :
    let m : Manager := { base }
    let called := before ++ [.cancel]
    let moves := called ++ after
    let e := (m.steps before).errands.length
    m.steps called = (m.steps before).addErrand { todo := [.observe] } ∧
    ∃ (found? : Option Nat) (t : Errand), (m.steps moves).errands[e]? = some t ∧
      (∀ (made : List Move) (v : Move) (rest : List Move), after = made ++ v :: rest → v = .advance e ∨ v = .giveUp e →
        Spares (m.steps (called ++ made)) ((m.steps (called ++ made)).step v) found?) ∧
      (∀ k, found? = some k ↔ m.Looked e moves (some k)) ∧
      (∀ k, found? = some k → t.reply? ≠ none → m.Signalled e moves k) ∧
      (∀ s, t.reply? = some (.ok s) → ∃ (k : Nat) (made : List Move),
        found? = some k ∧ m.Does e moves made .await ∧ m.Signalled e made k ∧ m.HasEnded made k ∧ s = (m.steps made).status ∧ s.kind = Status.idle) ∧
      (m.Looked e moves none → found? = none ∧ t.reply? = some (.error nothingRunning)) := by
  intro m called moves e
  refine ⟨steps_snoc m before .cancel, ?_⟩
  obtain ⟨found?, t, there, progress, spares⟩ := cancelProgress_steps base before after
  refine ⟨found?, t, there, spares, progress.found_iff, ?_⟩
  cases progress with
  | asking new =>
    refine ⟨by simp, by simp, ?_⟩
    rintro ⟨made, once, -⟩
    exact absurd ((once made).2 rfl) (new made)
  | refused looked => exact ⟨by simp, by simp, fun _ => ⟨rfl, rfl⟩⟩
  | seen k looked => exact ⟨by simp, by simp, fun none => absurd (looked.unique none) (by simp)⟩
  | waiting k looked signalled => exact ⟨by simp, by simp, fun none => absurd (looked.unique none) (by simp)⟩
  | stopped k looked signalled made awaited before idle ended =>
    refine ⟨?_, ?_, fun none => absurd (looked.unique none) (by simp)⟩
    · rintro k' ⟨⟩ -
      exact signalled
    · rintro s ⟨⟩
      exact ⟨k, made, rfl, awaited, before, ended, rfl, idle⟩
  | abandoned k looked signalled =>
    refine ⟨?_, by simp, fun none => absurd (looked.unique none) (by simp)⟩
    rintro k' ⟨⟩ -
    exact signalled

/-- A conversion starts and gets to work. -/
def begun : List Move :=
  [.start { input := Octets.ofString "-", slug := Octets.ofString "a" } 0, .advance 0, .advance 0, .advance 0, .advance 0]

/-- A call finds the conversion and calls it off. Before the call looks again, that conversion has ended, and another
one has been let in and ended. -/
def outlived : List Move :=
  [.advance 1, .advance 1, .finish 0 (.error .cancelled), .advance 2, .advance 2, .advance 2,
    .start { input := Octets.ofString "-", slug := Octets.ofString "b" } 0, .advance 3, .advance 1, .advance 3, .advance 3,
    .advance 3, .finish 1 (.error .cancelled), .advance 4, .advance 4, .advance 4, .advance 1]

theorem cancel_ends_found_outlived :
    (steps {} (begun ++ [.cancel] ++ outlived)).jobs.map (·.cancelled) = [true, false] ∧
      ∃ (t : Errand) (s : Status) (k : Nat) (made : List Move),
        (steps {} (begun ++ [.cancel] ++ outlived)).errands[1]? = some t ∧ t.reply? = some (.ok s) ∧
        s.slug = Octets.ofString "b" ∧ Signalled {} 1 made k ∧ HasEnded {} made k ∧ s = (steps {} made).status := by
  have number : (steps {} begun).errands.length = 1 := by decide +kernel
  obtain ⟨-, found?, t, there, -, -, -, returned, -⟩ := cancel_ends_found {} begun outlived
  rw [number] at there returned
  have answer : ((steps {} (begun ++ [.cancel] ++ outlived)).errands[1]?.bind (·.returned?)).map (·.slug) =
      some (Octets.ofString "b") := by decide +kernel
  rw [there, Option.bind_some] at answer
  obtain ⟨s, reply, slug⟩ := Option.map_eq_some_iff.1 answer
  rw [Errand.returned?_eq_some_iff] at reply
  obtain ⟨k, made, -, -, signalled, ended, same, -⟩ := returned s reply
  exact ⟨by decide +kernel, t, s, k, made, there, reply, slug, signalled, ended, same⟩

end BlitReel.Manager
