import Mathlib
import BlitReel.Proofs.Files.Child
import BlitReel.Proofs.Service.Answer
import BlitReel.Proofs.Service.Publication

/-!
# Where conversions come from and where they go

A conversion of the service was asked for by a request that was admitted: an errand that is to begin one was made
by such a request, and only such an errand begins one. Whatever the settings and the input of every admitted
request have in common, all conversions have in common (`Admits`), in whatever order calls, runners and
clients make their moves.

The slug of an admitted request is a plain name, so its conversion goes to a child of the root of the service that
no other slug has, and what is looked up by a slug is looked up there.
-/

namespace BlitReel

/-- A request that the service admits asks for these settings and this input. -/
def Settings.Granted (base settings : Settings) (input : Octets) : Prop :=
  ∃ request : Request, request.accept base = .ok settings ∧ request.input = input

namespace Manager

variable {P : Settings → Octets → Prop} {m m' : Manager} {k : Nat} {t : Errand}

/-- What is begun or is about to begin has this property. -/
structure Admits (P : Settings → Octets → Prop) (m : Manager) : Prop where
  asked : ∀ t ∈ m.errands, ∀ settings input now, .begin settings input now ∈ t.todo → P settings input
  jobs : ∀ j ∈ m.jobs, P j.settings j.input

namespace Admits

section Frame

variable (h : m.Admits P)

include h

theorem added (errands : m'.errands = m.errands ++ [t]) (jobs : m'.jobs = m.jobs)
    (new : ∀ settings input now, .begin settings input now ∈ t.todo → P settings input) : m'.Admits P := by
  constructor
  · intro t' mem
    rw [errands] at mem
    rcases List.mem_append.1 mem with mem | mem
    · exact h.asked t' mem
    · rw [List.mem_singleton.1 mem]
      exact new
  · rw [jobs]
    exact h.jobs

/-- An errand goes on with what it had to do already, apart from acts that begin nothing. -/
theorem changed {f : Errand → Errand} (there : m.errands[k]? = some t) (errands : m'.errands = m.errands.modify k f)
    (jobs : ∀ j ∈ m'.jobs, P j.settings j.input)
    (old : ∀ settings input now, .begin settings input now ∈ (f t).todo → .begin settings input now ∈ t.todo) :
    m'.Admits P := by
  constructor
  · rw [errands]
    apply forall_updateErrand there f h.asked
    intro settings input now mem
    exact h.asked t (List.mem_of_getElem? there) settings input now (old settings input now mem)
  · exact jobs

theorem modified (f : Job → Job) (same : ∀ j, (f j).settings = j.settings ∧ (f j).input = j.input) (i : Nat) :
    ∀ j ∈ m.jobs.modify i f, P j.settings j.input := by
  intro j' mem
  obtain ⟨k, found⟩ := List.mem_iff_getElem?.1 mem
  obtain ⟨j, there, ⟨-, rfl⟩ | ⟨-, rfl⟩⟩ := getElem?_modify_cases found
  · rw [(same j).1, (same j).2]
    exact h.jobs j (List.mem_of_getElem? there)
  · exact h.jobs j' (List.mem_of_getElem? there)

end Frame

/-- An act begins what its errand was to begin. -/
theorem perform (h : m.Admits P) {a : Act} {rest : List Act} {reply? : Option (Except Failure Status)}
    (there : m.errands[k]? = some ⟨a :: rest, reply?⟩) : (m.perform k rest a).Admits P := by
  have ended (r : Except Failure Status) : (m.replyTo k r).Admits P :=
    h.changed there rfl h.jobs fun _ _ _ mem => absurd mem List.not_mem_nil
  have later {settings : Settings} {input : Octets} {now : Int64} (mem : .begin settings input now ∈ rest) :
      .begin settings input now ∈ a :: rest := List.mem_cons_of_mem a mem
  cases a with
  | begin settings input now =>
    simp only [Manager.perform, beginJob]
    split
    · refine h.changed there rfl ?_ ?_
      · intro j mem
        rcases List.mem_append.1 mem with mem | mem
        · exact h.jobs j mem
        · rw [List.mem_singleton.1 mem]
          exact h.asked _ (List.mem_of_getElem? there) settings input now List.mem_cons_self
      · intro settings' input' now' mem
        apply later
        simpa using mem
    · exact ended _
  | conclude job status =>
    simp only [Manager.perform, concludeJob]
    split
    · refine h.changed there rfl (h.modified ({ · with stage := .concluded }) (fun _ => ⟨rfl, rfl⟩) job) ?_
      intro settings input now mem
      apply later
      simpa using mem
    · refine h.changed there rfl h.jobs ?_
      intro settings input now mem
      apply later
      simpa using mem
  | broadcast want p =>
    refine h.changed there rfl h.jobs ?_
    intro settings input now mem
    apply later
    simpa using mem
  | send client want p =>
    obtain ⟨sent, same⟩ := m.sendTo_eq client want p
    rw [Manager.perform, same]
    exact h.changed there rfl h.jobs fun _ _ _ => later
  | launch job =>
    have kept := h.modified ({ · with stage := .running }) (fun _ => ⟨rfl, rfl⟩) job
    exact h.changed there rfl kept fun _ _ _ => later
  | signal job =>
    have kept := h.modified ({ · with cancelled := true }) (fun _ => ⟨rfl, rfl⟩) job
    exact h.changed there rfl kept fun _ _ _ => later
  | note n => exact h.changed there rfl h.jobs fun _ _ _ => later
  | answer => exact ended _
  | observe =>
    simp only [Manager.perform, observeJob]
    split
    · refine h.changed there rfl h.jobs ?_
      intro settings input now mem
      apply later
      simpa using mem
    · exact ended _
  | await =>
    simp only [Manager.perform]
    split
    · exact ended _
    · exact h

theorem begin_not_mem_closing (job : Nat) (j : Job) (r : Except Failure Manifest) (settings : Settings) (input : Octets)
    (now : Int64) : .begin settings input now ∉ closing job j r := by
  unfold closing report
  cases r with
  | error f => simp
  | ok man =>
    dsimp only
    split <;> simp

/-- Every move keeps it, if admitted requests have the property. -/
theorem step (h : m.Admits P)
    (grants : ∀ (request : Request) settings, request.accept m.base = .ok settings → P settings request.input) (v : Move) :
    (m.step v).Admits P := by
  by_cases client : v.isOfClient = true
  · obtain ⟨clients, joined, sent, notes, same, -⟩ := m.step_ofClient client
    rw [same]
    exact ⟨h.asked, h.jobs⟩
  cases v with
  | start request now =>
    simp only [Manager.step]
    split
    · exact h.added rfl rfl fun _ _ _ mem => absurd mem List.not_mem_nil
    · rename_i settings accepted
      refine h.added rfl rfl ?_
      intro settings' input now' mem
      cases List.mem_singleton.1 mem
      exact grants request settings accepted
  | cancel => exact h.added rfl rfl fun _ _ _ mem => by simp at mem
  | advance e =>
    simp only [Manager.step]
    split
    · rename_i there
      exact h.perform there
    · exact h
  | giveUp e =>
    simp only [Manager.step]
    split
    · rename_i there
      exact h.changed there rfl h.jobs fun _ _ _ mem => absurd mem List.not_mem_nil
    · exact h
  | progress job p =>
    simp only [Manager.step]
    split
    · exact h.added rfl rfl fun _ _ _ mem => by simp at mem
    · exact h
  | finish job r =>
    simp only [Manager.step]
    split
    · split
      · have kept : Admits P { m with jobs := m.jobs.modify job ({ · with stage := .returned r }) } :=
          ⟨h.asked, h.modified ({ · with stage := .returned r }) (fun _ => ⟨rfl, rfl⟩) job⟩
        refine kept.added rfl rfl ?_
        intro settings input now mem
        exact absurd mem (begin_not_mem_closing job _ r settings input now)
      · exact h
    · exact h
  | connect | hear _ _ | disconnect _ _ => exact absurd rfl client

end Admits

theorem admits_steps {base : Settings} (h : m.Admits base.Granted) (same : m.base = base) (moves : List Move) :
    (m.steps moves).Admits base.Granted := by
  induction moves generalizing m with
  | nil => exact h
  | cons v moves ih =>
    have kept : (m.step v).base = base := (base_steps m [v]).trans same
    refine ih (h.step ?_ v) kept
    intro request settings accepted
    rw [same] at accepted
    exact ⟨request, accepted, rfl⟩

/-- Every conversion of a service was asked for by a request that the service has admitted. -/
theorem granted_of_mem_jobs {base : Settings} {moves : List Move} {j : Job} (mem : j ∈ (steps { base } moves).jobs) :
    base.Granted j.settings j.input := by
  have start : Manager.Admits base.Granted { base } := by
    constructor
    · intro t mem
      cases mem
    · intro j mem
      cases mem
  exact (admits_steps start rfl moves).jobs j mem

end Manager

section Directory

variable {base settings : Settings} {root slug slug' input : Octets}

theorem Settings.isChild_of_validSlug (root : Octets) (valid : validSlug slug = true) :
    Path.IsChild root slug (Path.join [root, slug]) :=
  Path.isChild_join root (plain_of_validSlug valid)

/-- Below one root a slug has a directory of its own. -/
theorem Settings.join_inj (valid : validSlug slug = true) (valid' : validSlug slug' = true) :
    Path.join [root, slug] = Path.join [root, slug'] ↔ slug = slug' := by
  constructor
  · intro same
    have child := isChild_of_validSlug root valid
    rw [same] at child
    exact child.name_eq (isChild_of_validSlug root valid')
  · rintro rfl
    rfl

/-- Admitted settings have a slug that can name a directory and the root of the service. -/
theorem Settings.Granted.place (granted : base.Granted settings input) :
    validSlug settings.slug = true ∧ settings.root = base.root := by
  obtain ⟨request, accepted, -⟩ := granted
  obtain ⟨-, rfl, -, valid⟩ := Request.accept_eq_ok_iff.1 accepted
  exact ⟨valid, rfl⟩

theorem Job.outputDir_eq {j : Job} (granted : base.Granted j.settings j.input) :
    j.conversionOptions.outputDir = Path.join [base.root, j.settings.slug] := by
  show Path.join [j.settings.root, j.settings.slug] = _
  rw [granted.place.2]

/-- A slug that can name a directory names a child of every root, and no other slug names it. Every conversion of a
service was admitted and goes to the child of the root that its slug names, which it shares only with conversions
of the same slug. A slug is looked up in the child that it names, or not at all. -/
theorem slug_names_child (base : Settings) (moves : List Manager.Move) :
    (∀ root slug : Octets, Settings.validSlug slug = true →
      Path.IsChild root slug (Path.join [root, slug]) ∧
        ∀ slug', Settings.validSlug slug' = true → Path.join [root, slug'] = Path.join [root, slug] → slug' = slug) ∧
    (∀ j : Job, j ∈ (Manager.steps { base } moves).jobs →
      base.Granted j.settings j.input ∧ Path.IsChild base.root j.settings.slug j.conversionOptions.outputDir ∧
        ∀ j' : Job, base.Granted j'.settings j'.input →
          j'.conversionOptions.outputDir = j.conversionOptions.outputDir → j'.settings.slug = j.settings.slug) ∧
    ∀ slug : Octets,
      (Settings.validSlug slug = false ∧ ∀ tree,
        Library.video tree base.root slug = .error (.plain ("stream: video: invalid slug " ++ Quoted.octets slug))) ∨
      ∃ dir, (∀ tree, Library.video tree base.root slug = Manifest.load tree dir) ∧
        Path.IsChild base.root slug dir ∧
        ∀ slug', Settings.validSlug slug' = true → Path.join [base.root, slug'] = dir → slug' = slug := by
  have own (root slug : Octets) (valid : Settings.validSlug slug = true) (slug' : Octets)
      (valid' : Settings.validSlug slug' = true) (same : Path.join [root, slug'] = Path.join [root, slug]) :
      slug' = slug := (Settings.join_inj valid' valid).1 same
  refine ⟨?_, ?_, ?_⟩
  · intro root slug valid
    exact ⟨Settings.isChild_of_validSlug root valid, own root slug valid⟩
  · intro j mem
    have granted := Manager.granted_of_mem_jobs mem
    refine ⟨granted, ?_, ?_⟩
    · rw [Job.outputDir_eq granted]
      exact Settings.isChild_of_validSlug base.root granted.place.1
    · intro j' granted' same
      rw [Job.outputDir_eq granted, Job.outputDir_eq granted'] at same
      exact own base.root _ granted.place.1 _ granted'.place.1 same
  · intro slug
    cases valid : Settings.validSlug slug with
    | false =>
      refine Or.inl ⟨rfl, ?_⟩
      intro tree
      simp [Library.video, valid]
    | true =>
      refine Or.inr ⟨Path.join [base.root, slug], ?_, Settings.isChild_of_validSlug base.root valid,
        own base.root slug valid⟩
      intro tree
      simp [Library.video, valid]

/-- A root that is written in a roundabout way and a slug with dots in it. -/
theorem slug_names_child_roundabout :
    let base : Settings := { root := Octets.ofString "../reels//old/./../" }
    let clip : Request := { input := Octets.ofString "-", slug := Octets.ofString "clip..v2" }
    let moves : List Manager.Move := [.start clip 0, .advance 0]
    (Manager.steps { base } moves).jobs.map (·.conversionOptions.outputDir) = [Octets.ofString "../reels/clip..v2"] ∧
      ∀ j ∈ (Manager.steps { base } moves).jobs,
        Path.dir j.conversionOptions.outputDir = Octets.ofString "../reels" ∧
          Path.base j.conversionOptions.outputDir = j.settings.slug := by
  intro base clip moves
  refine ⟨by decide +kernel, ?_⟩
  intro j mem
  obtain ⟨-, placed, -⟩ := (slug_names_child base moves).2.1 j mem
  refine ⟨?_, placed.base_eq⟩
  rw [placed.dir_eq]
  decide +kernel

end Directory

end BlitReel
