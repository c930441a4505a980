import Mathlib
import BlitReel.Input.Open
import BlitReel.Proofs.Conversion.History
import BlitReel.Proofs.Conversion.Progress
import BlitReel.Proofs.Except
import BlitReel.Proofs.Service.Exclusion
import BlitReel.Proofs.Service.Library

/-!
# What the service has converted can be found

An admitted request gives the settings of a conversion into a directory below the root. If that conversion
succeeds then its manifest is read back from there as it was returned (`Job.load_of_ok`), so it can be looked up
under its slug. Whether it is listed is another matter: the listing follows the root as it is written, the
conversion the cleaned path, and the two part where the root steps up over something that is not
there.
-/

namespace BlitReel

open Conversion

theorem Settings.toNat_of_isSlugOctet {b : UInt8} (h : isSlugOctet b = true) : b.toNat < 128 := by
  simp only [isSlugOctet, Octets.isLetter, Octets.isDigit, Bool.or_eq_true, Bool.and_eq_true, decide_eq_true_eq,
    UInt8.le_iff_toNat_le, UInt8.reduceToNat, beq_iff_eq] at h
  rcases h with (((h | h) | rfl) | rfl) | rfl
  · omega
  · omega
  · decide
  · decide
  · decide

/-- A slug is a text. -/
theorem Settings.valid_of_validSlug {s : Octets} (h : validSlug s = true) : Utf8.valid s = true := by
  have ascii : ∀ b ∈ s, b.toNat < 128 := by
    intro b mem
    apply toNat_of_isSlugOctet
    cases s with
    | nil => cases mem
    | cons first rest =>
      simp only [validSlug, Bool.and_eq_true, List.all_eq_true] at h
      rcases List.mem_cons.1 mem with rfl | mem
      · simp [isSlugOctet, h.1]
      · exact h.2 b mem
  rw [Utf8.valid, Utf8.runes_ascii ascii]
  simp

/-- When a request is admitted, and with which settings. -/
theorem Request.accept_eq_ok_iff {r : Request} {base s : Settings} : r.accept base = .ok s ↔
    r.input ≠ [] ∧ s = r.apply base ∧ s.validate = .ok () ∧ Settings.validSlug s.slug = true := by
  simp only [accept, bind, Except.bind, throw, throwThe, MonadExceptOf.throw, pure, Except.pure]
  by_cases given : r.input = []
  · simp [given]
  have present : r.input.isEmpty = false := by simpa using given
  simp only [present, Bool.false_eq_true, ↓reduceIte]
  constructor
  · intro h
    split at h
    · cases h
    rename_i checked
    split at h
    · cases h
    rename_i slug
    cases h
    exact ⟨given, rfl, checked, by simpa using slug⟩
  · rintro ⟨-, rfl, checked, slug⟩
    simp [checked, slug]

section Conversion

variable {j : Job} {c : Conditions} {t : FileTree} {source : Source} {moves : List Run.Move}

/-- A conversion that succeeds leaves the manifest that it returns where its slug is looked up. -/
theorem Job.load_of_ok (slug : Settings.validSlug j.settings.slug = true)
    (finished : finishes c t source j.conversionOptions moves = true)
    (small : frameCount source.content j.conversionOptions < 2 ^ 63)
    (rate : Manifest.reread? j.settings.fps = some j.settings.fps) {res : Result}
    (success : (convertAlong c t source j.conversionOptions moves).result = .ok res) :
    res.manifest = fullManifest source.content j.conversionOptions ∧
      Manifest.load (convertAlong c t source j.conversionOptions moves).tree
        (Path.join [j.settings.root, j.settings.slug]) = .ok res.manifest := by
  let call : Call := ⟨c, source, j.conversionOptions, moves⟩
  have into : call.Into j.outputDir t := ⟨rfl, finished, small⟩
  obtain ⟨-, same, -⟩ := Call.outcome_ok into success
  refine ⟨same, (Call.published_of_ok into success).load_iff.2 ⟨j.settings.fps, rate, ?_⟩⟩
  have text : call.options.slug.asText = call.manifest.slug :=
    Octets.asText_of_valid (Settings.valid_of_validSlug slug)
  rw [same, text]
  rfl

end Conversion

namespace Manager

variable {m : Manager} {k : Nat} {j : Job} {r : Except Failure Manifest}

/-- A conversion whose runner has returned has its last status before it. -/
theorem Exclusive.returned (h : m.Exclusive) (there : m.jobs[k]? = some j) (returned : j.stage = .returned r) :
    (∃ t ∈ m.errands, .conclude k (j.lastStatus r) ∈ t.todo) ∧ ∀ e status rest reply?,
      m.errands[e]? = some ⟨.conclude k status :: rest, reply?⟩ → (m.step (.advance e)).status = j.lastStatus r := by
  constructor
  · have busy := h.of_underway there (by simp [returned])
    have due : .conclude k (j.lastStatus r) ∈ m.milestones := by simp [busy.milestones, Job.due, returned]
    obtain ⟨t, mem, next⟩ := List.mem_flatMap.1 due
    exact ⟨t, mem, (List.mem_filter.1 next).1⟩
  · intro e status rest reply? next
    obtain ⟨-, j', r', there', returned', installed, -⟩ := h.conclude next
    obtain rfl : j = j' := by simpa [there] using there'
    rw [returned, JobStage.returned.injEq] at returned'
    rw [installed, returned']

end Manager

/-- Let a request be admitted and a source be converted for it into any tree, in whatever order reader and workers
make their moves. If the conversion succeeds, then the last status of the service is idle without an error and counts
the frames; the manifest that was returned is looked up under the slug; it has the slug, grid and rate of
the request over the settings of the service; and the slug is listed exactly if the root leads to a
directory as it is written, as every root does that is written clean. Whatever kind of input the request names, what
is converted once it is opened is its source, and in such an order. -/
theorem accepted_published (base : Settings) (request : Request) {j : Job}
    (accepted : request.accept base = .ok j.settings) (asked : j.input = request.input) (c : Conditions) (t : FileTree)
    (s : Source) (moves : List Run.Move) (finished : finishes c t s j.conversionOptions moves = true)
    (small : frameCount s.content j.conversionOptions < 2 ^ 63)
    (rate : Manifest.reread? j.settings.fps = some j.settings.fps) {res : Result}
    (success : (convertAlong c t s j.conversionOptions moves).result = .ok res) :
    let tree := (convertAlong c t s j.conversionOptions moves).tree
    let final : Status := { kind := Status.idle, slug := j.settings.slug, input := request.input
                            written := res.manifest.frameCount, error := "" }
    (∀ service k called,
      let m := Manager.steps { base } service
      m.jobs[k]? = some { j with stage := .returned (.ok res.manifest), cancelled := called } →
      (∃ t ∈ m.errands, .conclude k final ∈ t.todo) ∧
        ∀ e status rest reply?, m.errands[e]? = some ⟨.conclude k status :: rest, reply?⟩ →
          (m.step (.advance e)).status = final) ∧
    Library.video tree base.root j.settings.slug = .ok res.manifest ∧
    (res.manifest.slug = (request.apply base).slug ∧ res.manifest.width = (request.apply base).width ∧
      res.manifest.height = (request.apply base).height ∧ res.manifest.fps = (request.apply base).fps) ∧
    (tree.Direct base.root →
      ((∃ l, Library.videos tree base.root = .ok l ∧ j.settings.slug ∈ l) ↔ tree.isDirectory base.root = true) ∧
      (Path.clean base.root = base.root → ∃ l, Library.videos tree base.root = .ok l ∧ j.settings.slug ∈ l)) ∧
    ∀ (h h' : Host) (opened : Input.Opened) (cancelled : Bool),
      Input.openNamed h j.input j.decoderOptions cancelled = (h', .ok opened) →
      ∃ moves' : List Run.Move, finishes c h'.tree opened.source j.conversionOptions moves' = true ∧
        (Input.convertNamed h c j.input j.decoderOptions j.conversionOptions cancelled).2 =
          convertAlong c h'.tree opened.source j.conversionOptions moves' := by
  intro tree final
  obtain ⟨-, applied, -, slug⟩ := Request.accept_eq_ok_iff.1 accepted
  have root : j.settings.root = base.root := by
    rw [applied]
    rfl
  obtain ⟨same, loaded⟩ := Job.load_of_ok slug finished small rate success
  rw [root] at loaded
  have looked : Library.video tree base.root j.settings.slug = .ok res.manifest :=
    Library.video_eq_ok_iff.2 ⟨slug, loaded⟩
  refine ⟨?_, looked, ?_, ?_, ?_⟩
  · intro service k called m there
    have last := (Manager.sound_steps base service).exclusive.returned there rfl
    rw [show Job.lastStatus { j with stage := .returned (.ok res.manifest), cancelled := called } (.ok res.manifest) =
      final by simp [final, Job.lastStatus, asked]] at last
    exact last
  · rw [same, ← applied]
    exact ⟨rfl, rfl, rfl, rfl⟩
  · intro direct
    have listed_iff := Library.listed_iff_isDirectory direct looked
    refine ⟨listed_iff, fun clean => listed_iff.2 ?_⟩
    exact Library.isDirectory_of_load direct (Settings.plain_of_validSlug slug) loaded clean
  · intro h h' opened cancelled input
    obtain ⟨moves', finished', converted⟩ := convert_eq c h'.tree opened.source j.conversionOptions cancelled
    refine ⟨moves', finished', ?_⟩
    rw [Input.convertNamed, input]
    exact converted

/-- A request for a clip of two cells from standard input. -/
def clipRequest : Request :=
  { input := Octets.ofString "-", slug := Octets.ofString "clip", width := 2, height := 1 }

/-- The conversion of that request by a service with a root. -/
def clipJob (root : String) : Job where
  settings := clipRequest.apply { root := Octets.ofString root }
  input := Octets.ofString "-"

/-- A host with a decoder that prints a red and a black cell. -/
def clipHost : Host where
  tree := { entries := [([Octets.ofString "bin"], .directory),
    ([Octets.ofString "bin", Octets.ofString "ffmpeg"], .file [] true)] }
  searchDir := Octets.ofString "bin"
  programs := [([Octets.ofString "bin", Octets.ofString "ffmpeg"], { stdout := [255, 0, 0, 0, 0, 0] })]

/-- The input of that request, opened. -/
def clipOpened (root : String) : Host × Except Failure Input.Opened :=
  Input.openNamed clipHost (clipJob root).input (clipJob root).decoderOptions false

/-- The source of an input that has been opened, and an empty one otherwise. -/
def sourceOf : Except Failure Input.Opened → Source
  | .ok opened => opened.source
  | .error _ => {}

/-- What it is opened as. -/
def clipSource (root : String) : Source := sourceOf (clipOpened root).2

/-- One frame is read, stored and reported. -/
def clipMoves : List Run.Move := [.read, .launch, .read, .store 0 none, .report 0]

/-- How its conversion goes. -/
def clipOutcome (root : String) : Outcome :=
  convertAlong calm (clipOpened root).1.tree (clipSource root) (clipJob root).conversionOptions clipMoves

/-- A service takes the request, starts its conversion and is told a manifest. -/
def clipService (man : Manifest) : List Manager.Move :=
  [.start clipRequest 0, .advance 0, .advance 0, .advance 0, .advance 0, .finish 0 (.ok man)]

theorem accept_clip : clipRequest.accept { root := Octets.ofString "videos" } = .ok (clipJob "videos").settings :=
  Request.accept_eq_ok_iff.2 ⟨by decide, rfl, by decide +kernel, by decide +kernel⟩

theorem jobs_clip (man : Manifest) :
    (Manager.steps { base := { root := Octets.ofString "videos" } } (clipService man)).jobs[0]? =
      some { clipJob "videos" with stage := .returned (.ok man) } := by
  simp only [clipService, Manager.steps, Manager.step, accept_clip, Manager.addErrand, Manager.perform, Manager.beginJob,
    Manager.continueWith, Manager.updateErrand, Manager.write, JobStage.isRunning, List.foldl_cons, List.foldl_nil]
  rfl

theorem accepted_published_clip : ∃ res, (clipOutcome "videos").result = .ok res ∧
    (∃ t ∈ (Manager.steps { base := { root := Octets.ofString "videos" } } (clipService res.manifest)).errands,
      .conclude 0 { kind := Status.idle, slug := Octets.ofString "clip", input := Octets.ofString "-"
                    written := res.manifest.frameCount, error := "" } ∈ t.todo) ∧
    Library.video (clipOutcome "videos").tree (Octets.ofString "videos") (Octets.ofString "clip") = .ok res.manifest ∧
    (∃ l, Library.videos (clipOutcome "videos").tree (Octets.ofString "videos") = .ok l ∧ Octets.ofString "clip" ∈ l) ∧
    ∃ (opened : Input.Opened) (moves : List Run.Move), clipOpened "videos" = ((clipOpened "videos").1, .ok opened) ∧
      (Input.convertNamed clipHost calm (clipJob "videos").input (clipJob "videos").decoderOptions
          (clipJob "videos").conversionOptions false).2 =
        convertAlong calm (clipOpened "videos").1.tree opened.source (clipJob "videos").conversionOptions moves := by
  obtain ⟨res, success⟩ : ∃ res, (clipOutcome "videos").result = .ok res := Except.exists_of_isOk (by decide +kernel)
  obtain ⟨opened, taken⟩ : ∃ opened, (clipOpened "videos").2 = .ok opened := Except.exists_of_isOk (by decide +kernel)
  have direct : (clipOutcome "videos").tree.Direct (Octets.ofString "videos") := by
    apply FileTree.direct_of_unaliased
    unfold FileTree.Unaliased
    decide +kernel
  obtain ⟨told, looked, -, listed, named⟩ := accepted_published _ clipRequest accept_clip rfl calm
    (clipOpened "videos").1.tree (clipSource "videos") clipMoves (by decide +kernel) (by decide +kernel)
    (by decide +kernel) success
  obtain ⟨moves, -, converted⟩ := named clipHost _ opened false (Prod.ext rfl taken)
  exact ⟨res, success, (told _ 0 false (jobs_clip res.manifest)).1, looked, (listed direct).2 (by decide +kernel),
    opened, moves, Prod.ext rfl taken, converted⟩

/-- A root that steps up over something that is not there: the conversion succeeds and nothing is listed. -/
theorem converted_unlisted : (clipOutcome "gone/../videos").result.isOk = true ∧
    Library.videos (clipOutcome "gone/../videos").tree (Octets.ofString "gone/../videos") = .ok [] := by
  decide +kernel

end BlitReel
