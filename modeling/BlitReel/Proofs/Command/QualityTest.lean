import Mathlib
import BlitReel.Command.QualityTest
import BlitReel.Proofs.Number.Quotient

/-!
# The mean of a directory

The quality test converts pictures one after the other on one tree, with whatever decoders are plugged in. What it
notes of a picture is the verdict on it (`Verdict.note`). A test that comes to its end has noted the verdicts on all
pictures in order and added up the errors of those that were encoded (`foldl_takePicture`), but the mean at the end is
taken over all pictures. So it is the mean of the errors only as long as no picture fails, and each failure lowers it.
-/

namespace BlitReel.Command.QualityTest

/-- What came of a picture: its mean colour error, or why there is none. -/
structure Verdict where
  picture : Octets
  result : Except Failure Float

/-- The note of a verdict. -/
def Verdict.note (v : Verdict) : Note :=
  match v.result with
  | .ok e => noteOf .info "%s: mean error %.2f" [.text (Utf8.text v.picture), .float e]
  | .error f => noteOf .error "Failed to process %s: %s" [.text (Utf8.text v.picture), .text f.message]

/-- The verdicts on pictures that are converted one after the other. -/
def verdicts (codecs : Picture.Codecs) (k : Task) : FileTree → List Octets → List Verdict
  | _, [] => []
  | t, picture :: rest =>
    let (after, result) := Quality.convert t (Path.join [k.input, picture]) k.output k.geometry k.scale codecs
    ⟨picture, result⟩ :: verdicts codecs k after rest

/-- The error that a note tells. -/
def errorIn? (n : Note) : Option Float :=
  match n.level, n.values with
  | .info, [_, .float e] => some e
  | _, _ => none

/-- The errors that the notes of verdicts tell, in order. -/
def errors (vs : List Verdict) : List Float := (vs.map Verdict.note).filterMap errorIn?

/-- The sum of errors, added up from the first to the last. -/
def sum (es : List Float) : Float := es.foldl (· + ·) 0

theorem map_picture_verdicts (codecs : Picture.Codecs) (k : Task) (t : FileTree) (names : List Octets) :
    (verdicts codecs k t names).map Verdict.picture = names := by
  induction names generalizing t with
  | nil => rfl
  | cons picture rest ih => rw [verdicts, List.map_cons, ih]

theorem errorIn?_note (v : Verdict) : errorIn? v.note = v.result.toOption := by
  rcases v with ⟨picture, f | e⟩ <;> rfl

/-! What the notes of verdicts tell. -/

section Notes

variable {vs : List Verdict}

theorem isSome_errorIn?_note (v : Verdict) : (errorIn? v.note).isSome = v.result.isOk := by
  rw [errorIn?_note]
  cases v.result <;> rfl

theorem length_errors_le : (errors vs).length ≤ vs.length := by
  simpa [errors] using List.length_filterMap_le errorIn? (vs.map Verdict.note)

/-- Errors are told of all pictures exactly if all could be encoded. -/
theorem length_errors_eq_iff : (errors vs).length = vs.length ↔ ∀ v ∈ vs, v.result.isOk := by
  rw [← List.length_map Verdict.note, errors, List.filterMap_length_eq_length]
  simp only [List.forall_mem_map, isSome_errorIn?_note]

/-- Errors are told exactly if a picture could be encoded. -/
theorem length_errors_ne_zero_iff : (errors vs).length ≠ 0 ↔ ∃ v ∈ vs, v.result.isOk := by
  rw [Ne, List.length_eq_zero_iff, errors, List.filterMap_eq_nil_iff]
  simp [← isSome_errorIn?_note, Option.isSome_iff_ne_none]

/-- When the sum of the errors over the number of all pictures is their mean. -/
theorem sum_div_eq_iff (few : vs.length ≤ 2 ^ 50)
    (usual : sum (errors vs) = 0 ∨ Binary64.Moderate (sum (errors vs))) :
    sum (errors vs) / Float.ofNat vs.length =
        sum (errors vs) / Float.ofNat (errors vs).length ↔
      (∀ v ∈ vs, v.result.isOk) ∨ (∃ v ∈ vs, v.result.isOk) ∧ sum (errors vs) = 0 := by
  have empty : (errors vs).length = 0 → sum (errors vs) = 0 := by
    intro none
    rw [List.length_eq_zero_iff.1 none]
    rfl
  rw [Binary64.div_ofNat_eq_iff usual length_errors_le few empty, length_errors_eq_iff, length_errors_ne_zero_iff]

/-- A failure lowers the quotient. -/
theorem sum_div_lt (few : vs.length ≤ 2 ^ 50) (failed : ∃ v ∈ vs, ¬ v.result.isOk)
    (moderate : Binary64.Moderate (sum (errors vs))) :
    sum (errors vs) / Float.ofNat vs.length <
      sum (errors vs) / Float.ofNat (errors vs).length := by
  have fewer : (errors vs).length ≠ vs.length := by
    rw [Ne, length_errors_eq_iff]
    simpa using failed
  have some : (errors vs).length ≠ 0 := by
    intro none
    rw [List.length_eq_zero_iff.1 none] at moderate
    exact absurd moderate.low (by decide +kernel)
  exact Binary64.div_ofNat_lt moderate some (Nat.lt_of_le_of_ne length_errors_le fewer) few

end Notes

/-! The loop over the pictures. -/

variable {codecs : Picture.Codecs} {k : Task} {p : Progress}

theorem takePicture_of_collapse {f : Failure} (collapsed : p.collapse? = some f) (picture : Octets) :
    takePicture codecs k p picture = p := by
  rw [takePicture, collapsed]
  rfl

theorem foldl_takePicture_of_collapse {f : Failure} (collapsed : p.collapse? = some f) (names : List Octets) :
    names.foldl (takePicture codecs k) p = p := by
  induction names with
  | nil => rfl
  | cons picture rest ih => rw [List.foldl_cons, takePicture_of_collapse collapsed, ih]

/-- A picture that does not bring the test to a collapse adds its note and, if it has one, its error. -/
theorem takePicture_eq {picture : Octets} (going : p.collapse? = none)
    (goes : (takePicture codecs k p picture).collapse? = none) {after : FileTree} {result : Except Failure Float}
    (converted :
      Quality.convert p.tree (Path.join [k.input, picture]) k.output k.geometry k.scale codecs = (after, result)) :
    takePicture codecs k p picture = { p with
      tree := after, total := result.toOption.toList.foldl (· + ·) p.total
      journal := p.journal ++ [Verdict.note ⟨picture, result⟩] } := by
  unfold takePicture at goes ⊢
  rw [going] at goes ⊢
  simp only [Option.isSome_none, Bool.false_eq_true, if_false, converted] at goes ⊢
  cases result with
  | ok e => rfl
  | error f =>
    dsimp only at goes ⊢
    split at goes
    · cases goes
    · rename_i other
      rw [if_neg other]
      rfl

/-- The pictures of a test that has not collapsed: each has its note, and the errors that are told are added up. -/
theorem foldl_takePicture (going : p.collapse? = none) {names : List Octets}
    (goes : (names.foldl (takePicture codecs k) p).collapse? = none) :
    (names.foldl (takePicture codecs k) p).journal = p.journal ++ (verdicts codecs k p.tree names).map Verdict.note ∧
      (names.foldl (takePicture codecs k) p).total =
        (errors (verdicts codecs k p.tree names)).foldl (· + ·) p.total := by
  induction names generalizing p with
  | nil => simp [verdicts, errors]
  | cons picture rest ih =>
    rw [List.foldl_cons] at goes ⊢
    rcases converted : Quality.convert p.tree (Path.join [k.input, picture]) k.output k.geometry k.scale codecs with
      ⟨after, result⟩
    cases next : (takePicture codecs k p picture).collapse? with
    | some f =>
      rw [foldl_takePicture_of_collapse next, next] at goes
      cases goes
    | none =>
      have taken := takePicture_eq going next converted
      obtain ⟨journal, total⟩ := ih next goes
      rw [journal, total, taken, verdicts, converted]
      refine ⟨by simp, ?_⟩
      rw [errors, errors, List.map_cons, List.filterMap_cons, errorIn?_note]
      cases result <;> rfl

/-- A test with exit code 0 has come to the pictures and has not collapsed. -/
theorem perform_code_zero {t : FileTree} (finished : (perform codecs t k).code = 0) :
    ∃ (t₁ t₂ : FileTree) (entries : List (Octets × FileNode)),
      createProfile t k = .ok t₁ ∧ t₁.list k.input = .ok entries ∧ t₁.makeAll k.output = (t₂, .ok ()) ∧
      perform codecs t k = survey codecs k t₂ entries ∧
      ((pictures entries).foldl (takePicture codecs k) { tree := t₂ }).collapse? = none := by
  cases profiled : createProfile t k with
  | error f => simp [perform, profiled, stopped] at finished
  | ok t₁ =>
  cases valid : k.geometry.validate with
  | error f => simp [perform, profiled, valid, stopped] at finished
  | ok u =>
  cases listed : t₁.list k.input with
  | error f => simp [perform, profiled, valid, listed, stopped] at finished
  | ok entries =>
  rcases made : t₁.makeAll k.output with ⟨t₂, f | u⟩
  · simp [perform, profiled, valid, listed, made, stopped] at finished
  have surveyed : perform codecs t k = survey codecs k t₂ entries := by
    simp only [perform, profiled, valid, listed, made]
  refine ⟨t₁, t₂, entries, rfl, listed, made, surveyed, ?_⟩
  rw [surveyed, survey] at finished
  cases collapse : ((pictures entries).foldl (takePicture codecs k) { tree := t₂ }).collapse? with
  | none => rfl
  | some f => simp [collapse] at finished

/-- The mean of a directory. A test that comes to its end has noted the verdict on each picture, and at last the sum of
the errors over the number of all pictures. If no picture failed, this is the mean of the errors. If the sum is 0 or
neither tiny nor huge, it is the mean of the errors only then or when the sum of some errors is 0; after a failure it is
otherwise less. -/
theorem mean_exact_iff {codecs : Picture.Codecs} {t : FileTree} {k : Task} (finished : (perform codecs t k).code = 0) :
    ∃ (t₁ t₂ : FileTree) (entries : List (Octets × FileNode)) (vs : List Verdict),
      createProfile t k = .ok t₁ ∧ t₁.list k.input = .ok entries ∧ t₁.makeAll k.output = (t₂, .ok ()) ∧
      vs = verdicts codecs k t₂ (pictures entries) ∧ vs.map Verdict.picture = pictures entries ∧
      (perform codecs t k).journal = vs.map Verdict.note ++ meanNote k.input (sum (errors vs)) vs.length ∧
      ((∀ v ∈ vs, v.result.isOk) →
        sum (errors vs) / Float.ofNat vs.length = sum (errors vs) / Float.ofNat (errors vs).length) ∧
      (vs.length ≤ 2 ^ 50 → sum (errors vs) = 0 ∨ Binary64.Moderate (sum (errors vs)) →
        (sum (errors vs) / Float.ofNat vs.length = sum (errors vs) / Float.ofNat (errors vs).length ↔
          (∀ v ∈ vs, v.result.isOk) ∨ (∃ v ∈ vs, v.result.isOk) ∧ sum (errors vs) = 0) ∧
        ((∃ v ∈ vs, ¬ v.result.isOk) → Binary64.Moderate (sum (errors vs)) →
          sum (errors vs) / Float.ofNat vs.length < sum (errors vs) / Float.ofNat (errors vs).length)) := by
  obtain ⟨t₁, t₂, entries, profiled, listed, made, surveyed, goes⟩ := perform_code_zero finished
  obtain ⟨journal, total⟩ := foldl_takePicture rfl goes
  have each := map_picture_verdicts codecs k t₂ (pictures entries)
  refine ⟨t₁, t₂, entries, _, profiled, listed, made, rfl, each, ?_, ?_, ?_⟩
  · have count := congrArg List.length each
    rw [List.length_map] at count
    simp only [surveyed, survey, goes, journal, total, count, List.nil_append]
    rfl
  · intro encoded
    rw [length_errors_eq_iff.2 encoded]
  · intro few usual
    exact ⟨sum_div_eq_iff few usual, sum_div_lt few⟩

/-! A directory with a file that is no picture and a picture of one almost black pixel, for which black is used. -/

/-- A bitmap of one pixel, almost black. -/
def darkFile : Octets :=
  Octets.ofString "BM" ++ [58, 0, 0, 0, 0, 0, 0, 0, 54, 0, 0, 0, 40, 0, 0, 0, 1, 0, 0, 0, 1, 0, 0, 0, 1, 0, 24, 0] ++
    List.replicate 24 0 ++ [10, 10, 10, 0]

/-- What stands in the directory. -/
def darkEntries : List (Octets × FileNode) :=
  [(Octets.ofString "broken.bmp", .file (Octets.ofString "no picture") false),
    (Octets.ofString "dark.bmp", .file darkFile false)]

def darkTree : FileTree where
  entries := ([Octets.ofString "in"], .directory) :: darkEntries.map fun (n, node) => ([Octets.ofString "in", n], node)

def darkTask : Task := { input := Octets.ofString "in", output := Octets.ofString "out", geometry := ⟨1, 1⟩ }

/-- The tree with the directory for the output. -/
def darkStart : FileTree := (darkTree.makeAll darkTask.output).1

theorem list_darkTree : darkTree.list darkTask.input = .ok darkEntries := by
  have found : darkTree.resolve darkTask.input = .ok [Octets.ofString "in"] := by decide +kernel
  have directory : darkTree.get? [Octets.ofString "in"] = some .directory := by decide +kernel
  -- The sort does not reduce, but the names are in order.
  have sorted : darkTree.children [Octets.ofString "in"] = darkEntries := by
    rw [FileTree.children, List.mergeSort_of_pairwise (by decide +kernel)]
    decide +kernel
  simp only [FileTree.list, found, directory, sorted]

theorem makeAll_darkTree : darkTree.makeAll darkTask.output = (darkStart, .ok ()) := by
  have made : (darkTree.makeAll darkTask.output).2 = .ok () := by decide +kernel
  rw [← made, darkStart]

theorem perform_darkTree : perform {} darkTree darkTask = survey {} darkTask darkStart darkEntries := by
  have profiled : createProfile darkTree darkTask = .ok darkTree := rfl
  have valid : darkTask.geometry.validate = .ok () := by decide +kernel
  simp only [perform, profiled, valid, list_darkTree, makeAll_darkTree]

theorem code_darkTree : (perform {} darkTree darkTask).code = 0 := by
  rw [perform_darkTree]
  decide +kernel

theorem mean_exact_iff_dark :
    (perform {} darkTree darkTask).code = 0 ∧
      ∃ vs : List Verdict, vs.map Verdict.picture = [Octets.ofString "broken.bmp", Octets.ofString "dark.bmp"] ∧
        (perform {} darkTree darkTask).journal =
          vs.map Verdict.note ++ meanNote darkTask.input (sum (errors vs)) vs.length ∧
        (errors vs).length = 1 ∧
        sum (errors vs) / Float.ofNat vs.length < sum (errors vs) / Float.ofNat (errors vs).length := by
  refine ⟨code_darkTree, ?_⟩
  obtain ⟨t₁, t₂, entries, vs, profiled, listed, made, rfl, each, journal, -, usual⟩ := mean_exact_iff code_darkTree
  obtain rfl : darkTree = t₁ := Except.ok.inj profiled
  obtain rfl : darkEntries = entries := Except.ok.inj (list_darkTree.symm.trans listed)
  obtain rfl : darkStart = t₂ := congrArg Prod.fst (makeAll_darkTree.symm.trans made)
  have moderate : Binary64.Moderate (sum (errors (verdicts {} darkTask darkStart (pictures darkEntries)))) :=
    ⟨by decide +kernel, by decide +kernel⟩
  refine ⟨_, each.trans (by decide +kernel), journal, by decide +kernel, ?_⟩
  exact (usual (by decide +kernel) (.inr moderate)).2 (by decide +kernel) moderate

/-- One picture fails and one is encoded: what is told as the mean is half the only error. -/
theorem mean_counts_failures :
    ∃ e m : Float, (perform {} darkTree darkTask).code = 0 ∧
      (perform {} darkTree darkTask).journal.map errorIn? = [none, some e, some m] ∧
      m = e / Float.ofNat 2 ∧ m ≠ e / Float.ofNat 1 := by
  refine ⟨.ofBits 4583559772513844492, .ofBits 4579056172886473996, code_darkTree, ?_, ?_, ?_⟩
  · rw [perform_darkTree]
    decide +kernel
  · decide +kernel
  · decide +kernel

end BlitReel.Command.QualityTest
