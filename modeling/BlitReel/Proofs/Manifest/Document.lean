import Mathlib
import BlitReel.Manifest.Storage
import BlitReel.Proofs.Files.FileTree
import BlitReel.Proofs.Json.RoundTrip
import BlitReel.Proofs.Number.Numeral
import BlitReel.Proofs.Text.Utf8

/-!
# Manifests as documents

The document of a manifest is read back as the same manifest, but for octets that are no text and for
what becomes of the rate in writing and reading (`ofJson?_toJson`). Reading the manifest of a directory
succeeds exactly when the document is sound and every file that it lists is there (`load_eq_ok_iff`).
-/

namespace BlitReel

/-- Octets as a document keeps them: what is no text is replaced. -/
def Octets.asText (s : Octets) : Octets := ofString (Utf8.text s)

@[simp] theorem Octets.asText_ofString (s : String) : asText (ofString s) = ofString s := by
  rw [asText, Utf8.text_ofString]

theorem Octets.asText_of_valid {s : Octets} (h : Utf8.valid s = true) : s.asText = s := Utf8.ofString_text h

theorem Frame.asText_fileName (index : Int64) : (fileName index).asText = fileName index := Octets.asText_ofString _

namespace Json

@[simp] theorem textOver_string (old s : Octets) : textOver old (.string (Utf8.text s)) = some s.asText := rfl

@[simp] theorem intOver_ofInt (old n : Int64) : intOver old (ofInt n.toInt) = some n := by
  have read := Numeral.readInt_ofInt n
  rw [Octets.ofInt] at read
  simp only [ofInt, intOver, read, Except.toOption]

@[simp] theorem textsOver_strings (old texts : List Octets) :
    textsOver old (texts.map fun s => .string (Utf8.text s)) = (texts.map Octets.asText, true) := by
  induction texts generalizing old with
  | nil => rfl
  | cons s texts ih => simp [textsOver, ih]

end Json

namespace Manifest

variable {m : Manifest} {j : Json}

/-- The rate of a manifest after writing and reading. -/
def reread? (fps : Float) : Option Float :=
  (Numeral.readFloat (Octets.ofString (NumberLayout.document.write fps))).toOption

theorem toJson_eq_ok (h : m.toJson = .ok j) : Binary64.isFinite m.fps = true ∧ j = .object [
    ("format", .string (Utf8.text m.format)), ("width", Json.ofInt m.width.toInt),
    ("height", Json.ofInt m.height.toInt), ("fps", .number (NumberLayout.document.write m.fps)), ("frameCount", Json.ofInt m.frameCount.toInt),
    ("slug", .string (Utf8.text m.slug)), ("framesBasePath", .string (Utf8.text m.framesBasePath)),
    ("frames", if m.listed then .array (m.frames.map fun s => .string (Utf8.text s)) else .null)] := by
  rw [toJson] at h
  split at h <;> rename_i finite
  · cases h
  · cases h
    exact ⟨by simpa using finite, rfl⟩

theorem fits_toJson (h : m.toJson = .ok j) : Json.Fits 2 j := by
  obtain ⟨finite, rfl⟩ := toJson_eq_ok h
  have whole (n : Int) : Json.Fits 1 (Json.ofInt n) := .number 1 (Json.isNumber_toString n)
  have list : Json.Fits 1 (if m.listed then .array (m.frames.map fun s => .string (Utf8.text s)) else .null) := by
    split
    · refine .array fun v mem => ?_
      obtain ⟨s, -, rfl⟩ := List.mem_map.1 mem
      exact .string 0 _
    · exact .null 1
  refine .object ?_
  simp only [List.forall_mem_cons, List.not_mem_nil, false_implies, implies_true, and_true]
  exact ⟨.string 1 _, whole _, whole _, .number 1 (NumberLayout.document.isNumber_write finite), whole _, .string 1 _,
    .string 1 _, list⟩

theorem read_toJson (h : m.toJson = .ok j) : Json.read (Octets.ofString j.indented) = .ok j :=
  Json.read_indented (fits_toJson h) (by decide)

theorem setFrames_strings (d : Draft) (texts : List Octets) (empty : d.beyond = []) (none : d.manifest.frames = []) :
    d.setFrames (.array (texts.map fun s => .string (Utf8.text s))) =
      some ⟨{ d.manifest with frames := texts.map Octets.asText, listed := true }, []⟩ := by
  simp [Draft.setFrames, empty, none]

/-- What is read from the document of a manifest. -/
theorem ofJson?_toJson (h : m.toJson = .ok j) (listed : m.listed = true) :
    ofJson? j = (reread? m.fps).map fun fps =>
      { m with
        format := m.format.asText, fps, slug := m.slug.asText, framesBasePath := m.framesBasePath.asText
        frames := m.frames.map Octets.asText } := by
  obtain ⟨-, rfl⟩ := toJson_eq_ok h
  have format (d : Draft) (v : Json) : d.setField "format" v =
      (Json.textOver d.manifest.format v).map fun x => { d with manifest := { d.manifest with format := x } } := rfl
  have width (d : Draft) (v : Json) : d.setField "width" v =
      (Json.intOver d.manifest.width v).map fun x => { d with manifest := { d.manifest with width := x } } := rfl
  have height (d : Draft) (v : Json) : d.setField "height" v =
      (Json.intOver d.manifest.height v).map fun x => { d with manifest := { d.manifest with height := x } } := rfl
  have rate (d : Draft) : d.setField "fps" (.number (NumberLayout.document.write m.fps)) =
      (reread? m.fps).map fun x => { d with manifest := { d.manifest with fps := x } } := rfl
  have count (d : Draft) (v : Json) : d.setField "frameCount" v = (Json.intOver d.manifest.frameCount v).map
      fun x => { d with manifest := { d.manifest with frameCount := x } } := rfl
  have slug (d : Draft) (v : Json) : d.setField "slug" v =
      (Json.textOver d.manifest.slug v).map fun x => { d with manifest := { d.manifest with slug := x } } := rfl
  have base (d : Draft) (v : Json) : d.setField "framesBasePath" v = (Json.textOver d.manifest.framesBasePath v).map
      fun x => { d with manifest := { d.manifest with framesBasePath := x } } := rfl
  have frames (d : Draft) (v : Json) : d.setField "frames" v = d.setFrames v := rfl
  simp only [ofJson?, Json.fill, List.foldl_cons, List.foldl_nil, format, width, height, rate, count, slug, base,
    frames, listed, ↓reduceIte, Json.textOver_string, Json.intOver_ofInt, Option.map_some]
  cases reread? m.fps with
  | none => simp [setFrames_strings]
  | some x => simp [setFrames_strings]

/-- Every name listed leads to something. -/
theorem checkFrames_eq_ok_iff {t : FileTree} {dir : Octets} {names : List Octets} :
    checkFrames t dir m names = .ok () ↔
      ∀ name ∈ names, ∃ n, t.stat (Path.join [dir, m.framesBasePath, name]) = .ok n := by
  induction names with
  | nil => simp [checkFrames]
  | cons name names ih =>
    rw [checkFrames, List.forall_mem_cons]
    cases found : t.stat (Path.join [dir, m.framesBasePath, name]) with
    | error r => simp
    | ok n => simpa using ih

/-- When the manifest of a directory can be read. -/
theorem load_eq_ok_iff {t : FileTree} {dir : Octets} : load t dir = .ok m ↔
    ∃ data j, t.content (Path.join [dir, fileName]) = .ok data ∧ Json.read data = .ok j ∧ ofJson? j = some m ∧
      m.format = formatName ∧ (m.frames.length : Int) = m.frameCount.toInt ∧
      ∀ name ∈ m.frames, ∃ n, t.stat (Path.join [dir, m.framesBasePath, name]) = .ok n := by
  simp only [← checkFrames_eq_ok_iff]
  simp only [load, bind, Except.bind, throw, throwThe, MonadExceptOf.throw, pure, Except.pure]
  cases t.content (Path.join [dir, fileName]) with
  | error f => simp
  | ok data =>
    simp only [Except.ok.injEq, ↓existsAndEq, true_and]
    cases read : Json.read data with
    | error f => simp [Except.mapError]
    | ok j =>
      simp only [Except.mapError, Except.ok.injEq, ↓existsAndEq, true_and]
      cases filled : ofJson? j with
      | none => simp
      | some m' =>
        simp only [Option.some.injEq]
        by_cases format : m'.format = formatName
        · by_cases count : (m'.frames.length : Int) = m'.frameCount.toInt
          · cases check : checkFrames t dir m' m'.frames <;> grind
          · grind
        · grind

/-- A manifest that is there as a document is read from it, if the files that it lists are there. -/
theorem load_document {t : FileTree} {dir : Octets} (h : m.toJson = .ok j)
    (there : t.content (Path.join [dir, fileName]) = .ok (Octets.ofString j.indented)) {m' : Manifest} :
    load t dir = .ok m' ↔ ofJson? j = some m' ∧ m'.format = formatName ∧
      (m'.frames.length : Int) = m'.frameCount.toInt ∧
      ∀ name ∈ m'.frames, ∃ n, t.stat (Path.join [dir, m'.framesBasePath, name]) = .ok n := by
  simp [load_eq_ok_iff, there, read_toJson h]

end Manifest

end BlitReel
