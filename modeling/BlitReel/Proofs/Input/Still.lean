import Mathlib
import BlitReel.Input.Still
import BlitReel.Proofs.Conversion.Writable
import BlitReel.Proofs.Except
import BlitReel.Proofs.Picture.Resample

/-!
# Still pictures become one frame

The pixels of a still picture are those of one raw frame, and however they are cut into reads they are put together
again (`Source.content_ofOctets`). So a conversion of a still picture on the same grid has one frame, whatever the
picture, and nothing is left over (`OneFrame`).
-/

namespace BlitReel

namespace Source

theorem flatten_pieces (fuel : Nat) (s : Octets) : (pieces fuel s).flatten = s := by
  induction fuel generalizing s with
  | zero => simp [pieces]
  | succ fuel ih =>
    rw [pieces]
    split
    · simp
    · rw [List.flatten_cons, ih, List.take_append_drop]

theorem content_ofOctets (s : Octets) : (ofOctets s).content = s := by
  have whole (ps : List Octets) : content.go (ps.map fun data => { data }) = ps.flatten := by
    induction ps with
    | nil => rfl
    | cons p ps ih =>
      rw [List.map_cons, go_cons, ih]
      rfl
  exact (whole _).trans (flatten_pieces _ s)

theorem ending_ofOctets (s : Octets) : (ofOctets s).ending = .finished := by
  have silent (ps : List Octets) : (ps.map fun data => Delivery.mk data none).findSome? (·.ending?) = none := by
    simp
  rw [ending, Delivery.endingOf]
  exact congrArg (Option.getD · Ending.finished) (silent _)

end Source

namespace Input

/-- A still picture opens exactly if its file can be read, and then it delivers its pixels on the grid. -/
theorem openStill_eq_ok_iff {t : FileTree} {path : Octets} {g : Geometry} {codecs : Picture.Codecs} {s : Source}
    (sound : g.Sound) :
    openStill t path g codecs = .ok s ↔ ∃ p, Picture.load t path codecs = .ok p ∧
      s = Source.ofOctets (p.drawn g.width.toInt.toNat g.height.toInt.toNat).pixels := by
  rw [openStill, stillPixels, Geometry.validate_eq_ok_iff.2 sound]
  cases found : t.stat path with
  | error r => simp [Picture.load, found, bind, Except.bind, throw, throwThe, MonadExceptOf.throw, Except.map]
  | ok node =>
    cases Picture.load t path codecs with
    | error f => simp [bind, Except.bind, Except.map, Except.mapError]
    | ok p => simp [bind, Except.bind, Except.map, Except.mapError, p.toRgb_eq sound, eq_comm]

end Input

namespace Conversion

/-- What a conversion makes of the pixels of one frame: the frame is on disk and reported. There is a result, with one
frame and nothing left over, unless a preview is wanted that has no canvas; then the conversion collapses. -/
structure OneFrame (pix : Octets) (o : ConversionOptions) (out : Outcome) : Prop where
  stored : ∃ f, Frame.encode ⟨1, pix⟩ o.geometry o.palette = .ok f ∧ out.tree.content (o.framePath 1) = .ok f.text
  reported : out.progress = [⟨1, 1⟩]
  succeeds : (o.preview = true → o.HasCanvas) → ∃ res, out.result = .ok res ∧ res.manifest.frameCount = 1 ∧
    res.manifest.frames = [Frame.fileName 1] ∧ res.truncated = 0
  collapses : o.preview = true → ¬ o.HasCanvas → out.collapsed = true
  never_empty : ∀ f, out.result = .error f → f.cause ≠ .noFrames

theorem progress_eq_singleton {ps : List Progress} (one : ps.length = 1)
    (frames : (ps.map (·.frame)).Perm ((List.range 1).map fun i => Int64.ofNat (i + 1)))
    (numbered : ∀ (j : Nat) (p : Progress), ps[j]? = some p → p.written.toInt = j + 1) : ps = [⟨1, 1⟩] := by
  obtain ⟨⟨index, number⟩, rfl⟩ := List.length_eq_one_iff.1 one
  obtain rfl : index = 1 := by simpa using frames
  obtain rfl : number = 1 := Int64.toInt_inj.1 (numbered 0 _ rfl)
  rfl

section Exact

variable {c : Conditions} {t : FileTree} {o : ConversionOptions} {moves : List Run.Move} {pix : Octets}
  (exact_length : pix.length = o.geometry.octets) (sound : o.Sound)

include exact_length

theorem frame_exact : frame pix o 0 = ⟨1, pix⟩ := by
  rw [frame, RawFrame.ofStream, Nat.zero_mul, List.drop_zero, List.take_of_length_le exact_length.le]
  rfl

include sound

theorem frameCount_exact : frameCount pix o = 1 := by
  rw [frameCount, exact_length, Nat.div_self sound.geometry.octets_pos]

/-- Pixels of the right length, however they are read, are one frame. -/
theorem convertAlong_ofOctets (room : Writable c t o 1) (calm : ∀ m ∈ moves, m.Calm)
    (finished : finishes c t (.ofOctets pix) o moves = true) :
    OneFrame pix o (convertAlong c t (.ofOctets pix) o moves) := by
  have content := Source.content_ofOctets pix
  have count : frameCount (Source.ofOctets pix).content o = 1 := by
    rw [content, frameCount_exact exact_length sound]
  have room' : Writable c t o (frameCount (Source.ofOctets pix).content o) := by rwa [count]
  obtain ⟨files, length, perm, numbered⟩ := convertAlong_frames sound room' calm finished (by omega)
  have ends := convertAlong_cases sound room' calm finished (Source.ending_ofOctets pix) rfl (by omega) (by omega)
  have stored := files 0 (by omega)
  rw [content, frame_exact exact_length] at stored
  rw [count] at length perm
  have reported := progress_eq_singleton length perm numbered
  rcases ends with ⟨wanted, large, collapsed⟩ | ⟨fits, res, success, manifest, truncated⟩
  · refine ⟨stored, reported, fun fits => absurd (fits wanted) large, fun _ _ => collapsed, ?_⟩
    intro f fails
    obtain ⟨f', fails', cause⟩ := Outcome.collapsed_iff.1 collapsed
    obtain rfl : f = f' := Except.error.inj (fails.symm.trans fails')
    rw [cause]
    decide
  · rw [fullManifest, count] at manifest
    rw [content, exact_length, Nat.mod_self] at truncated
    refine ⟨stored, reported, fun _ => ⟨res, success, by rw [manifest]; rfl, by rw [manifest]; rfl, truncated⟩, ?_, ?_⟩
    · intro wanted large
      rcases fits with off | fits
      · rw [wanted] at off
        cases off
      · exact absurd fits large
    · intro f fails
      rw [success] at fails
      cases fails

theorem convert_ofOctets (room : Writable c t o 1) : OneFrame pix o (convert c t (.ofOctets pix) o) := by
  obtain ⟨moves, calm, finished, same⟩ := convert_calm c t (.ofOctets pix) sound room.directory
  rw [same]
  exact convertAlong_ofOctets exact_length sound room calm finished

end Exact

end Conversion

namespace Input

open Conversion

/-- A file with a picture of one pixel. -/
def dotFile : Octets :=
  Octets.ofString "BM" ++ [58, 0, 0, 0, 0, 0, 0, 0, 54, 0, 0, 0, 40, 0, 0, 0, 1, 0, 0, 0, 1, 0, 0, 0, 1, 0, 24, 0] ++
    List.replicate 24 0 ++ [51, 51, 153, 0]

/-- A tree with that file and one that only looks like a picture of another kind. -/
def dotTree : FileTree where
  entries := [([Octets.ofString "dot.bmp"], .file dotFile false),
    ([Octets.ofString "dot.jpg"], .file [0xFF, 0xD8] false)]

/-- Decoders to which every file is one grey pixel. -/
def greyCodecs : Picture.Codecs where
  jpeg _ := some (Grid.ofFn 1 1 fun _ _ => .grey 128)

/-- A conversion with a preview. -/
def previewed (g : Geometry) (previewScale : Int64) : ConversionOptions :=
  { outputDir := Octets.ofString "out", geometry := g, fps := 10, workers := 1, preview := true, previewScale }

theorem writable_previewed (g : Geometry) (scale : Int64) : Writable {} {} (previewed g scale) 1 := by
  let dir : Octets := Path.join [Octets.ofString "out", Manifest.framesDir]
  let tree : FileTree := (FileTree.makeAll {} dir).1
  have made : (FileTree.makeAll {} dir).2 = .ok () := by decide +kernel
  have frame : tree.Free (Path.join [dir, Frame.fileName 1]) :=
    ⟨[Octets.ofString "out", Manifest.framesDir, Frame.fileName 1], by decide +kernel, by decide +kernel⟩
  have manifest : Manifest.Feasible Manifest.willing [] tree (Octets.ofString "out") := by
    refine ⟨fun _ _ => rfl, ⟨[Octets.ofString "out", Manifest.temporaryName []], ?_, ?_⟩,
      [Octets.ofString "out", Manifest.fileName], ?_, ?_⟩ <;> decide +kernel
  refine ⟨made, fun i first => ?_, manifest⟩
  obtain rfl : i = 0 := by omega
  exact frame

end Input

end BlitReel
