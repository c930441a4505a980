import BlitReel.Files.FileTree
import BlitReel.Json.Reader
import BlitReel.Json.Writer
import BlitReel.Manifest.Basic

/-!
# Manifests on disk

A manifest is written to a temporary file beside its place and moved there when it is complete, so
that a reader sees the old document or the new one. `Manifest.store` keeps every tree that the disk
passes through. Reading checks the format, the count and that every frame exists.
-/

namespace BlitReel.Manifest

/-- The steps of writing at which the system may refuse. When it refuses to write, it has taken the octets in
front of the first that it refuses. -/
inductive Stage where
  | create
  | write
  | octet (place : Nat)
  | close
  | permit
  | rename
  deriving DecidableEq

/-- What the system refuses beyond what the tree itself rules out. -/
abbrev Refusals := Stage → Option Failure

/-- A system that refuses nothing. -/
def willing : Refusals := fun _ => none

/-- The trees that the disk passed through, the last one first, and how it ended. -/
structure Storing where
  trees : List FileTree
  outcome : Except Failure Unit

/-- The name of a temporary file with a part that makes it unique. -/
def temporaryName (unique : Octets) : Octets :=
  Octets.ofString ".manifest-" ++ unique ++ Octets.ofString ".json"

/-- The directory of temporary files when none is named. -/
def scratchDir : Octets := Octets.ofString "/tmp"

/-- A name in a directory, put behind the text of the directory as it is. -/
def beside (dir name : Octets) : Octets :=
  let dir := if dir.isEmpty then scratchDir else dir
  if dir.getLast? == some Path.slash then dir ++ name else dir ++ Path.slash :: name

/-- Words before a failure to write. -/
def storeFailure (f : Failure) : Failure := f.within "nfp: WriteManifest"

/-- The failure to find a name under which nothing stands. -/
def noFreeName (dir : Octets) : Failure :=
  .plain ("createtemp " ++ Utf8.text (beside dir (temporaryName [0x2A])) ++ ": file already exists")

/-- Create the temporary file. Nothing may stand under its name. -/
def createTemporary (refuse : Refusals) (unique : Octets) (t : FileTree) (dir : Octets) : Except Failure FileTree :=
  let path := beside dir (temporaryName unique)
  match refuse .create, t.stat path with
  | some f, _ => .error f
  | none, .ok _ => .error (noFreeName dir)
  | none, .error _ => (t.put path []).mapError (·.on "open" path)

/-- The octets that the system takes when it refuses to write, the first of which is octet `place`. -/
def taken (refuse : Refusals) : Octets → Nat → Octets
  | [], _ => []
  | b :: rest, place =>
    match refuse (.octet place) with
    | some _ => []
    | none => b :: taken refuse rest (place + 1)

/-- Fill the temporary file, set its mode and move it to its place. -/
def fillAndMove (refuse : Refusals) (t : FileTree) (temp target content : Octets) : Storing :=
  let failed (trees : List FileTree) (f : Failure) : Storing :=
    ⟨((trees.headD t).remove temp) :: trees, .error (storeFailure f)⟩
  match refuse .write with
  | some f =>
    match t.put temp (taken refuse content 0) with
    | .error r => failed [t] (r.on "write" temp)
    | .ok torn => failed [torn, t] f
  | none =>
    match t.put temp content with
    | .error r => failed [t] (r.on "write" temp)
    | .ok full =>
      match refuse .close, refuse .permit, refuse .rename with
      | some f, _, _ => failed [full, t] f
      | none, some f, _ => failed [full, t] f
      | none, none, some f => failed [full, t] f
      | none, none, none =>
        match full.rename temp target with
        | .error r => failed [full, t] (FileTree.renameFailure temp target r)
        | .ok moved => ⟨[moved, full, t], .ok ()⟩

/-- Write the document of a manifest into a directory. -/
def storeDocument (refuse : Refusals) (unique : Octets) (t : FileTree) (dir document : Octets) : Storing :=
  match createTemporary refuse unique t dir with
  | .error f => ⟨[t], .error (storeFailure f)⟩
  | .ok created =>
    let s := fillAndMove refuse created (beside dir (temporaryName unique)) (Path.join [dir, fileName]) document
    ⟨s.trees ++ [t], s.outcome⟩

/-- Write a manifest into a directory. -/
def store (refuse : Refusals) (unique : Octets) (t : FileTree) (dir : Octets) (m : Manifest) : Storing :=
  match m.toJson with
  | .error f => ⟨[t], .error (storeFailure f)⟩
  | .ok j => storeDocument refuse unique t dir (Octets.ofString j.indented)

/-- The tree at the end of a writing. -/
def Storing.final (s : Storing) (t : FileTree) : FileTree := s.trees.headD t

/-- Every frame that a manifest lists exists. -/
def checkFrames (t : FileTree) (dir : Octets) (m : Manifest) : List Octets → Except Failure Unit
  | [] => .ok ()
  | name :: rest =>
    let path := Path.join [dir, m.framesBasePath, name]
    match t.stat path with
    | .ok _ => checkFrames t dir m rest
    | .error r => .error ((r.on "stat" path).within "nfp: ReadManifest")

/-- A document that is not well formed or does not fit a manifest. -/
def badDocument : Failure := ⟨.document, "nfp: ReadManifest: " ++ Json.malformed⟩

/-- Read and check the manifest of a directory. -/
def load (t : FileTree) (dir : Octets) : Except Failure Manifest := do
  let data ← t.content (Path.join [dir, fileName])
  let j ← (Json.read data).mapError fun _ => badDocument
  let m ← match ofJson? j with
    | some m => pure m
    | none => throw badDocument
  if m.format ≠ formatName then
    throw (.plain ("nfp: ReadManifest: unknown format " ++ Quoted.octets m.format))
  if (m.frames.length : Int) ≠ m.frameCount.toInt then
    throw (.plain (s!"nfp: ReadManifest: frameCount is {m.frameCount.toInt} but "
      ++ s!"{m.frames.length} frames are listed"))
  checkFrames t dir m m.frames
  return m

end BlitReel.Manifest
