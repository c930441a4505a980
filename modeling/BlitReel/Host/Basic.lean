import BlitReel.Files.FileTree
import BlitReel.Picture.File
import BlitReel.Text.Quoted

/-!
# Hosts

A host is where conversions run: its files, its decoders of pictures, the programs that can be
started on it and what each of them will print, and a record of those that were started. A program is
named by a path, or by a bare name that is looked for in one directory.
-/

namespace BlitReel

/-- What a program does when it is run. -/
structure Program where
  stdout : Octets := []
  stderr : Octets := []
  exit : Int64 := 0
  deriving DecidableEq, Inhabited

/-- A program that was started, with its arguments. -/
structure Start where
  program : Octets
  arguments : List Octets
  deriving DecidableEq

/-- Where conversions run. -/
structure Host where
  tree : FileTree := {}
  /-- The decoders of pictures that are plugged in. -/
  codecs : Picture.Codecs := {}
  /-- The directory in which bare names are looked for. -/
  searchDir : Octets := []
  /-- The program files. -/
  programs : List (Location × Program) := []
  /-- The decoder that the environment names. -/
  decoderHint : Octets := []
  /-- The programs that were started, in order. -/
  started : List Start := []
  /-- What programs printed for the user to see. -/
  echoed : Octets := []

namespace Host

/-- Whether a path leads to a file that can be run. -/
def isExecutable (h : Host) (path : Octets) : Bool :=
  match h.tree.stat path with
  | .ok (.file _ executable) => executable
  | _ => false

/-- The path of the program that a bare name stands for. -/
def search? (h : Host) (name : Octets) : Option Octets :=
  let path := Path.join [h.searchDir, name]
  if h.isExecutable path then some path else none

/-- A bare name for which there is no program. -/
def notFound (name : Octets) : Failure :=
  .plain ("exec: " ++ Quoted.octets name ++ ": executable file not found in $PATH")

/-- The path that a name stands for: a name with a slash is a path. -/
def locate (h : Host) (name : Octets) : Except Failure Octets :=
  if name.contains Path.slash then .ok name
  else match h.search? name with
    | some path => .ok path
    | none => .error (notFound name)

/-- What the program file at a path will do. -/
def programAt (h : Host) (path : Octets) : Except Refusal Program := do
  let loc ← h.tree.resolve path
  match h.tree.get? loc with
  | none => throw .noEntry
  | some (.file _ true) => return ((h.programs.find? (·.1 == loc)).map (·.2)).getD {}
  | some _ => throw .permission

/-- Start a program. Nothing is started when the caller has been called off. -/
def start (h : Host) (name : Octets) (arguments : List Octets) (cancelled : Bool) : Host × Except Failure Program :=
  match h.locate name with
  | .error f => (h, .error f)
  | .ok path =>
    if cancelled then (h, .error .cancelled)
    else match h.programAt path with
      | .error r => (h, .error (r.on "fork/exec" path))
      | .ok p => ({ h with started := h.started ++ [⟨Path.base path, arguments⟩] }, .ok p)

end Host

end BlitReel
