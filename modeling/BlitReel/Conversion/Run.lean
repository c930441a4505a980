import BlitReel.Assembler
import BlitReel.Conversion.Options
import BlitReel.Conversion.Source
import BlitReel.Files.FileTree
import BlitReel.Frame.ColourError
import BlitReel.Journal.Basic

/-!
# A conversion in progress

The loop of `Convert`: a reader cuts the source into frames while workers encode them, write their
files and report them. A `Run` is the state between two moves, and `Run.step` makes one move: the
reader reads or hands a frame to a worker, or a worker stores or reports its frame, in whatever order
they come to it. `Run.store` is `writeFrame` up to the lock of the statistics, and `Run.report` what it
does under that lock. The reader stops when the source ends, when a write fails and when the run is
called off; frames already read are still handed out.
-/

namespace BlitReel

/-- A report that a frame is on disk. -/
structure Progress where
  /-- The index of the frame. -/
  frame : Int64
  /-- How many frames are on disk with this one. -/
  written : Int64
  deriving DecidableEq

/-- A frame in a worker's hands; once stored, with its encoding and colour error. -/
structure Task where
  raw : RawFrame
  stored? : Option (Frame × Float) := none

/-- The state of a conversion. -/
structure Run where
  options : ConversionOptions
  /-- The greatest number of tasks. -/
  limit : Nat
  tree : FileTree
  assembler : Assembler
  builder : Manifest.Builder
  /-- What is left to read. -/
  deliveries : List Delivery
  /-- Whether the source has ended. -/
  ended : Bool := false
  readFailure? : Option Failure := none
  /-- Frames read and not yet handed out. -/
  waiting : List RawFrame := []
  tasks : List Task := []
  writeFailure? : Option Failure := none
  cancelled : Bool := false
  written : Nat := 0
  errorSum : Float := 0
  first? : Option Frame := none
  progress : List Progress := []
  journal : Journal := []

namespace Run

/-- The component of the notes of a conversion. -/
def component : String := "convert"

/-- A move of the reader or of a worker. -/
inductive Move where
  /-- The reader takes the next delivery. -/
  | read
  /-- The reader hands the next frame to a worker. -/
  | launch
  /-- A worker encodes and writes its frame; the system may refuse the write. -/
  | store (task : Nat) (fault? : Option WriteFault)
  /-- A worker reports its frame and is done. -/
  | report (task : Nat)
  /-- The run is called off. -/
  | cancel

/-- Whether the reader is to stop. -/
def interrupted (r : Run) : Bool := r.cancelled || r.writeFailure?.isSome

/-- With a note of the conversion. -/
def note (r : Run) (level : Level) (template : String) (values : List Template.Value) : Run :=
  { r with journal := r.journal ++ [{ level, component, template, values }] }

/-- Cut what was delivered into frames and note whether the source has ended. -/
def receive (r : Run) (d : Delivery) : Run :=
  let (waiting, assembler) := if d.data.isEmpty then ([], r.assembler) else (r.assembler.write d.data).drain
  let r := { r with waiting, assembler }
  match d.ending? with
  | none => r
  | some .finished => { r with ended := true }
  | some (.broken message) =>
    { r with ended := true, readFailure? := some ((Failure.plain message).within "nfp: Convert: read") }

/-- Take the next delivery. -/
def read (r : Run) : Run :=
  if r.ended || r.interrupted || !r.waiting.isEmpty then r
  else match r.deliveries with
    | [] => { r with ended := true }
    | d :: deliveries => { r with deliveries }.receive d

/-- Hand the next frame to a worker, if one is free. -/
def launch (r : Run) : Run :=
  match r.waiting with
  | raw :: waiting =>
    if r.tasks.length < r.limit then { r with waiting, tasks := r.tasks ++ [{ raw }] } else r
  | [] => r

/-- A task has failed: the first failure is kept. -/
def fail (r : Run) (k : Nat) (f : Failure) : Run :=
  { r with tasks := r.tasks.eraseIdx k, writeFailure? := r.writeFailure?.or (some f) }

/-- Write the file of a frame. -/
def writeFile (r : Run) (index : Int64) (f : Frame) (fault? : Option WriteFault) (links : Links := {}) :
    FileTree × Except Failure Unit :=
  let (tree, written) := r.tree.write (r.options.framePath index) f.text fault? links
  (tree, written.mapError (·.within s!"nfp: Convert: write frame {index.toInt}"))

/-- Encode and write the frame of a task and record its name. -/
def store (r : Run) (k : Nat) (fault? : Option WriteFault) (links : Links := {}) : Run :=
  match r.tasks[k]? with
  | some ⟨raw, none⟩ =>
    match Frame.encode raw r.options.geometry r.options.palette with
    | .error f => r.fail k f.toFailure
    | .ok f =>
      match r.writeFile raw.index f fault? links, Frame.meanError raw.pix (some f) r.options.palette with
      | (tree, .error e), _ => { r with tree }.fail k e
      | (tree, .ok ()), .error c => { r with tree }.fail k c.toFailure
      | (tree, .ok ()), .ok error =>
        let r := { r with
          tree, builder := r.builder.set raw.index (Frame.fileName raw.index)
          tasks := r.tasks.set k ⟨raw, some (f, error)⟩ }
        r.note .debug "Frame %d written, mean error %.2f" [.int raw.index, .float error]
  | _ => r

/-- Count the frame of a task and report it. -/
def report (r : Run) (k : Nat) : Run :=
  match r.tasks[k]? with
  | some ⟨raw, some (f, error)⟩ =>
    let written := r.written + 1
    { r with
      tasks := r.tasks.eraseIdx k, written, errorSum := r.errorSum + error
      first? := if raw.index == 1 then some f else r.first?
      progress := r.progress ++ [⟨raw.index, Int64.ofNat written⟩] }
  | _ => r

/-- Make a move; one that is not possible changes nothing. -/
def step (r : Run) (m : Move) (links : Links := {}) : Run :=
  match m with
  | .read => r.read
  | .launch => r.launch
  | .store k fault? => r.store k fault? links
  | .report k => r.report k
  | .cancel => { r with cancelled := true }

/-- Make moves one after the other. -/
def steps (r : Run) (moves : List Move) (links : Links := {}) : Run := moves.foldl (fun r m => r.step m links) r

/-- Whether the reader has stopped and all workers are done. -/
def settled (r : Run) : Bool := (r.ended || r.interrupted) && r.waiting.isEmpty && r.tasks.isEmpty

/-- The next move when the reader keeps ahead of the workers and they take turns. -/
def nextMove? (r : Run) : Option Move :=
  if !r.waiting.isEmpty && r.tasks.length < r.limit then some .launch
  else if r.waiting.isEmpty && !r.ended && !r.interrupted then some .read
  else match r.tasks with
    | [] => none
    | ⟨_, none⟩ :: _ => some (.store 0 none)
    | ⟨_, some _⟩ :: _ => some (.report 0)

/-- Make next moves until none is left. -/
def drive : Nat → Run → Run
  | 0, r => r
  | fuel + 1, r =>
    match r.nextMove? with
    | some m => drive fuel (r.step m)
    | none => r

/-- The most moves that a run can make: one for each delivery and for the end, three for each frame,
which has three octets at least. -/
def effort (r : Run) : Nat := r.deliveries.foldr (fun d n => d.data.length + 1 + n) 2

/-- Make next moves to the end. -/
def complete (r : Run) : Run := drive r.effort r

end Run

end BlitReel
