import BlitReel.Command.Exit
import BlitReel.Command.PictureQuality
import BlitReel.CommandLine.Reading

/-!
# The quality test

The program that encodes every still picture in a directory and says how far each result is from its
picture, and how far they are on the mean. A picture that cannot be encoded counts in the mean as one
without error.
-/

namespace BlitReel.Command.QualityTest

open CommandLine (Flag Operand Spec Reading)

/-- The name of the program. -/
def name : String := "qualitytest"

/-- The command line of the test. -/
def spec : Spec where
  flags := [
    { name := "width", kind := .int }, { name := "height", kind := .int }, { name := "scale", kind := .int },
    { name := "cpuprofile", kind := .text }]
  operands := [{ name := "input", required := false }, { name := "output", required := false }]

/-- What the test is told. -/
structure Task where
  input : Octets := Octets.ofString "input_test"
  output : Octets := Octets.ofString "output_test"
  geometry : Geometry := ⟨26, 20⟩
  scale : Int64 := 8
  profile : Octets := []

/-- What a command line tells the test. -/
def Task.ofReading (r : Reading) : Task :=
  let d : Task := {}
  { input := (r.operand? 0).getD d.input
    output := (r.operand? 1).getD d.output
    geometry := ⟨(r.int? "width").getD d.geometry.width, (r.int? "height").getD d.geometry.height⟩
    scale := (r.int? "scale").getD d.scale
    profile := (r.text? "cpuprofile").getD d.profile }

/-- A note of the test. -/
def noteOf (level : Level) (template : String) (values : List Template.Value) : Note :=
  { level, component := name, template, values }

/-- How the test stands after some pictures. -/
structure Progress where
  tree : FileTree
  total : Float := 0
  journal : Journal := []
  collapse? : Option Failure := none

/-- Encode one picture and note its error. -/
def takePicture (codecs : Picture.Codecs) (k : Task) (p : Progress) (picture : Octets) : Progress :=
  if p.collapse?.isSome then p
  else
    let spelled := Template.Value.text (Utf8.text picture)
    let (tree, r) := Quality.convert p.tree (Path.join [k.input, picture]) k.output k.geometry k.scale codecs
    match r with
    | .ok e =>
      { p with tree, total := p.total + e
               journal := p.journal ++ [noteOf .info "%s: mean error %.2f" [spelled, .float e]] }
    | .error f =>
      if f.cause == .collapse then { p with tree, collapse? := some f }
      else { p with tree, journal := p.journal ++ [noteOf .error "Failed to process %s: %s" [spelled, .text f.message]] }

/-- The still pictures among the entries of a directory, in order. -/
def pictures (entries : List (Octets × FileNode)) : List Octets :=
  (entries.filter fun (n, node) => node != .directory && Input.isStill n).map (·.1)

/-- The note of the mean error of a directory; there is none without pictures. -/
def meanNote (input : Octets) (total : Float) (count : Nat) : Journal :=
  if count == 0 then []
  else [noteOf .info "%s: mean error %.2f" [.text (Utf8.text input), .float (total / Float.ofNat count)]]

/-- How far the test came: the tree it left, its notes and its exit code. -/
structure Course where
  tree : FileTree
  journal : Journal := []
  code : Nat := 1
  usage : Bool := false
  collapse? : Option Failure := none

/-- A test that ends with a failure. -/
def stopped (tree : FileTree) (f : Failure) : Course := { tree, journal := [noteOf .error "%s" [.text f.message]] }

/-- Encode the pictures of a directory that has been read. -/
def survey (codecs : Picture.Codecs) (k : Task) (t : FileTree) (entries : List (Octets × FileNode)) : Course :=
  let names := pictures entries
  let p := names.foldl (takePicture codecs k) { tree := t }
  match p.collapse? with
  | some f => { tree := p.tree, journal := p.journal, collapse? := some f }
  | none => { tree := p.tree, journal := p.journal ++ meanNote k.input p.total names.length, code := 0 }

/-- Create the file of the profile when one is wanted. -/
def createProfile (t : FileTree) (k : Task) : Except Failure FileTree :=
  if k.profile.isEmpty then .ok t else (t.put k.profile []).mapError (·.on "open" k.profile)

/-- Do what the test is told. -/
def perform (codecs : Picture.Codecs) (t : FileTree) (k : Task) : Course :=
  match createProfile t k with
  | .error f => stopped t f
  | .ok t =>
    match k.geometry.validate with
    | .error f => { stopped t f with usage := true }
    | .ok () =>
      match t.list k.input with
      | .error f => stopped t f
      | .ok entries =>
        match t.makeAll k.output with
        | (t, .error f) => stopped t f
        | (t, .ok ()) => survey codecs k t entries

/-- Run the test. -/
def run (h : Host) (language : String) (arguments : List Octets) : Exit :=
  match CommandLine.read spec arguments with
  | .error f => { code := 1, host := h, complaint := CommandLine.complaint name f.message }
  | .ok r =>
    if r.wantsHelp then { host := h, usage := true }
    else
      let c := perform h.codecs h.tree (Task.ofReading r)
      let console : Console := { threshold := .info, language }
      { code := c.code, host := { h with tree := c.tree }, shown := console.showAll c.journal
        usage := c.usage, collapse? := c.collapse? }

end BlitReel.Command.QualityTest
