import BlitReel.Failure
import BlitReel.Files.Path

/-!
# File trees

What the disk holds: directories and files by location below the working directory. Operations
resolve a path component by component, so that a missing or misused component is noticed where it
stands, and change nothing when they fail. A file may have more names than one (`Links`): what is written
under one of them is found under all.
-/

namespace BlitReel

/-- The system's reason for refusing an operation on a path. -/
inductive Refusal where
  | noEntry
  | notDirectory
  | isDirectory
  | exists
  | permission
  | invalid
  | nameTooLong
  deriving DecidableEq

/-- The wording of a refusal. -/
def Refusal.message : Refusal → String
  | .noEntry => "no such file or directory"
  | .notDirectory => "not a directory"
  | .isDirectory => "is a directory"
  | .exists => "file exists"
  | .permission => "permission denied"
  | .invalid => "invalid argument"
  | .nameTooLong => "file name too long"

/-- The cause of the failure that a refusal amounts to. -/
def Refusal.cause : Refusal → Cause
  | .noEntry => .notExist
  | _ => .other

/-- A refused operation on a path as a failure. -/
def Refusal.on (r : Refusal) (operation : String) (path : Octets) : Failure :=
  ⟨r.cause, operation ++ " " ++ Utf8.text path ++ ": " ++ r.message⟩

/-- How the system may refuse to write a file: before it is opened, or after so many octets. -/
inductive WriteFault where
  | unopened (f : Failure)
  | after (count : Nat) (f : Failure)
  deriving DecidableEq

/-- The components from the working directory to a place. A location that starts with a slash
starts at the root instead, and one that starts with `..` lies above the working directory. -/
abbrev Location := List Octets

/-- What stands at a location. -/
inductive FileNode where
  | directory
  | file (content : Octets) (executable : Bool)
  deriving DecidableEq, Inhabited

/-- The files that have several names, each by the locations of its names. -/
structure Links where
  files : List (List Location) := []

/-- The other names of the file at a location. -/
def Links.others (links : Links) (loc : Location) : List Location :=
  (links.files.filter (·.contains loc)).flatten.filter (· != loc)

/-- Nodes by location. -/
structure FileTree where
  /-- The text by which the working directory is named from the root. -/
  home : Octets := []
  entries : List (Location × FileNode) := []
  deriving DecidableEq, Inhabited

namespace FileTree

/-- Places that exist in every tree: the working directory, what lies above it, and the root. -/
def isGiven (loc : Location) : Bool := loc.all (· == Path.up) || loc == [[Path.slash]]

/-- What stands at a location. -/
def get? (t : FileTree) (loc : Location) : Option FileNode :=
  if isGiven loc then some .directory
  else (t.entries.find? (·.1 == loc)).map (·.2)

/-- Put a node at a location. -/
def set (t : FileTree) (loc : Location) (n : FileNode) : FileTree :=
  if t.entries.any (·.1 == loc) then
    { t with entries := t.entries.map fun e => if e.1 == loc then (loc, n) else e }
  else { t with entries := t.entries ++ [(loc, n)] }

/-- Take away what stands at a location. -/
def erase (t : FileTree) (loc : Location) : FileTree :=
  { t with entries := t.entries.filter (·.1 != loc) }

/-- The longest component. -/
def maxName : Nat := 255

/-- The longest path. -/
def maxPath : Nat := 4095

/-- The place above a location. -/
def parent (loc : Location) : Location :=
  if isGiven loc then if loc == [[Path.slash]] then loc else loc ++ [Path.up] else loc.dropLast

/-- Follow components from a location. All but the last must lead to directories. -/
def walk (t : FileTree) : List Octets → Location → Except Refusal Location
  | [], loc => .ok loc
  | c :: rest, loc =>
    match t.get? loc with
    | none => .error .noEntry
    | some (.file ..) => .error .notDirectory
    | some .directory =>
      if c.isEmpty || c == Path.here then walk t rest loc
      else if c == Path.up then walk t rest (parent loc)
      else if c.length > maxName then .error .nameTooLong
      else walk t rest (loc ++ [c])

/-- The location that a path leads to; nothing needs to stand there. -/
def resolve (t : FileTree) (p : Octets) : Except Refusal Location :=
  if p.isEmpty then .error .noEntry
  else if p.contains 0 then .error .invalid
  else if p.length > maxPath then .error .nameTooLong
  else if !t.home.isEmpty && (t.home ++ [Path.slash]).isPrefixOf p then
    t.walk (Path.components (p.drop (t.home.length + 1))) []
  else if p == t.home then .ok []
  else if Path.isRooted p then t.walk (Path.components p) [[Path.slash]]
  else t.walk (Path.components p) []

/-- What a path leads to. -/
def stat (t : FileTree) (p : Octets) : Except Refusal FileNode := do
  let loc ← t.resolve p
  match t.get? loc with
  | some n => return n
  | none => throw .noEntry

/-- The content of the file at a path. -/
def content (t : FileTree) (p : Octets) : Except Failure Octets :=
  match t.stat p with
  | .ok (.file content _) => .ok content
  | .ok .directory => .error (Refusal.isDirectory.on "read" p)
  | .error r => .error (r.on "open" p)

/-- Whether a path leads to a directory. -/
def isDirectory (t : FileTree) (p : Octets) : Bool :=
  match t.stat p with
  | .ok .directory => true
  | _ => false

/-- Create or replace the file at a path. -/
def put (t : FileTree) (p content : Octets) : Except Refusal FileTree := do
  let loc ← t.resolve p
  match t.get? loc with
  | some .directory => throw .isDirectory
  | some (.file _ executable) => return t.set loc (.file content executable)
  | none => return t.set loc (.file content false)

/-- Let the other names of the file at a path have what stands there. -/
def share (t : FileTree) (links : Links) (p : Octets) : FileTree :=
  match t.resolve p with
  | .error _ => t
  | .ok loc =>
    match t.get? loc with
    | none => t
    | some n => (links.others loc).foldl (fun t other => t.set other n) t

/-- Write the file at a path. A write that breaks off leaves the octets written before. -/
def write (t : FileTree) (p content : Octets) (fault? : Option WriteFault := none) (links : Links := {}) :
    FileTree × Except Failure Unit :=
  let opened (kept : Octets) (result : Except Failure Unit) : FileTree × Except Failure Unit :=
    match t.put p kept with
    | .ok t => (t.share links p, result)
    | .error r => (t, .error (r.on "open" p))
  match fault? with
  | none => opened content (.ok ())
  | some (.unopened f) => (t, .error f)
  | some (.after count f) => opened (content.take count) (.error f)

/-- Create a directory whose parent exists. -/
def makeDir (t : FileTree) (p : Octets) : Except Refusal FileTree := do
  let loc ← t.resolve (if Path.dropSlashes p == [] then p else Path.dropSlashes p)
  match t.get? loc with
  | some _ => throw .exists
  | none => return t.set loc .directory

/-- The part of a path before its last component, without the slash between; `none` when there is
no such part. -/
def parentText? (p : Octets) : Option Octets :=
  let front := (Path.dropSlashes p).reverse.dropWhile (· != Path.slash)
  if front.length > 1 then some (front.drop 1).reverse else none

/-- Create a directory and the directories that lead to it, unless the system refuses one. The depth
bounds the number of components. Directories made before a failure stay. -/
def makeDirs (refuse : Octets → Option Failure) : Nat → FileTree → Octets → FileTree × Except Failure Unit
  | 0, t, p => (t, .error (Refusal.noEntry.on "mkdir" p))
  | depth + 1, t, p =>
    match t.stat p with
    | .ok .directory => (t, .ok ())
    | .ok (.file ..) => (t, .error (Refusal.notDirectory.on "mkdir" p))
    | .error _ =>
      let (t, above) := match parentText? p with
        | some q => makeDirs refuse depth t q
        | none => (t, .ok ())
      match above with
      | .error f => (t, .error f)
      | .ok () =>
        match refuse p, t.makeDir p with
        | some f, _ => (t, .error f)
        | none, .ok t => (t, .ok ())
        | none, .error r => (t, if t.isDirectory p then .ok () else .error (r.on "mkdir" p))

/-- Create a directory and the directories that lead to it, unless the system refuses one. -/
def makeAll (t : FileTree) (p : Octets) (refuse : Octets → Option Failure := fun _ => none) :
    FileTree × Except Failure Unit :=
  makeDirs refuse (p.length + 1) t p

/-- Move a file over another place, where no directory may stand. -/
def rename (t : FileTree) (old new : Octets) : Except Refusal FileTree := do
  let source ← t.resolve old
  match t.get? source with
  | none => throw .noEntry
  | some n =>
    let target ← t.resolve new
    if t.get? target == some .directory then throw .exists
    return (t.erase source).set target n

/-- A failed move as a failure. -/
def renameFailure (old new : Octets) (r : Refusal) : Failure :=
  ⟨r.cause, "rename " ++ Utf8.text old ++ " " ++ Utf8.text new ++ ": " ++ r.message⟩

/-- Take away the file at a path, if one stands there. -/
def remove (t : FileTree) (p : Octets) : FileTree :=
  match t.resolve p with
  | .ok loc => t.erase loc
  | .error _ => t

/-- Names in the order of their octets. -/
def nameBefore (a b : Octets) : Bool := !(b < a)

/-- The name of an entry below a location, with what stands there. -/
def childOf (loc : Location) (e : Location × FileNode) : Option (Octets × FileNode) :=
  match e.1.getLast? with
  | some name => if e.1.dropLast == loc then some (name, e.2) else none
  | none => none

/-- The names below a location with what stands there, in order. -/
def children (t : FileTree) (loc : Location) : List (Octets × FileNode) :=
  (t.entries.filterMap (childOf loc)).mergeSort fun a b => nameBefore a.1 b.1

/-- The names in the directory at a path, in order. -/
def list (t : FileTree) (p : Octets) : Except Failure (List (Octets × FileNode)) :=
  match t.resolve p with
  | .error r => .error (r.on "open" p)
  | .ok loc =>
    match t.get? loc with
    | none => .error (Refusal.noEntry.on "open" p)
    | some (.file ..) => .error (Refusal.notDirectory.on "readdirent" p)
    | some .directory => .ok (t.children loc)

/-- Put a node at a location and directories above it. A directory leaves what stands there. -/
def plantAt (t : FileTree) (loc : Location) (n : FileNode) : FileTree :=
  let t := (List.range (loc.length - 1)).foldl (fun t i =>
    let above := loc.take (i + 1)
    if (t.get? above).isNone then t.set above .directory else t) t
  if n == .directory && (t.get? loc).isSome then t else t.set loc n

/-- Put a node at a relative path and directories above it. -/
def plant (t : FileTree) (p : Octets) (n : FileNode) : FileTree :=
  t.plantAt ((Path.components p).filter fun c => !c.isEmpty) n

end FileTree

end BlitReel
