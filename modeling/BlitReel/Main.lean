import BlitReel.Command.Convert

/-!
# The command line

The converter on a real disk. The files that the command line names are read into a tree, the converter runs on
it, and what it has made is written back. No programs are started from here, so inputs that need the
decoder are refused as on a host without one; still pictures are converted.
-/

namespace BlitReel.Disk

/-- The location that a path names, without looking at the disk. -/
def locationOf (path : String) : Location :=
  let p := Path.clean (Octets.ofString path)
  let parts := (Path.components p).filter fun c => !c.isEmpty && c != Path.here
  if Path.isRooted p then [Path.slash] :: parts else parts

/-- Take the file at a path into a tree, if there is one. -/
def takeIn (t : FileTree) (path : String) : IO FileTree := do
  try
    let data ← IO.FS.readBinFile path
    return t.plantAt (locationOf path) (.file (Octets.ofByteArray data) false)
  catch _ => return t

/-- Write what is new or has changed. -/
def writeBack (before after : FileTree) : IO Unit :=
  after.entries.forM fun (loc, n) => do
    if before.get? loc != some n then
      let path := Utf8.text (Path.joinComponents loc)
      match n with
      | .directory => IO.FS.createDirAll path
      | .file content _ => IO.FS.writeBinFile path ⟨content.toArray⟩

/-- The language that the environment asks for. -/
def language : IO String := do
  for name in ["LC_ALL", "LC_MESSAGES", "LANG"] do
    match ← IO.getEnv name with
    | some value => if !value.isEmpty then return String.ofList (value.toList.takeWhile Char.isAlpha)
    | none => pure ()
  return "en"

end BlitReel.Disk

open BlitReel in
/-- Run the converter. -/
def main (arguments : List String) : IO UInt32 := do
  let named := arguments.flatMap fun a => [a, ((a.splitOn "=").drop 1).headD ""]
  let tree ← (named.filter (!·.isEmpty)).foldlM Disk.takeIn ({} : FileTree)
  let host : Host := { tree }
  let conditions : Conditions := { unique := Octets.ofString "0" }
  let exit := Command.Convert.run host conditions (← Disk.language) (arguments.map Octets.ofString) false
  if !exit.complaint.isEmpty then IO.eprintln exit.complaint
  if exit.usage then IO.println (Command.Convert.spec.usage "nfp")
  IO.print exit.shown.out
  IO.eprint exit.shown.err
  Disk.writeBack tree exit.host.tree
  return UInt32.ofNat exit.code
