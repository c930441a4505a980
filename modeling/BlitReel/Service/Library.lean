import BlitReel.Manifest.Storage
import BlitReel.Settings.Basic

/-!
# The library of conversions

Finished conversions are the directories below the root that hold a valid manifest.
-/

namespace BlitReel.Library

/-- The manifest of the conversion of a slug (`Manager.Video`). -/
def video (t : FileTree) (root slug : Octets) : Except Failure Manifest :=
  if Settings.validSlug slug then Manifest.load t (Path.join [root, slug])
  else .error (.plain ("stream: video: invalid slug " ++ Quoted.octets slug))

/-- The names of the finished conversions, in order (`Manager.Videos`). A root that does not exist
holds none. -/
def videos (t : FileTree) (root : Octets) : Except Failure (List Octets) :=
  match t.list root with
  | .error f => if f.cause == .notExist then .ok [] else .error (f.within "stream: list videos")
  | .ok entries =>
    .ok ((entries.filter fun (name, n) =>
      n == .directory && (Manifest.load t (Path.join [root, name])).isOk).map (·.1))

end BlitReel.Library
