import BlitReel.Host.Basic
import BlitReel.Input.Report
import BlitReel.Movie.Header

/-!
# Probing inputs

The metadata of a local file are read from its movie header when it has one, and otherwise from the
report of the prober.
-/

namespace BlitReel.Input

/-- What stands in the file at a path, as far as it can be read. -/
def movieFile (t : FileTree) (path : Octets) : Except Failure (Option Movie) :=
  match t.stat path with
  | .error r => .error (r.on "open" path)
  | .ok .directory => .error (Movie.Survey.broken.within "stream: decode mp4")
  | .ok (.file content _) =>
    (Movie.read content).mapError fun f =>
      if f.cause == .collapse then f else f.within "stream: decode mp4"

/-- The metadata in the header of a movie file (`probeMP4`). -/
def probeMovie (t : FileTree) (path : Octets) : Except Failure Metadata := do
  let missing := Failure.plain ("stream: " ++ Utf8.text path ++ " has no movie header")
  match ← movieFile t path with
  | none => throw missing
  | some m =>
    match m.header? with
    | none => throw missing
    | some h => return { title := title path, duration := h.length, hasVideo := m.hasVideo }

/-- The metadata that the prober reports (`probeFFprobe`). -/
def probeReport (h : Host) (path : Octets) : Host × Except Failure Metadata :=
  let failed (f : Failure) : Except Failure Metadata := .error (f.within "stream: ffprobe")
  match h.start (Octets.ofString "ffprobe") [Octets.ofString "-hide_banner", path] false with
  | (h, .error f) => (h, failed f)
  | (h, .ok p) =>
    if p.exit == 0 then (h, .ok (Report.metadata (title path) (p.stderr ++ p.stdout)))
    else (h, failed (.plain s!"exit status {p.exit.toInt}"))

/-- The metadata of a local file (`Probe`). -/
def probe (h : Host) (path : Octets) : Host × Except Failure Metadata :=
  match h.tree.stat path with
  | .error r => (h, .error (r.on "stat" path))
  | .ok _ =>
    if isMovie path then
      match probeMovie h.tree path with
      | .ok m => (h, .ok m)
      | .error f => if f.cause == .collapse then (h, .error f) else probeReport h path
    else probeReport h path

end BlitReel.Input
