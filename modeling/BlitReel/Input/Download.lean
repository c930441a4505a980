import BlitReel.Host.Basic
import BlitReel.Input.Metadata
import BlitReel.Json.Fields
import BlitReel.Json.Reader
import BlitReel.Text.Blank

/-!
# Downloads

An address is downloaded by a program that writes the video to its output and, as the first thing in
its error output, a document that describes it. Without that document the download has failed.
-/

namespace BlitReel

/-- What is said about a downloaded video. -/
structure VideoInfo where
  id : Octets := []
  title : Octets := []
  uploader : Octets := []
  /-- The length in seconds. -/
  duration : Float := 0
  webpageUrl : Octets := []
  width : Int64 := 0
  height : Int64 := 0
  ext : Octets := []

namespace VideoInfo

/-- Set the field that a member names. -/
def setField (i : VideoInfo) (key : String) (v : Json) : Option VideoInfo :=
  let named := Json.namesField key
  if named "id" then (Json.textOver i.id v).map fun id => { i with id }
  else if named "title" then (Json.textOver i.title v).map fun title => { i with title }
  else if named "uploader" then (Json.textOver i.uploader v).map fun uploader => { i with uploader }
  else if named "duration" then (Json.floatOver i.duration v).map fun duration => { i with duration }
  else if named "webpage_url" then (Json.textOver i.webpageUrl v).map fun webpageUrl => { i with webpageUrl }
  else if named "width" then (Json.intOver i.width v).map fun width => { i with width }
  else if named "height" then (Json.intOver i.height v).map fun height => { i with height }
  else if named "ext" then (Json.textOver i.ext v).map fun ext => { i with ext }
  else some i

/-- The description in the first document of an error output. -/
def ofOutput? (stderr : Octets) : Option VideoInfo :=
  match Json.readFirst stderr with
  | .error _ => none
  | .ok (j, _) =>
    let f := Json.fill {} setField j
    if f.sound then some f.value else none

/-- The metadata of a described video. -/
def metadata (i : VideoInfo) : Metadata :=
  { title := i.title, duration := Binary64.toWord (i.duration * 1e9), hasVideo := true }

end VideoInfo

namespace Input

/-- The arguments of the program that downloads. -/
def downloadArguments (url : Octets) : List Octets :=
  (["-f", "best[height<=720]/best", "-o", "-", "--print-json"].map Octets.ofString) ++ [url]

/-- A download that gave no description. -/
def downloadFailure (p : Program) : Failure :=
  if p.exit == 0 then .plain "stream: yt-dlp exited cleanly without metadata"
  else .plain ("stream: yt-dlp: failed to parse json: " ++ Json.malformed ++ "; output: "
    ++ Utf8.text (Blank.trim p.stderr))

/-- Start downloading an address (`YoutubeDLSource`). -/
def startDownload (h : Host) (url : Octets) (cancelled : Bool) : Host × Except Failure Metadata :=
  match h.start (Octets.ofString "yt-dlp") (downloadArguments url) cancelled with
  | (h, .error f) => (h, .error (f.within "stream: start yt-dlp"))
  | (h, .ok p) =>
    match VideoInfo.ofOutput? p.stderr with
    | some i => (h, .ok i.metadata)
    | none => (h, .error (downloadFailure p))

end Input

end BlitReel
