import BlitReel.Json.Writer
import BlitReel.Text.Utf8

/-!
# The status of the service (`State`)

What clients are told about the service: whether it is idle or converting, what it converts or has
converted last, how many frames are written and how the last conversion failed.
-/

namespace BlitReel

/-- A status of the service. -/
structure Status where
  /-- What the service does: `Status.idle` or `Status.converting`. -/
  kind : Int64 := 0
  slug : Octets := []
  input : Octets := []
  title : Octets := []
  /-- The number of frames written. -/
  written : Int64 := 0
  /-- When the conversion started, in seconds; `Status.never` when none is running. -/
  started : Int64 := -62135596800
  /-- How the last conversion failed. -/
  error : String := ""
  /-- The conversion that is running. -/
  job? : Option Nat := none
  deriving DecidableEq, Inhabited

namespace Status

/-- The kind of a service that waits for work. -/
def idle : Int64 := 1

/-- The kind of a service at work. -/
def converting : Int64 := 2

/-- No time at all. -/
def never : Int64 := -62135596800

/-- A member of the document, left out when its text is empty. -/
def textMember (name : String) (s : String) : List (String × Json) :=
  if s.isEmpty then [] else [(name, .string s)]

/-- The status as a document (`State.MarshalJSON`). Empty texts and the time zero are left out. -/
def toJson (s : Status) : Json :=
  let started := if s.started == never || s.started == 0 then [] else [("started", Json.ofInt s.started.toInt)]
  .object ([("state", Json.ofInt s.kind.toInt)]
    ++ textMember "slug" (Utf8.text s.slug)
    ++ textMember "input" (Utf8.text s.input)
    ++ textMember "title" (Utf8.text s.title)
    ++ [("written", Json.ofInt s.written.toInt)]
    ++ started
    ++ textMember "error" s.error)

/-- The text of a status. -/
def text (s : Status) : String := Json.compact s.toJson

end Status

end BlitReel
