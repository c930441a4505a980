import BlitReel.Input.Name
import BlitReel.Json.Fields
import BlitReel.Settings.Options
import BlitReel.Text.Quoted

/-!
# Requests

A request names an input and what differs from the settings of the service. It is admitted when the
settings that result are valid and its slug can name a directory.
-/

namespace BlitReel

/-- A request to convert an input. What is zero or empty is taken from the settings of the service. -/
structure Request where
  input : Octets := []
  slug : Octets := []
  width : Int64 := 0
  height : Int64 := 0
  fps : Float := 0
  start : Octets := []
  duration : Octets := []

namespace Request

/-- Set the field that a member names. -/
def setField (r : Request) (key : String) (v : Json) : Option Request :=
  let named := Json.namesField key
  if named "input" then (Json.textOver r.input v).map fun input => { r with input }
  else if named "slug" then (Json.textOver r.slug v).map fun slug => { r with slug }
  else if named "width" then (Json.intOver r.width v).map fun width => { r with width }
  else if named "height" then (Json.intOver r.height v).map fun height => { r with height }
  else if named "fps" then (Json.floatOver r.fps v).map fun fps => { r with fps }
  else if named "start" then (Json.textOver r.start v).map fun start => { r with start }
  else if named "duration" then (Json.textOver r.duration v).map fun duration => { r with duration }
  else some r

/-- The request that a document describes, if every member fits. -/
def ofJson? (j : Json) : Option Request :=
  let f := Json.fill {} setField j
  if f.sound then some f.value else none

/-- The settings of a service with those of a request over them (`Request.apply`). -/
def apply (r : Request) (base : Settings) : Settings :=
  { base with
    slug := if r.slug.isEmpty then base.slug else r.slug
    width := if r.width == 0 then base.width else r.width
    height := if r.height == 0 then base.height else r.height
    fps := if r.fps == 0 then base.fps else r.fps
    start := if r.start.isEmpty then base.start else r.start
    duration := if r.duration.isEmpty then base.duration else r.duration }

/-- The settings of an admitted request: the checks of `Start`. -/
def accept (r : Request) (base : Settings) : Except Failure Settings := do
  if r.input.isEmpty then throw (.plain "stream: start: input must be specified")
  let s := r.apply base
  s.validate
  if !Settings.validSlug s.slug then
    throw (.plain ("stream: start: invalid slug " ++ Quoted.octets s.slug))
  return s

/-- How the service speaks of an input. -/
def title (input : Octets) : Octets := if Input.isUrl input then input else Input.title input

end Request

end BlitReel
