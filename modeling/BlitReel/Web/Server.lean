import BlitReel.Json.Reader
import BlitReel.Service.Library
import BlitReel.Service.Manager
import BlitReel.Web.Address
import BlitReel.Web.MediaType

/-!
# The web server

The service is used over the web: requests below `/api` ask for the status, start and call off a
conversion and list what is there; those below `/videos` fetch files. `Web.route` finds what a request
asks for and `Web.respond` answers it.
-/

namespace BlitReel.Web

/-- A web request. -/
structure Query where
  method : String
  target : Octets
  contentType : Octets := []
  body : Octets := []

/-- An answer to a web request. -/
structure Response where
  code : Nat
  type : String
  body : Octets

/-- What a request can ask for. -/
inductive Route where
  /-- Join as a client. -/
  | client
  | status
  | convert
  | cancel
  | videos
  | video (slug : Octets)
  /-- A file below the root, by the path behind `/videos`. -/
  | file (path : Octets)
  deriving DecidableEq

/-- A request that cannot be answered: a code and words. -/
structure Problem where
  code : Nat
  words : String
  deriving DecidableEq

/-- Nothing is there. -/
def notFound : Problem := ⟨404, "Not Found"⟩

/-- Something is there, but not for this method. -/
def methodNotAllowed : Problem := ⟨405, "Method Not Allowed"⟩

/-- A failure that is not the client's. -/
def internal : Problem := ⟨500, "Internal Server Error"⟩

/-- What stands at a path, with the method that it wants. -/
def place? (path : Octets) : Option (String × Route) :=
  let named (s : String) : Bool := path == Octets.ofString s
  let below? (s : String) : Option Octets :=
    if (Octets.ofString s).isPrefixOf path then some (path.drop s.utf8ByteSize) else none
  if named "/api/client" then some ("GET", .client)
  else if named "/api/state" then some ("GET", .status)
  else if named "/api/convert" then some ("POST", .convert)
  else if named "/api/cancel" then some ("POST", .cancel)
  else if named "/api/videos" then some ("GET", .videos)
  else if named "/videos" then some ("GET", .file [])
  else match below? "/api/videos/", below? "/videos/" with
    | some slug, _ =>
      if slug.isEmpty || slug.contains Path.slash then none else some ("GET", .video slug)
    | none, some rest => some ("GET", .file rest)
    | none, none => none

/-- What a request asks for. -/
def route (method : String) (path : Octets) : Except Problem Route :=
  match place? path with
  | none => .error notFound
  | some (wanted, r) => if method == wanted then .ok r else .error methodNotAllowed

/-- The type of the documents that the server answers with. -/
def documentType : String := "application/json; charset=UTF-8"

/-- A document as an answer; a client may ask for one that is easy to read. -/
def document (pretty : Bool) (code : Nat) (j : Json) : Response :=
  ⟨code, documentType, Octets.ofString ((if pretty then Json.indented j else Json.compact j) ++ "\n")⟩

/-- A problem as an answer. One who asks for the head alone gets no document. -/
def problem (method : String) (pretty : Bool) (p : Problem) : Response :=
  if method == "HEAD" then ⟨p.code, "", []⟩
  else document pretty p.code (.object [("message", .string p.words)])

/-- The request in the body of a query. -/
def readRequest (q : Query) : Except Problem Request :=
  if q.body.isEmpty then .error ⟨400, "Request body can't be empty"⟩
  else if !(Octets.ofString "application/json").isPrefixOf q.contentType then
    .error ⟨415, "Unsupported Media Type"⟩
  else match Json.readFirst q.body with
    | .error .ended => .error ⟨400, if q.body.all Json.isSpace then "EOF" else "unexpected EOF"⟩
    | .error _ => .error ⟨400, "Syntax error: " ++ Json.malformed⟩
    | .ok (j, _) =>
      match Request.ofJson? j with
      | some r => .ok r
      | none => .error ⟨400, "Unmarshal type error: " ++ Json.malformed⟩

/-- The file at a path, or the index of the directory there. -/
def fetch (t : FileTree) (path : Octets) : Except Problem Response :=
  let found (path content : Octets) : Response := ⟨200, typeOf (Path.base path) content, content⟩
  match t.stat path with
  | .ok (.file content _) => .ok (found path content)
  | .ok .directory =>
    let index := Path.join [path, Octets.ofString "index.html"]
    match t.stat index with
    | .ok (.file content _) => .ok (found index content)
    | _ => .error notFound
  | .error _ => .error notFound

/-- The file that a path behind `/videos` names. No path leads out of the root. -/
def fetchBelow (t : FileTree) (root path : Octets) : Except Problem Response :=
  match unescape path with
  | none => .error internal
  | some p =>
    let root := if root.isEmpty then Path.here else root
    fetch t (Path.join [root, Path.clean (Path.slash :: p)])

/-- A failed call as a problem. -/
def conflict (f : Failure) : Problem := ⟨409, f.message⟩

/-- Answer what a request asks for. -/
def serve (m : Manager) (t : FileTree) (now : Int64) (q : Query) (pretty : Bool) :
    Route → Manager × Except Problem Response
  | .client => (m, .ok ⟨400, "text/plain; charset=utf-8", Octets.ofString "Bad Request\n"⟩)
  | .status => (m, .ok (document pretty 200 m.status.toJson))
  | .convert =>
    match readRequest q with
    | .error p => (m, .error p)
    | .ok r =>
      let (m, s) := m.call (.start r now)
      (m, (s.mapError conflict).map fun s => document pretty 202 s.toJson)
  | .cancel =>
    let (m, s) := m.cancel
    (m, (s.mapError conflict).map fun s => document pretty 200 s.toJson)
  | .videos =>
    (m, match Library.videos t m.base.root with
      | .ok slugs => .ok (document pretty 200 (.array (slugs.map fun s => .string (Utf8.text s))))
      | .error _ => .error internal)
  | .video slug =>
    (m, match Library.video t m.base.root slug with
      | .error f => .error ⟨404, f.message⟩
      | .ok manifest =>
        match manifest.toJson with
        | .ok j => .ok (document pretty 200 j)
        | .error _ => .error internal)
  | .file path => (m, fetchBelow t m.base.root path)

/-- Answer a request. `now` is the time of day in seconds. -/
def respond (m : Manager) (t : FileTree) (now : Int64) (q : Query) : Manager × Response :=
  match Address.read? q.target with
  | none => (m, problem q.method false ⟨400, "Bad Request"⟩)
  | some a =>
    let pretty := a.parameters.contains (Octets.ofString "pretty")
    match route q.method a.path with
    | .error p => (m, problem q.method pretty p)
    | .ok r =>
      match serve m t now q pretty r with
      | (m, .ok response) => (m, response)
      | (m, .error p) => (m, problem q.method pretty p)

end BlitReel.Web
