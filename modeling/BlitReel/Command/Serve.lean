import BlitReel.Command.Exit
import BlitReel.CommandLine.Reading
import BlitReel.Service.Manager
import BlitReel.Settings.File
import BlitReel.Web.Listening

/-!
# The server

The program that converts on request and serves what it has converted. `Serve.prepare` reads the
command line and the settings and says where to listen; a server that cannot listen ends.
-/

namespace BlitReel.Command.Serve

open CommandLine (Flag Spec Reading)

/-- The name of the program. -/
def name : String := "nfpserve"

/-- The command line of the server. -/
def spec : Spec where
  flags := [
    { name := "config", kind := .text }, { name := "listen", kind := .text }, { name := "root", kind := .text },
    { name := "log-level", kind := .text, short? := some 'l' }]

/-- Settings with those of the command line over them. -/
def layer (r : Reading) (s : Settings) : Settings :=
  { s with
    listen := (r.text? "listen").getD s.listen
    root := (r.text? "root").getD s.root
    logLevel := (r.text? "log-level").getD s.logLevel }

/-- A note of the server. -/
def noteOf (level : Level) (template : String) (words : String) : Note :=
  { level, template, values := [.text words] }

/-- What the server does with a command line: it stops with a note, or it serves a manager. -/
inductive Outcome where
  | stopped (threshold : Level) (journal : Journal)
  | serving (threshold : Level) (journal : Journal) (manager : Manager)

/-- Get ready to serve. -/
def prepare (t : FileTree) (r : Reading) : Outcome :=
  let file := (r.text? "config").getD []
  let (base, loaded) := if file.isEmpty then ({}, .ok ()) else Settings.load t file
  match loaded with
  | .error f => .stopped .error [noteOf .error "%s" f.message]
  | .ok () =>
    let s := layer r base
    let threshold := Level.ofName s.logLevel
    match s.validate with
    | .error f => .stopped threshold [noteOf .error "%s" f.message]
    | .ok () =>
      let hello := noteOf .info "Listening on %s" (Utf8.text s.listen)
      match Web.checkListening s.listen with
      | .error f => .stopped threshold [hello, noteOf .error "%s" f.message]
      | .ok () => .serving threshold [hello] { base := s }

/-- Run the server until it stops or serves. -/
def run (h : Host) (language : String) (arguments : List Octets) : Exit :=
  match CommandLine.read spec arguments with
  | .error f => { code := 1, host := h, complaint := CommandLine.complaint name f.message }
  | .ok r =>
    if r.wantsHelp then { host := h, usage := true }
    else match prepare h.tree r with
      | .stopped threshold journal => { code := 1, host := h, shown := ({ threshold, language } : Console).showAll journal }
      | .serving threshold journal _ => { host := h, shown := ({ threshold, language } : Console).showAll journal }

end BlitReel.Command.Serve
