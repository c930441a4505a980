import BlitReel.Service.Packet
import BlitReel.Service.Request
import BlitReel.Service.Subscription

/-!
# The manager

The manager runs one conversion at a time and tells its clients. Calls of clients (`Start`, `Cancel`)
and conversions run side by side: each is an `Errand` with a list of acts, and any errand may do its
next act at any time. An act is what happens without interruption, at most one critical section: the
status is put in place by one act (`updateState` under its lock) and told to the clients by later
ones, one act for each client (`Broadcast`).

`Manager.step` makes one move: a call comes in, an errand does its next act, the runner of a conversion
reports a frame or returns, or a client joins, speaks or leaves. `Manager.settle` lets all errands act
until none can.
-/

namespace BlitReel

/-- How far a conversion has come. -/
inductive JobStage where
  /-- Its status is in place and it has not been launched. -/
  | reserved
  | running
  /-- Its runner has returned with an outcome. -/
  | returned (outcome : Except Failure Manifest)
  /-- Its last status is in place. -/
  | concluded

/-- Whether the runner of a conversion is at work. -/
def JobStage.isRunning : JobStage → Bool
  | .running => true
  | _ => false

/-- A conversion of the service. -/
structure Job where
  settings : Settings
  input : Octets
  stage : JobStage := .reserved
  /-- Whether it has been called off. -/
  cancelled : Bool := false

namespace Job

/-- Where a conversion writes. -/
def outputDir (j : Job) : Octets := Path.join [j.settings.root, j.settings.slug]

/-- What the decoder of a conversion is told. -/
def decoderOptions (j : Job) : DecoderOptions := j.settings.decoderOptions

/-- What a conversion is told. -/
def conversionOptions (j : Job) : ConversionOptions := j.settings.conversionOptions j.outputDir

/-- The last status of a conversion, by the outcome of its runner. -/
def lastStatus (j : Job) (r : Except Failure Manifest) : Status :=
  let final : Status := { kind := Status.idle, slug := j.settings.slug, input := j.input }
  match r with
  | .error f => { final with error := f.message }
  | .ok man => { final with written := man.frameCount }

end Job

/-- A client. -/
structure Client where
  /-- The number under which it joined. -/
  number : Nat
  id : Octets := []
  subscription : Subscription := {}
  deriving DecidableEq

/-- What an errand does without interruption. -/
inductive Act where
  /-- Put the status of a new conversion in place, if the service is idle. -/
  | begin (settings : Settings) (input : Octets) (now : Int64)
  /-- Put the last status of a conversion in place, if the service is converting. -/
  | conclude (job : Nat) (status : Status)
  /-- Look who is to be told. -/
  | broadcast (want : Subscription) (packet : Packet)
  /-- Tell one client, if it has subscribed. -/
  | send (client : Nat) (want : Subscription) (packet : Packet)
  | note (n : Note)
  | launch (job : Nat)
  /-- Answer with the present status. -/
  | answer
  /-- Look which conversion is running. -/
  | observe
  /-- Call a conversion off. -/
  | signal (job : Nat)
  /-- Answer with the present status once the service is idle. -/
  | await

/-- A call of a client or the end of a conversion, with what it has still to do. -/
structure Errand where
  todo : List Act := []
  reply? : Option (Except Failure Status) := none

/-- The state of the service. -/
structure Manager where
  base : Settings := {}
  status : Status := { kind := Status.idle }
  clients : List Client := []
  /-- How many clients have joined so far. -/
  joined : Nat := 0
  /-- All conversions so far. -/
  jobs : List Job := []
  /-- All errands so far. -/
  errands : List Errand := []
  /-- The packets sent so far, with the numbers of the clients. -/
  sent : List (Nat × Packet) := []
  journal : Journal := []

namespace Manager

/-- The component of the notes of the manager. -/
def component : String := "stream"

/-- A note of the manager. -/
def noteOf (level : Level) (template : String) (values : List Template.Value) : Note :=
  { level, component, template, values }

/-- A call that is made while a conversion runs. -/
def busy : Failure := .plain "stream: start: a conversion is already running"

/-- A call that finds nothing to call off. -/
def nothingRunning : Failure := .plain "stream: cancel: no conversion is running"

/-- A call that has waited too long. -/
def timedOut : Failure := .plain "stream: cancel: timeout waiting for conversion to stop"

/-- The status of a conversion that has just started. -/
def startedStatus (s : Settings) (input : Octets) (now : Int64) (job : Nat) : Status :=
  { kind := Status.converting, slug := s.slug, input, title := Request.title input, started := now
    job? := some job }

/-- Change an errand. -/
def updateErrand (m : Manager) (k : Nat) (f : Errand → Errand) : Manager := { m with errands := m.errands.modify k f }

/-- Give an errand new acts. -/
def continueWith (m : Manager) (k : Nat) (todo : List Act) : Manager := m.updateErrand k ({ · with todo })

/-- End an errand with a reply. -/
def replyTo (m : Manager) (k : Nat) (r : Except Failure Status) : Manager :=
  m.updateErrand k fun _ => { reply? := some r }

/-- With one more note. -/
def write (m : Manager) (n : Note) : Manager := { m with journal := m.journal ++ [n] }

/-- Send a packet to a client that is there and has subscribed: one round of `Broadcast`. -/
def sendTo (m : Manager) (client : Nat) (want : Subscription) (p : Packet) : Manager :=
  match m.clients.find? (·.number == client) with
  | some c => if c.subscription.covers want then { m with sent := m.sent ++ [(client, p)] } else m
  | none => m

/-- The first act of a conversion: put its status in place (`updateState` in `Start`), and tell, note,
launch and answer later. -/
def beginJob (m : Manager) (k : Nat) (settings : Settings) (input : Octets) (now : Int64) (rest : List Act) :
    Manager :=
  if m.status.kind == Status.idle then
    let job := m.jobs.length
    let status := startedStatus settings input now job
    let note := noteOf .info "Converting %s to %s" [.text (Utf8.text input), .text (Utf8.text settings.slug)]
    { m with status, jobs := m.jobs ++ [({ settings, input } : Job)] }.continueWith k
      (.broadcast .status (.ofStatus status) :: .note note :: .launch job :: .answer :: rest)
  else m.replyTo k (.error busy)

/-- The last act of a conversion on the status (`updateState` at the end of `Manager.convert`). -/
def concludeJob (m : Manager) (k job : Nat) (status : Status) (rest : List Act) : Manager :=
  if m.status.kind == Status.converting then
    { m with status, jobs := m.jobs.modify job ({ · with stage := .concluded }) }.continueWith k
      (.broadcast .status (.ofStatus status) :: rest)
  else m.continueWith k (.note (noteOf .warn "State inconsistency, expected converting" []) :: rest)

/-- Look which conversion is running, to call it off: the first lines of `Cancel`. -/
def observeJob (m : Manager) (k : Nat) (rest : List Act) : Manager :=
  match m.status.kind == Status.converting, m.status.job? with
  | true, some job => m.continueWith k (.signal job :: .await :: rest)
  | _, _ => m.replyTo k (.error nothingRunning)

/-- Do an act of an errand that has `rest` to do afterwards. -/
def perform (m : Manager) (k : Nat) (rest : List Act) : Act → Manager
  | .begin settings input now => m.beginJob k settings input now rest
  | .conclude job status => m.concludeJob k job status rest
  | .broadcast want p => m.continueWith k ((m.clients.map fun c => .send c.number want p) ++ rest)
  | .send client want p => (m.sendTo client want p).continueWith k rest
  | .note n => (m.write n).continueWith k rest
  | .launch job => { m with jobs := m.jobs.modify job ({ · with stage := .running }) }.continueWith k rest
  | .answer => m.replyTo k (.ok m.status)
  | .observe => m.observeJob k rest
  | .signal job => { m with jobs := m.jobs.modify job ({ · with cancelled := true }) }.continueWith k rest
  | .await => if m.status.kind == Status.idle then m.replyTo k (.ok m.status) else m

/-- How a conversion tells its outcome. -/
def report (j : Job) : Except Failure Manifest → List Act
  | .error f =>
    [.note (noteOf .error "Conversion of %s failed: %s" [.text (Utf8.text j.input), .text f.message]),
      .broadcast .everyone (.ofFailure j.settings.slug f)]
  | .ok man =>
    match Packet.ofManifest man with
    | .ok p => [.broadcast .everyone p]
    | .error f => [.note (noteOf .error "Failed to encode packet %d: %s" [.int 3, .text f.message])]

/-- What a conversion has to do when its runner has returned: tell how it went, then put its last
status in place. -/
def closing (job : Nat) (j : Job) (r : Except Failure Manifest) : List Act :=
  report j r ++ [.conclude job (j.lastStatus r)]

/-- What may happen next. -/
inductive Move where
  /-- A request comes in. -/
  | start (request : Request) (now : Int64)
  /-- Someone wants the running conversion called off. -/
  | cancel
  /-- An errand does its next act. -/
  | advance (errand : Nat)
  /-- An errand that waits gives up. -/
  | giveUp (errand : Nat)
  /-- The runner of a conversion reports a frame. -/
  | progress (job : Nat) (p : Progress)
  /-- The runner of a conversion returns. -/
  | finish (job : Nat) (r : Except Failure Manifest)
  | connect
  /-- A client speaks. -/
  | hear (client : Nat) (data : Octets)
  /-- A client leaves, with these words. -/
  | disconnect (client : Nat) (words : String)

/-- Add an errand. -/
def addErrand (m : Manager) (t : Errand) : Manager := { m with errands := m.errands ++ [t] }

/-- A client speaks: it names itself and subscribes, and is told the status if it wants that. This is
one round of `HandleConn`. -/
def heard (m : Manager) (client : Nat) (data : Octets) : Manager :=
  match ControlMessage.read? data with
  | none => m.write (noteOf .warn "Failed to unmarshal control message: %s" [.text Json.malformed])
  | some c =>
    let clients := m.clients.map fun old =>
      if old.number == client then { old with id := c.id, subscription := c.subscription } else old
    { m with clients }.sendTo client .status (.ofStatus m.status)

/-- Make a move; one that is not possible changes nothing. -/
def step (m : Manager) : Move → Manager
  | .start request now =>
    match request.accept m.base with
    | .error f => m.addErrand { reply? := some (.error f) }
    | .ok settings => m.addErrand { todo := [.begin settings request.input now] }
  | .cancel => m.addErrand { todo := [.observe] }
  | .advance k =>
    match m.errands[k]? with
    | some ⟨a :: rest, _⟩ => m.perform k rest a
    | _ => m
  | .giveUp k =>
    match m.errands[k]? with
    | some ⟨.await :: _, _⟩ => m.replyTo k (.error timedOut)
    | _ => m
  | .progress job p =>
    match m.jobs[job]? with
    | some ⟨_, _, .running, _⟩ =>
      { m with status := { m.status with written := p.written } }.addErrand
        { todo := [.broadcast .progress (.ofProgress m.status.slug p)] }
    | _ => m
  | .finish job r =>
    match m.jobs[job]? with
    | some j =>
      if j.stage.isRunning then
        { m with jobs := m.jobs.modify job ({ · with stage := .returned r }) }.addErrand { todo := closing job j r }
      else m
    | none => m
  | .connect => { m with clients := m.clients ++ [{ number := m.joined }], joined := m.joined + 1 }
  | .hear client data => if m.clients.any (·.number == client) then m.heard client data else m
  | .disconnect client words =>
    if m.clients.any (·.number == client) then
      { m with clients := m.clients.filter (·.number != client) }.write
        (noteOf .debug "Client disconnected: %s" [.text words])
    else m

/-- Make moves one after the other. -/
def steps (m : Manager) (moves : List Move) : Manager := moves.foldl step m

/-- Whether an errand can do its next act. -/
def ready (m : Manager) (t : Errand) : Bool :=
  match t.todo with
  | [] => false
  | .await :: _ => m.status.kind == Status.idle
  | _ :: _ => true

/-- The most acts that come of an act when there are `clients` clients. -/
def effort (clients : Nat) : Act → Nat
  | .begin .. => clients + 5
  | .conclude .. => clients + 2
  | .broadcast .. => clients + 1
  | .observe => 3
  | _ => 1

/-- Let the first errand that can act do so, again and again. -/
def settleFor : Nat → Manager → Manager
  | 0, m => m
  | fuel + 1, m =>
    match m.errands.findIdx? m.ready with
    | some k => settleFor fuel (m.step (.advance k))
    | none => m

/-- The most acts that come of what is left to do, with `clients` clients. -/
def outstanding (clients : Nat) (errands : List Errand) : Nat :=
  (errands.flatMap (·.todo)).foldr (fun a n => effort clients a + n) 0

/-- Let all errands act until none can. -/
def settle (m : Manager) : Manager := settleFor (outstanding m.clients.length m.errands) m

/-- Make a move and let all errands act. -/
def move (m : Manager) (v : Move) : Manager := (m.step v).settle

/-- Make a call and give its reply as well. -/
def call (m : Manager) (v : Move) : Manager × Except Failure Status :=
  let k := m.errands.length
  let m := m.move v
  (m, ((m.errands[k]?.bind (·.reply?)).getD (.error timedOut)))

/-- The conversion that is running. -/
def running? (m : Manager) : Option Nat := m.jobs.findIdx? (·.stage.isRunning)

/-- Let a runner that has been called off return. -/
def obey (m : Manager) : Manager :=
  match m.jobs.findIdx? fun j => j.stage.isRunning && j.cancelled with
  | some job => m.move (.finish job (.error .cancelled))
  | none => m

/-- Call the running conversion off (`Cancel`); its runner obeys at once. -/
def cancel (m : Manager) : Manager × Except Failure Status :=
  let k := m.errands.length
  let m := (m.move .cancel).obey
  (m, ((m.errands[k]?.bind (·.reply?)).getD (.error timedOut)))

end Manager

end BlitReel
