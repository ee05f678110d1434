import Backdrop.Daemon.Readiness
import Backdrop.Daemon.Status
import Backdrop.Session.Dispatch
import Backdrop.Wall.Request
import Backdrop.Wire.Server

/-!
# Backdrop.Daemon.Basic

The daemon: a session with the display server, a transfer server on a local socket, and counters.

* `Daemon.start` refuses a taken path before it talks to the display server, and binds the socket
  after the handshake. A start that fails leaves the host as it was.
* `Daemon.attend` serves one waiting client. A request that is no good changes nothing but the
  counters. `Daemon.attendIn` does the same while memory is scarce.
* `Daemon.finish` takes everything down and removes the socket.
-/

namespace Backdrop

/-- Why the daemon stops. -/
inductive StopReason where
  | signal (name : String)
  | displayHangup
  | displayError (text : String)
  deriving Repr, DecidableEq, Inhabited

namespace StopReason

def exitCode : StopReason → Nat
  | .signal _ | .displayHangup => 0
  | .displayError _ => 1

def text : StopReason → String
  | .signal name => "received " ++ name
  | .displayHangup => "compositor closed the connection"
  | .displayError t => "wayland error: " ++ t

end StopReason

structure Daemon where
  host : Host
  session : Session
  server : Wire.Server
  filter : Filter
  status : Status
  log : List Log.Line
  deriving Inhabited

namespace Daemon

/-- How it is worded that no display server is there. -/
def noDisplay : String := "Could not find wayland compositor"

/-- What a start finds. -/
structure Launch where
  socket : Path
  /-- The display server's answers in the handshake, or why there is no connection to it. -/
  display : Except String (Session.Greeting × Session.Greeting)
  filter : Filter
  deriving Repr, Inhabited

/-- A start that failed: why, what was sent and what was logged. -/
structure Failure where
  cause : DaemonError
  sent : List Session.Request
  log : List Log.Line

def note (l : Log.Line) (d : Daemon) : Daemon := { d with log := d.log ++ [l] }

/-- Lets the host do something; its log lines become the daemon's. -/
def onHost {α : Type} (f : Host → α × Host) (d : Daemon) : α × Daemon :=
  let (a, h) := f { d.host with log := [] }
  (a, { d with host := { h with log := [] }, log := d.log ++ h.log })

/-- Lets the session do something; its log lines become the daemon's. -/
def onSession {α : Type} (f : Session → α × Session) (d : Daemon) : α × Daemon :=
  let (a, s) := f { d.session with log := [] }
  (a, { d with session := { s with log := [] }, log := d.log ++ s.log })

def changeSession (f : Session → Session) (d : Daemon) : Daemon :=
  (d.onSession fun s => ((), f s)).2

/-- Binds the socket for a session that is ready. -/
def open_ (l : Launch) (s : Session) (h : Host) : Except Failure Daemon :=
  match Wire.Server.bind l.socket { h with log := [] } with
  | .error e => .error ⟨e, s.sent, s.log⟩
  | .ok (server, h) =>
    .ok ⟨{ h with log := [] }, { s with log := [] }, server, l.filter, .empty, s.log ++ h.log⟩

def start (l : Launch) (h : Host) : Except Failure Daemon :=
  if Wire.Server.isTaken l.socket h then .error ⟨.socketInUse l.socket, [], []⟩
  else
    match l.display with
    | .error why => .error ⟨.waylandConnect why, [], []⟩
    | .ok (first, second) =>
      match Session.handshake first second with
      | (.error e, s) => .error ⟨e, s.sent, s.log⟩
      | (.ok (), s) => open_ l s h

/-- Says that the daemon is about to wait for work. -/
def announce (d : Daemon) : Daemon :=
  d.note (Log.info s!"Wallpaper daemon running on {d.server.path.display}")

def reportText (target : String) (r : Wall.Report) : String :=
  s!"Request for {target}: {r.matched} matched, {r.drawn} drawn, {r.cleared} cleared, " ++
    s!"{r.skipped} skipped, {r.failed} failed"

/-- Counts a request that was no good. -/
def reject (text : String) (d : Daemon) : Daemon :=
  { d.note (Log.warn text) with status := { d.status with rejected := d.status.rejected + 1 } }

/-- Applies a request to the wall while memory is scarce. -/
def fulfilIn (scarcity : Session.Scarcity) (r : Wire.Request) (d : Daemon) :
    Except DaemonError Wall.Report × Daemon :=
  match d.onSession fun s => s.onWall (Wall.Stage.handle (s.displayIn scarcity) r d.filter) with
  | (.ok report, d) =>
    (.ok report, { d.note (Log.info (reportText r.targetText report)) with
      status := d.status.record report })
  | (.error e, d) =>
    (.error (.transfer e), d.reject s!"Dropped transfer request for {r.targetText}: {e.text}")

/-- Applies a request to the wall. -/
def fulfil (r : Wire.Request) (d : Daemon) : Except DaemonError Wall.Report × Daemon :=
  d.fulfilIn Session.plenty r

/-- Serves the client that has waited longest, and says what came of it; nothing did if nobody
waits. -/
def attendIn (scarcity : Session.Scarcity) (d : Daemon) :
    Option (Except DaemonError Wall.Report) × Daemon :=
  match d.server.serveOne { d.host with log := [] } with
  | none => (none, d)
  | some (r, h) =>
    let d : Daemon := { d with
      host := { h with log := [] }
      log := d.log ++ h.log
      status := { d.status with requests := d.status.requests + 1 } }
    match r with
    | .error e => (some (.error e), d.reject s!"Dropped transfer request: {e.message}")
    | .ok request =>
      let (r, d) := d.fulfilIn scarcity request
      (some r, d)

def attend (d : Daemon) : Option (Except DaemonError Wall.Report) × Daemon :=
  d.attendIn Session.plenty

/-- Serves the client that has waited longest. -/
def serve (d : Daemon) : Daemon := d.attend.2

/-- Ends a daemon that has been up for so many seconds. -/
def finish (reason : StopReason) (uptime : Nat) (d : Daemon) : Daemon :=
  let d := (d.note (Log.info s!"Stopping: {reason.text}")).changeSession Session.shutdown
  let d : Daemon := { d with log := d.log ++ d.status.lines uptime }
  (d.onHost fun h => ((), d.server.drop h)).2

end Daemon
end Backdrop
