import Backdrop.Daemon.Basic

/-!
# Backdrop.Daemon.Boot

A start, with all that it can meet.

The daemon looks at the path of its socket, connects to the display server, shakes hands with it,
asks for the signals, and binds the socket last. It may fail at every step, and meanwhile others use
the host.

* `Attempt` is what a start meets, besides the host.
* `Attempt.boot` is the start. It says what has become of the host, also when it fails.
-/

namespace Backdrop
namespace Daemon

structure Attempt where
  launch : Launch
  /-- What others have made of the host by the time the socket is bound. -/
  others : Host → Host
  /-- Why the signals cannot be received. -/
  signals : Option Errno
  /-- Why the system has no socket to give. -/
  refusal : Option Errno
  /-- Why nobody can listen at the socket, once it is at its path. -/
  deafness : Option Errno

namespace Attempt

/-- A start in which everything depends on the launch. -/
def calm (l : Launch) : Attempt := ⟨l, id, none, none, none⟩

/-- Where the socket is to be. -/
def path (a : Attempt) : Path := a.launch.socket

/-- Why no socket is bound if the system has none to give. A taken path is noticed before that. -/
def refused (a : Attempt) (e : Errno) (h : Host) : DaemonError :=
  if Wire.Server.isTaken a.path h then .socketInUse a.path else .socketSetup a.path (.os e)

/-- Binds the socket for a session that is ready. If nobody can listen at it, it stays there. -/
def bindSocket (a : Attempt) (s : Session) (h : Host) : Except Failure Daemon × Host :=
  match a.refusal with
  | some e => (.error ⟨a.refused e h, s.sent, s.log⟩, h)
  | none =>
    match open_ a.launch s h with
    | .error f => (.error f, h)
    | .ok d =>
      match a.deafness with
      | some e =>
        (.error ⟨.socketSetup a.path (.os e), s.sent, s.log⟩, d.host.hangUp d.server.listener)
      | none => (.ok d, d.host)

def boot (a : Attempt) (h : Host) : Except Failure Daemon × Host :=
  if Wire.Server.isTaken a.path h then (.error ⟨.socketInUse a.path, [], []⟩, h)
  else
    let h := a.others h
    match a.launch.display with
    | .error why => (.error ⟨.waylandConnect why, [], []⟩, h)
    | .ok (first, second) =>
      match Session.handshake first second with
      | (.error e, s) => (.error ⟨e, s.sent, s.log⟩, h)
      | (.ok (), s) =>
        match a.signals with
        | some e => (.error ⟨.signal e, s.sent, s.log⟩, h)
        | none => a.bindSocket s h

end Attempt
end Daemon
end Backdrop
