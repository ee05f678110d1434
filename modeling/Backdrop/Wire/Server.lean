import Backdrop.Daemon.Error
import Backdrop.Host.Sockets

/-!
# Backdrop.Wire.Server

Both ends of a transfer over a local socket.

* `Server.bind` refuses a path at which anything is, even a link that leads nowhere.
* `Server.serveOne` accepts one connection and reads one request from it; the connection is closed
  whatever comes of it.
* `Server.drop` removes what is at the server's path.
* `Client.send` connects, writes one request and closes.
-/

namespace Backdrop
namespace Wire

structure Server where
  path : Path
  listener : Nat
  deriving Repr, DecidableEq, Inhabited

namespace Server

/-- Something is at the path of a socket. -/
def isTaken (p : Path) (h : Host) : Bool := !p.bytes.contains 0 && h.tree.exists_ p

def bind (p : Path) (h : Host) : Except DaemonError (Server × Host) :=
  if isTaken p h then .error (.socketInUse p)
  else
    match h.listen p with
    | .error e => .error (.socketSetup p e)
    | .ok (listener, h) => .ok (⟨p, listener⟩, h.note (Log.info s!"Listening on {p.display}"))

/-- Reads a request from an accepted connection and closes it. -/
def serveConnection (c : Nat) (h : Host) : Except DaemonError Request × Host :=
  match h.onConnection c (.error .timedOut) (readRequest Stream.receive) with
  | (.error e, h) => (.error (.transfer e), h.modifyConnection c Stream.closeReader)
  | (.ok r, h) =>
    (.ok r, (h.note (Log.debug s!"Received request for {r.targetText}")).modifyConnection c
      Stream.closeReader)

/-- Serves the connection that has waited longest; none if nobody waits. -/
def serveOne (s : Server) (h : Host) : Option (Except DaemonError Request × Host) :=
  (h.accept s.listener).map fun (c, h) => serveConnection c h

def drop (s : Server) (h : Host) : Host :=
  let h := h.hangUp s.listener
  match h.tree.remove s.path with
  | .ok t => { h with tree := t }
  | .error e =>
    h.note (Log.warn s!"Failed to remove socket {s.path.display}: {e.sentence}")

end Server

namespace Client

/-- Nobody listening is told apart from everything else. -/
def connectFailure (p : Path) (e : IoError) : TransferError :=
  if e = .os .noEntry ∨ e = .os .connectionRefused then .daemonNotRunning p else .io e

def connect (p : Path) (h : Host) : Except TransferError (Nat × Host) :=
  match h.connect p with
  | .error e => .error (connectFailure p e)
  | .ok r => .ok r

/-- Queues a message on a connection. -/
def write (c : Nat) (m : Message) (h : Host) : Except TransferError Nat × Host :=
  h.onConnection c (.error (.message .brokenPipe)) (Stream.push m)

def close (c : Nat) (h : Host) : Host := h.modifyConnection c Stream.closeWriter

/-- Tells what was sent, and for which target. -/
def sentText (name : Option String) (o : Outgoing) : String :=
  let kind := if o.picture.isSome then "draw" else "clear"
  let target := name.getD "all outputs"
  s!"Sent {kind} request for {target}"

def send (p : Path) (name : Option String) (picture : Option (Extent × Descriptor)) (h : Host) :
    Except TransferError Unit × Host :=
  match connect p h with
  | .error e => (.error e, h)
  | .ok (c, h) =>
    let o : Outgoing := ⟨(name.map Utf8.encode).getD [], picture⟩
    match h.onConnection c (.error .timedOut) (writeRequest Stream.send 0 o) with
    | (.error e, h) => (.error e, close c h)
    | (.ok (), h) => (.ok (), (close c h).note (Log.debug (sentText name o)))

end Client
end Wire
end Backdrop
