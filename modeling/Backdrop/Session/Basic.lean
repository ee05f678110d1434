import Backdrop.Session.Buffer
import Backdrop.Wall.Operation

/-!
# Backdrop.Session.Basic

One connection to the display server, with the wall behind it.

What the wall calls for is turned into requests, which are queued until they are flushed. Surfaces,
their regions and their layers share the numbers that the wall gives to surfaces; the object of a
monitor has the number of the monitor's handle.

* `Session.display` is how the connection answers the wall, and `Session.displayIn` how it does
  while memory is scarce.
* `Session.requestsOf` turns one call of the wall into requests.
* `Session.onWall` runs an operation on the wall and queues what it calls for.
-/

namespace Backdrop
namespace Session

/-- The objects that everything else is made with, as far as they are bound. -/
structure Globals where
  compositor : Option Nat
  shm : Option Nat
  layerShell : Option Nat
  deriving Repr, DecidableEq, Inhabited

namespace Globals

def none : Globals := ⟨.none, .none, .none⟩

/-- Names the first global that was not announced. -/
def require (g : Globals) : Except DaemonError Unit :=
  if g.compositor.isNone then .error (.missingGlobal Interface.compositor.name)
  else if g.shm.isNone then .error (.missingGlobal Interface.shm.name)
  else if g.layerShell.isNone then .error (.missingGlobal Interface.layerShell.name)
  else .ok ()

end Globals

/-- How many objects of each bound kind there have been. -/
structure Counts where
  compositor : Nat
  shm : Nat
  layerShell : Nat
  output : Nat
  deriving Repr, DecidableEq, Inhabited

/-- What has become of the connection. -/
inductive Link where
  | up
  | hungUp
  | failed (text : String)
  deriving Repr, DecidableEq, Inhabited

end Session

structure Session where
  wall : Wall
  globals : Session.Globals
  counts : Session.Counts
  /-- The monitor that each layer was made for. -/
  layers : Table Wall.MonitorId
  /-- The frame behind each buffer. -/
  buffers : Table Wall.FrameId
  nextBuffer : Nat
  /-- The objects that the display server may send events about. -/
  live : List Session.Object
  link : Session.Link
  /-- Events that were read and not dispatched. -/
  pending : List Session.Event
  queued : List Session.Request
  sent : List Session.Request
  log : List Log.Line
  /-- The first error that must end the process. -/
  fatal : Option DaemonError
  deriving Inhabited

namespace Session

/-- A fresh connection. -/
def fresh : Session :=
  ⟨.empty, .none, ⟨0, 0, 0, 0⟩, .empty, .empty, 0, [.display], .up, [], [], [], [], none⟩

def note (l : Log.Line) (s : Session) : Session := { s with log := s.log ++ [l] }

/-- Queues a request. -/
def push (s : Session) (r : Request) : Session :=
  { s with
    queued := s.queued ++ [r]
    live := (s.live ++ r.created).filter fun o => !r.destroyed.contains o }

def pushAll (s : Session) (rs : List Request) : Session := rs.foldl push s

/-- Surfaces can be created. -/
def ready (s : Session) : Bool := s.globals.compositor.isSome && s.globals.layerShell.isSome

def display (s : Session) : Wall.Display where
  ready := fun _ => s.ready
  surfaceRefusal := fun _ => if s.ready then none else some .surfaceNotReady
  allocate := fun _ size =>
    if s.globals.shm.isNone then .error .surfaceNotReady
    else
      match Buffer.region size with
      | .error e => .error e
      | .ok r => .ok r.bytes

/-- Why the system has no memory for a frame, if it has none. -/
abbrev Scarcity := Wall.FrameId → Option MemoryError

/-- There is memory for every frame. -/
def plenty : Scarcity := fun _ => none

def displayIn (scarcity : Scarcity) (s : Session) : Wall.Display :=
  { s.display with
    allocate := fun frame size =>
      match scarcity frame with
      | none => s.display.allocate frame size
      | some e => (s.display.allocate frame size).bind fun _ => .error (.memory e) }

@[simp] theorem displayIn_plenty (s : Session) : s.displayIn plenty = s.display := rfl

/-- A surface behind all windows, on all of one monitor, that takes no input. -/
def surfaceRequests (compositor shell n output : Nat) : List Request :=
  [.createSurface compositor n, .createRegion compositor n, .setInputRegion n n,
    .destroyRegion n, .getLayerSurface shell n n output 0 "wallpaper", .setAnchor n 15,
    .setExclusiveZone n (-1), .setKeyboardInteractivity n 0, .commit n]

/-- The number of the buffer that a frame is behind. -/
def bufferOf (s : Session) (frame : Wall.FrameId) : Option Nat :=
  (s.buffers.entries.find? fun e => e.2 == frame).map (·.1)

/-- What a call of the wall asks of the display server. -/
def requestsOf (s : Session) : Wall.Call → List Request
  | .createSurface _ handle n =>
    match s.globals.compositor, s.globals.layerShell with
    | some c, some l => surfaceRequests c l n handle
    | _, _ => []
  | .createSurfaceFailed _ _ => []
  | .destroySurface n => [.destroyLayer n, .destroySurface n]
  | .acknowledge n serial => [.acknowledge n serial]
  | .commit n => [.commit n]
  | .allocate _ size =>
    match s.globals.shm, Buffer.region size with
    | some shm, .ok r => Buffer.requests shm s.nextBuffer size r
    | _, _ => []
  | .allocateFailed _ _ => []
  | .attach n frame scale size pixels =>
    match s.bufferOf frame with
    | some b => [.setBufferScale n scale, .attach n b pixels,
        .damageBuffer n (Buffer.narrow size.width.toNat) (Buffer.narrow size.height.toNat),
        .commit n]
    | none => []
  | .detach n _ => [.detach n, .commit n]
  | .free frame =>
    match s.bufferOf frame with
    | some b => [.destroyBuffer b]
    | none => []
  | .releaseOutput handle => [.releaseOutput handle]

/-- Remembers what the objects of a call stand for. -/
def remember (s : Session) : Wall.Call → Session
  | .createSurface monitor _ n => { s with layers := s.layers.insert n monitor }
  | .allocate frame _ =>
    { s with buffers := s.buffers.insert s.nextBuffer frame, nextBuffer := s.nextBuffer + 1 }
  | _ => s

def emit (s : Session) (c : Wall.Call) : Session := (s.pushAll (s.requestsOf c)).remember c

def onWall {α : Type} (f : Wall.Stage → α × Wall.Stage) (s : Session) : α × Session :=
  let (a, stage) := f ⟨s.wall, [], []⟩
  (a, stage.calls.foldl emit { s with wall := stage.wall, log := s.log ++ stage.log })

/-- Runs an operation that answers nothing. -/
def changeWall (f : Wall.Stage → Wall.Stage) (s : Session) : Session :=
  (s.onWall fun stage => ((), f stage)).2

/-- How sending to somebody who has gone is worded. -/
def brokenPipe : String := "Io error: " ++ Errno.brokenPipe.sentence

/-- Why a flush fails now, if it does. -/
def flushFault? (s : Session) : Option String :=
  match s.link with
  | .up => none
  | .hungUp => if s.queued.isEmpty then none else some brokenPipe
  | .failed t => some t

/-- Sends what is queued. -/
def flush (s : Session) : Except String Session :=
  match s.flushFault? with
  | some t => .error t
  | none => .ok { s with sent := s.sent ++ s.queued, queued := [] }

end Session
end Backdrop
