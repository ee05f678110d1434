import Backdrop.Daemon.Error
import Backdrop.Memory.Sealed

/-!
# Backdrop.Session.Protocol

What goes over the connection to the display server: the objects on it, the events that arrive and
the requests that leave.

Objects of one kind are numbered from zero in the order of their creation.

* `Interface` lists what the daemon binds and the version it needs of each.
* `Event` is what the display server tells about an object, `Message` what a read of the connection
  finds: an event, or the error that ends the connection.
* `Request` is what the daemon asks for; `Request.created` and `Request.destroyed` say what that
  does to the objects.
-/

namespace Backdrop
namespace Session

/-- An interface that the daemon binds. -/
inductive Interface where
  | compositor | shm | layerShell | output
  deriving Repr, DecidableEq, Inhabited

namespace Interface

def name : Interface → String
  | .compositor => "wl_compositor"
  | .shm => "wl_shm"
  | .layerShell => "zwlr_layer_shell_v1"
  | .output => "wl_output"

/-- The least version that will do, which is also the version that is bound. -/
def required : Interface → UInt32
  | .compositor => 4
  | .shm => 1
  | .layerShell => 2
  | .output => 4

def all : List Interface := [.compositor, .shm, .layerShell, .output]

def ofName? (name : String) : Option Interface := all.find? fun i => i.name == name

end Interface

/-- The version needed of an interface, if it is bound at all. -/
def requiredVersion (interface : String) : Option UInt32 :=
  (Interface.ofName? interface).map Interface.required

def checkVersion (interface : String) (required offered : UInt32) : Except DaemonError Unit :=
  if offered < required then .error (.unsupportedVersion interface required offered) else .ok ()

inductive Object where
  | display
  | registry
  | callback (n : Nat)
  | compositor (n : Nat)
  | shm (n : Nat)
  | layerShell (n : Nat)
  | output (n : Nat)
  | surface (n : Nat)
  | region (n : Nat)
  | layer (n : Nat)
  | pool (n : Nat)
  | buffer (n : Nat)
  deriving Repr, DecidableEq, Inhabited

/-- The object that binding an interface makes. -/
def Interface.object : Interface → Nat → Object
  | .compositor => .compositor
  | .shm => .shm
  | .layerShell => .layerShell
  | .output => .output

inductive Event where
  | global (name : UInt32) (interface : String) (version : UInt32)
  | globalRemove (name : UInt32)
  | mode (output : Nat) (flags : UInt32) (mode : Wall.Mode)
  | scale (output : Nat) (factor : Int)
  | name (output : Nat) (text : String)
  | done (output : Nat)
  | configure (layer : Nat) (serial : UInt32) (size : Extent)
  | closed (layer : Nat)
  | release (buffer : Nat)
  /-- An event that the daemon has no use for. -/
  | other (object : Object)
  deriving Repr, DecidableEq, Inhabited

/-- The object that an event is about. -/
def Event.object : Event → Object
  | .global .. | .globalRemove _ => .registry
  | .mode n _ _ | .scale n _ | .name n _ | .done n => .output n
  | .configure n _ _ | .closed n => .layer n
  | .release n => .buffer n
  | .other o => o

/-- One message from the display server. An error is the last that is ever read. -/
inductive Message where
  | event (e : Event)
  | error (code : UInt32) (text : String)
  deriving Repr, DecidableEq, Inhabited

/-- How an error of the display server is worded. -/
def errorText (code : UInt32) (text : String) : String :=
  s!"Protocol error {code} on object wl_display@1: {text}"

/-- What one read of the connection finds. An error hides the events before it. -/
def readAll : List Message → Except String (List Event)
  | [] => .ok []
  | .error code text :: _ => .error (errorText code text)
  | .event e :: rest =>
    match readAll rest with
    | .error t => .error t
    | .ok es => .ok (e :: es)

inductive Request where
  | getRegistry
  | sync (callback : Nat)
  | bind (name : UInt32) (interface : Interface) (number : Nat)
  | createSurface (compositor surface : Nat)
  | createRegion (compositor region : Nat)
  | setInputRegion (surface region : Nat)
  | destroyRegion (region : Nat)
  | getLayerSurface (shell layer surface output : Nat) (depth : Nat) (purpose : String)
  | setAnchor (layer edges : Nat)
  | setExclusiveZone (layer : Nat) (zone : Int)
  | setKeyboardInteractivity (layer mode : Nat)
  | commit (surface : Nat)
  | acknowledge (layer : Nat) (serial : UInt32)
  | destroyLayer (layer : Nat)
  | destroySurface (surface : Nat)
  | createPool (shm pool fileLength : Nat) (seals : Seals) (length : Int)
  | createBuffer (pool buffer : Nat) (offset width height stride : Int) (format : Nat)
  | destroyPool (pool : Nat)
  | setBufferScale (surface : Nat) (scale : Int)
  | attach (surface buffer : Nat) (pixels : Array UInt8)
  | detach (surface : Nat)
  | damageBuffer (surface : Nat) (width height : Int)
  | destroyBuffer (buffer : Nat)
  | releaseOutput (output : Nat)
  deriving Repr, DecidableEq, Inhabited

namespace Request

def created : Request → List Object
  | .getRegistry => [.registry]
  | .sync n => [.callback n]
  | .bind _ i n => [i.object n]
  | .createSurface _ n => [.surface n]
  | .createRegion _ n => [.region n]
  | .getLayerSurface _ n _ _ _ _ => [.layer n]
  | .createPool _ n _ _ _ => [.pool n]
  | .createBuffer _ n _ _ _ _ _ => [.buffer n]
  | _ => []

def destroyed : Request → List Object
  | .destroyRegion n => [.region n]
  | .destroyLayer n => [.layer n]
  | .destroySurface n => [.surface n]
  | .destroyPool n => [.pool n]
  | .destroyBuffer n => [.buffer n]
  | .releaseOutput n => [.output n]
  | _ => []

end Request
end Session
end Backdrop
