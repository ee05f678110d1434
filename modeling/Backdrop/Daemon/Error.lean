import Backdrop.Pixel.Cover
import Backdrop.Wall.Basic
import Backdrop.Wire.Error

/-!
# Backdrop.Daemon.Error

Everything that can go wrong in the daemon, how it is worded, and how far each error reaches: it ends
the process, one request, or the drawing on one monitor, or it breaks the connection to the display
server.
-/

namespace Backdrop

inductive DaemonError where
  | runtimeDirUnset
  | runtimeDirEmpty
  | socketPathTooLong (path : Path)
  | socketInUse (path : Path)
  | socketSetup (path : Path) (cause : IoError)
  | waylandConnect (text : String)
  | missingGlobal (interface : String)
  | unsupportedVersion (interface : String) (required offered : UInt32)
  | protocol (text : String)
  | signal (cause : Errno)
  | surfaceNotReady
  | memory (cause : MemoryError)
  | scale (cause : ScaleError)
  | transfer (cause : TransferError)
  | io (cause : IoError)
  deriving Repr, DecidableEq, Inhabited

/-- How far an error reaches. -/
inductive ErrorClass where
  | fatal | request | monitor | protocol
  deriving Repr, DecidableEq, Inhabited

def ErrorClass.name : ErrorClass → String
  | .fatal => "Fatal"
  | .request => "Request"
  | .monitor => "Monitor"
  | .protocol => "Protocol"

namespace DaemonError

def message : DaemonError → String
  | .runtimeDirUnset => "$XDG_RUNTIME_DIR is unset"
  | .runtimeDirEmpty => "$XDG_RUNTIME_DIR is empty"
  | .socketPathTooLong p => s!"socket path {p.display} is too long"
  | .socketInUse p => s!"socket {p.display} already exists; is another daemon running?"
  | .socketSetup p c => s!"failed to set up socket {p.display}: {c.message}"
  | .waylandConnect t => "failed to connect to wayland display: " ++ t
  | .missingGlobal i => s!"compositor does not provide the {i} global"
  | .unsupportedVersion i required offered =>
    s!"the v{required} {i} interface is required, but the compositor only supports v{offered}"
  | .protocol t => "wayland protocol error: " ++ t
  | .signal c => "signal setup failed: " ++ c.message
  | .surfaceNotReady => Wall.DisplayError.surfaceNotReady.message
  | .memory e => e.message
  | .scale e => e.message
  | .transfer e => e.text
  | .io c => "IO error: " ++ c.message

def errorClass : DaemonError → ErrorClass
  | .runtimeDirUnset | .runtimeDirEmpty | .socketPathTooLong _ | .socketInUse _
  | .socketSetup .. | .waylandConnect _ | .missingGlobal _ | .unsupportedVersion ..
  | .signal _ => .fatal
  | .protocol _ => .protocol
  | .memory _ | .scale _ | .surfaceNotReady => .monitor
  | .transfer _ | .io _ => .request

/-- The process must stop. -/
def isFatal (e : DaemonError) : Bool :=
  match e.errorClass with
  | .fatal | .protocol => true
  | .request | .monitor => false

end DaemonError
end Backdrop
