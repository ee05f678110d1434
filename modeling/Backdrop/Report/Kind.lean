import Backdrop.Daemon.Error

/-!
# Backdrop.Report.Kind

Short names for errors, for reports that programs read. An error inside another one is named after
its own family. `DaemonError.ofKind?` and the functions before it read an error back from its name and
its `Details`.
-/

namespace Backdrop

def MemoryError.kind : MemoryError → String
  | .zeroSize => "Shm.ZeroSize"
  | .sizeOverflow _ => "Shm.SizeOverflow"
  | .create _ => "Shm.Create"
  | .resize _ _ => "Shm.Resize"
  | .map _ => "Shm.Map"
  | .sealing _ => "Shm.Seal"
  | .tooSmall _ _ => "Shm.TooSmall"
  | .stat _ => "Shm.Stat"
  | .poolTooLarge _ => "Shm.PoolTooLarge"

def ScaleError.kind : ScaleError → String
  | .zeroExtent _ _ => "Scale.ZeroExtent"
  | .lengthMismatch _ _ _ => "Scale.LengthMismatch"

def TransferError.kind : TransferError → String
  | .truncated _ _ => "Transfer.Truncated"
  | .badDimensions _ => "Transfer.BadDimensions"
  | .nameTooLong _ => "Transfer.NameTooLong"
  | .invalidName _ => "Transfer.InvalidName"
  | .missingDescriptor _ => "Transfer.MissingDescriptor"
  | .region e => "Transfer.Region." ++ e.kind
  | .daemonNotRunning _ => "Transfer.DaemonNotRunning"
  | .timedOut => "Transfer.TimedOut"
  | .message _ => "Transfer.Message"
  | .io _ => "Transfer.Io"

def DaemonError.kind : DaemonError → String
  | .runtimeDirUnset => "RuntimeDirUnset"
  | .runtimeDirEmpty => "RuntimeDirEmpty"
  | .socketPathTooLong _ => "SocketPathTooLong"
  | .socketInUse _ => "SocketInUse"
  | .socketSetup _ _ => "SocketSetup"
  | .waylandConnect _ => "WaylandConnect"
  | .missingGlobal _ => "MissingGlobal"
  | .unsupportedVersion _ _ _ => "UnsupportedVersion"
  | .protocol _ => "Protocol"
  | .signal _ => "Signal"
  | .surfaceNotReady => "SurfaceNotReady"
  | .memory e => e.kind
  | .scale e => e.kind
  | .transfer e => e.kind
  | .io _ => "Io"

/-- Everything that reports tell of an error besides its name; each kind of error uses its own part. -/
structure Details where
  path : Path
  text : String
  interface : String
  required : UInt32
  offered : UInt32
  io : IoError
  errno : Errno
  extent : Extent
  target : Extent
  side : Cover.Side
  expected : Nat
  actual : Nat
  /-- A text that is not well-formed. -/
  bytes : List UInt8
  deriving Repr, DecidableEq, Inhabited

/-- What follows a family's name and a full stop. -/
def within? (family kind : String) : Option String :=
  if (family ++ ".").toList.isPrefixOf kind.toList then
    some (String.ofList (kind.toList.drop (family.length + 1)))
  else none

def MemoryError.ofKind? (kind : String) (d : Details) : Option MemoryError :=
  match within? "Shm" kind with
  | some "ZeroSize" => some .zeroSize
  | some "SizeOverflow" => some (.sizeOverflow d.extent)
  | some "Create" => some (.create d.errno)
  | some "Resize" => some (.resize d.actual d.errno)
  | some "Map" => some (.map d.io)
  | some "Seal" => some (.sealing d.errno)
  | some "TooSmall" => some (.tooSmall d.expected d.actual)
  | some "Stat" => some (.stat d.io)
  | some "PoolTooLarge" => some (.poolTooLarge d.actual)
  | _ => none

def ScaleError.ofKind? (kind : String) (d : Details) : Option ScaleError :=
  match within? "Scale" kind with
  | some "ZeroExtent" => some (.zeroExtent d.extent d.target)
  | some "LengthMismatch" => some (.lengthMismatch d.side d.expected d.actual)
  | _ => none

def TransferError.ofKind? (kind : String) (d : Details) : Option TransferError :=
  match within? "Transfer" kind with
  | some "Truncated" => some (.truncated d.expected d.actual)
  | some "BadDimensions" => some (.badDimensions d.extent)
  | some "NameTooLong" => some (.nameTooLong d.actual)
  | some "InvalidName" => (Utf8.firstFault 0 d.bytes).map .invalidName
  | some "MissingDescriptor" => some (.missingDescriptor d.extent)
  | some "DaemonNotRunning" => some (.daemonNotRunning d.path)
  | some "TimedOut" => some .timedOut
  | some "Message" => some (.message d.errno)
  | some "Io" => some (.io d.io)
  | some rest => (within? "Region" rest).bind fun k => (MemoryError.ofKind? k d).map .region
  | none => none

def DaemonError.ofKind? (kind : String) (d : Details) : Option DaemonError :=
  match kind with
  | "RuntimeDirUnset" => some .runtimeDirUnset
  | "RuntimeDirEmpty" => some .runtimeDirEmpty
  | "SocketPathTooLong" => some (.socketPathTooLong d.path)
  | "SocketInUse" => some (.socketInUse d.path)
  | "SocketSetup" => some (.socketSetup d.path d.io)
  | "WaylandConnect" => some (.waylandConnect d.text)
  | "MissingGlobal" => some (.missingGlobal d.text)
  | "UnsupportedVersion" => some (.unsupportedVersion d.interface d.required d.offered)
  | "Protocol" => some (.protocol d.text)
  | "Signal" => some (.signal d.errno)
  | "SurfaceNotReady" => some .surfaceNotReady
  | "Io" => some (.io d.io)
  | _ =>
    ((MemoryError.ofKind? kind d).map .memory).or
      (((ScaleError.ofKind? kind d).map .scale).or
        ((TransferError.ofKind? kind d).map .transfer))

end Backdrop
