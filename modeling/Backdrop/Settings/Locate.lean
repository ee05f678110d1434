import Backdrop.Daemon.Error
import Backdrop.Host.Environment
import Backdrop.Host.Tree
import Backdrop.Settings.Decode

/-!
# Backdrop.Settings.Locate

Where the settings file is, and where the transfer socket is.

* `Settings.load` reads a file, `Settings.loadOrDefault` the one that was asked for, or else the
  usual one if it is there.
* `Settings.resolveSocket` takes the path of the socket from the override, then from the settings,
  then from the runtime directory. An empty override counts as none.
-/

namespace Backdrop
namespace Settings

def load (t : Tree) (p : Path) : Except SettingsError Settings :=
  match t.read p with
  | .error e => .error (.unreadable p (.os e))
  | .ok content =>
    match Utf8.decode? content with
    | none => .error (.unreadable p (.other "stream did not contain valid UTF-8"))
    | some text => ofText text

/-- The home directory of a user without one in the environment. -/
def fallbackHome : Path := .ofString "/root"

def homeDirectory (e : Environment) : Path :=
  match e.get? "HOME" with
  | some h => if h.isEmpty then fallbackHome else h
  | none => fallbackHome

/-- The directory of settings; one that is not absolute does not count. -/
def directory (e : Environment) : Path :=
  match e.get? "XDG_CONFIG_HOME" with
  | some d => if d.isAbsolute then d else (homeDirectory e).join (.ofString ".config")
  | none => (homeDirectory e).join (.ofString ".config")

def defaultPath (e : Environment) : Path :=
  ((directory e).join (.ofString "lamco-wallpaper")).join (.ofString "config.toml")

/-- Something is where the path leads in the end. -/
def isThere (t : Tree) (p : Path) : Bool :=
  match t.inspect true p with
  | .ok _ => true
  | .error _ => false

def loadOrDefault (t : Tree) (e : Environment) (asked : Option Path) :
    Except SettingsError Settings :=
  match asked with
  | some p => load t p
  | none => if isThere t (defaultPath e) then load t (defaultPath e) else .ok .default

/-- The longest path of a socket. -/
def maxSocketPath : Nat := 107

/-- The name of the socket in the runtime directory. -/
def socketName : Path := .ofString "lamco-wallpaper.sock"

/-- The path of the socket, however long. -/
def chooseSocket (override configured runtime : Option Path) : Except DaemonError Path :=
  match (override.filter fun p => !p.isEmpty).or configured with
  | some p => .ok p
  | none =>
    match runtime with
    | none => .error .runtimeDirUnset
    | some d => if d.isEmpty then .error .runtimeDirEmpty else .ok (d.join socketName)

def resolveSocket (override configured runtime : Option Path) : Except DaemonError Path :=
  match chooseSocket override configured runtime with
  | .error e => .error e
  | .ok p => if maxSocketPath < p.length then .error (.socketPathTooLong p) else .ok p

/-- The environment variable that overrides the path of the socket. -/
def socketVariable : String := "LAMCO_WALLPAPER_SOCKET"

def socket (s : Settings) (e : Environment) : Except DaemonError Path :=
  resolveSocket (e.get? socketVariable) s.socketPath (e.get? "XDG_RUNTIME_DIR")

end Settings
end Backdrop
