import Backdrop.Host.Path
import Backdrop.Pixel.Filter

/-!
# Backdrop.Settings.Basic

What the settings file can say, what holds without it, and what is wrong with a file.

`Settings.validate` reports an unknown filter before an unknown level, and both before a timeout of
zero.
-/

namespace Backdrop

structure Settings where
  /-- Where the transfer socket is, unless something else says so. -/
  socketPath : Option Path
  /-- After so many milliseconds a client that sends nothing is dropped. -/
  readTimeout : Option Nat
  filterName : String
  level : String
  logDirectory : Option Path
  deriving Repr, DecidableEq, Inhabited

inductive SettingsError where
  | unreadable (path : Path) (cause : IoError)
  | malformed
  | unknownFilter (name : String)
  | unknownLevel (name : String)
  | zeroTimeout
  deriving Repr, DecidableEq, Inhabited

namespace SettingsError

def message : SettingsError → String
  | .unreadable p _ => s!"Failed to read config file: {p.display}"
  | .malformed => "Failed to parse config file"
  | .unknownFilter n => "Invalid render filter: " ++ n
  | .unknownLevel n => "Invalid log level: " ++ n
  | .zeroTimeout => "socket.read_timeout_ms must be positive when set"

/-- A short name, for reports that programs read. -/
def kind : SettingsError → String
  | .unreadable _ _ => "Config.Read"
  | .malformed => "Config.Parse"
  | .unknownFilter _ | .unknownLevel _ | .zeroTimeout => "Config.Invalid"

end SettingsError

namespace Settings

def default : Settings := ⟨none, none, "catmull-rom", "info", none⟩

def levels : List String := ["trace", "debug", "info", "warn", "error"]

def validate (s : Settings) : Except SettingsError Unit :=
  if (Filter.ofName? s.filterName).isNone then .error (.unknownFilter s.filterName)
  else if !levels.contains s.level then .error (.unknownLevel s.level)
  else if s.readTimeout = some 0 then .error .zeroTimeout
  else .ok ()

/-- The filter that is named, or the usual one. -/
def filter (s : Settings) : Filter := (Filter.ofName? s.filterName).getD Inhabited.default

end Settings
end Backdrop
