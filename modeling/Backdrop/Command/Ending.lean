import Backdrop.Command.Arguments
import Backdrop.Report.Hint
import Backdrop.Settings.Locate

/-!
# Backdrop.Command.Ending

How the programs end, and what both of them do first: they read their arguments and their settings.
-/

namespace Backdrop
namespace Command

inductive Ending where
  /-- The arguments make no sense. -/
  | misused
  /-- Only information was asked for. -/
  | informed
  | finished
  | failed (why : Chain)
  deriving Repr, DecidableEq, Inhabited

namespace Ending

def ofStop : Stop → Ending
  | .mistake => .misused
  | .inform => .informed

/-- The exit status. -/
def code : Ending → Nat
  | .misused => 2
  | .informed | .finished => 0
  | .failed _ => 1

/-- What is said on standard error at the end, apart from help with the arguments. -/
def complaint : Ending → String
  | .failed why => why.shown ++ "\n"
  | _ => ""

end Ending

/-- The switch that names the settings file. -/
def configName : String := "config"

/-- The variable that stands in for that switch. -/
def configVariable : String := "LAMCO_WALLPAPER_CONFIG"

/-- The path of the settings file that was asked for. -/
def askedConfig (a : Arguments) (e : Environment) : Except Stop (Option Path) :=
  match (a.value? configName).map Path.mk with
  | some p => .ok (some p)
  | none =>
    match e.get? configVariable with
    | none => .ok none
    | some p => if p.isEmpty then .error .mistake else .ok (some p)

/-- How a settings file is described that cannot be read as one. -/
def malformation : String := "TOML parse error\n"

def loadSettings (t : Tree) (e : Environment) (asked : Option Path) : Except Ending Settings :=
  match Settings.loadOrDefault t e asked with
  | .error err => .error (.failed (.ofSettings malformation err))
  | .ok s => .ok s

/-- A text that was checked to be one when it was read. -/
def textOf (w : Word) : String := Utf8.lossy w

end Command
end Backdrop
