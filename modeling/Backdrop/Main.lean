import Backdrop.Command.Control
import Backdrop.Command.Serve

/-!
# Backdrop.Main

The command line: `control` and `serve`, each followed by its own arguments.

This layer reads the environment and those files that the arguments and the settings can name, and
writes what the programs have to say. It has neither sockets nor a display server to offer, so
`control` finds no daemon, and `serve` nothing to draw on.
-/

namespace Backdrop
namespace Command

/-- The variables that the programs ask for. -/
def variableNames : List String :=
  [Settings.socketVariable, configVariable, Serve.logVariable, "HOME", "XDG_RUNTIME_DIR",
    "XDG_CONFIG_HOME", "XDG_CURRENT_DESKTOP", "WAYLAND_DISPLAY", "WAYLAND_SOCKET"]

def readEnvironment : IO Environment := do
  let set ← variableNames.filterMapM fun name => do
    return (← IO.getEnv name).map fun v => (name, Path.ofString v)
  return ⟨set⟩

/-- A tree with a file as it is on the real one, if it is there. -/
def withFile (t : Tree) (p : Path) : IO Tree := do
  let name := p.display
  try
    let content ← IO.FS.readBinFile name
    return (t.lay p (some content.toList)).2
  catch _ => return t

/-- The real files that a run can read. -/
def readTree (e : Environment) (named : List Path) : IO Tree := do
  let cwd := Path.ofString (← IO.currentDir).toString
  (Settings.defaultPath e :: named).foldlM withFile (Tree.bare cwd.names)

def say (lines : List String) (e : Ending) : IO UInt32 := do
  lines.forM IO.println
  IO.eprint e.complaint
  return e.code.toUInt32

def control (words : List Word) : IO UInt32 := do
  let e ← readEnvironment
  match Control.options words e with
  | .error stop => say [] (.ofStop stop)
  | .ok o =>
    let t ← readTree e (o.file :: o.config.toList)
    let input ← if Control.isStandardInput o.file && !o.clear then
        (← IO.getStdin).readBinToEnd
      else pure ByteArray.empty
    let (ending, h) := Control.run words ⟨e, input.toList⟩ (.ofTree t)
    say (h.log.map (·.render)) ending

def serve (words : List Word) : IO UInt32 := do
  let e ← readEnvironment
  match Serve.options words e with
  | .error stop => say [] (.ofStop stop)
  | .ok o =>
    let t ← readTree e o.config.toList
    let r := Serve.start words ⟨e, none, []⟩ (.ofTree t)
    say (r.journal.entries.map r.journal.written) (match r.outcome with
      | .error ending => ending
      | .ok _ => .finished)

end Command
end Backdrop

def main (args : List String) : IO UInt32 :=
  let words := (args.drop 1).map Backdrop.Utf8.encode
  match args.head? with
  | some "control" => Backdrop.Command.control words
  | some "serve" => Backdrop.Command.serve words
  | _ => do
    IO.eprintln "usage: (control | serve) ARGUMENTS"
    return 2
