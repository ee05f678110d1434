import Backdrop.Command.Ending
import Backdrop.Daemon.Loop
import Backdrop.Log.Directive
import Backdrop.Log.Record
import Backdrop.Report.Diagnostics

/-!
# Backdrop.Command.Serve

The program that runs the daemon.

It reads its settings, opens its log, works out an absolute path for the socket, logs what it finds
around it and starts the daemon. A log file is made before anything is logged, and stays whatever
comes later.

`Serve.start` goes as far as the daemon that is ready for its first turn.
-/

namespace Backdrop
namespace Command
namespace Serve

structure Options where
  config : Option Path
  /-- The program stays with its terminal. -/
  foreground : Bool
  /-- How often more log lines were asked for. -/
  verbosity : Nat
  /-- How log lines are written. -/
  format : String
  logFile : Option Path
  deriving Repr, DecidableEq, Inhabited

/-- Where the program finds things. -/
structure Setting where
  environment : Environment
  /-- The display server's answers in the handshake; none if there is no display server. -/
  display : Option (Session.Greeting × Session.Greeting)
  /-- What is known of the machine, line by line. -/
  system : List String
  deriving Repr, DecidableEq, Inhabited

def grammar : Grammar :=
  ⟨[⟨configName, some 'c', .path⟩, ⟨"foreground", some 'f', .flag⟩,
    ⟨"verbose", some 'v', .counted⟩, ⟨"log-format", none, .text⟩, ⟨"log-file", none, .path⟩] ++
    Switch.common, 0⟩

def options (words : List Word) (e : Environment) : Except Stop Options := do
  let a ← Arguments.read grammar words
  return ⟨← askedConfig a e, a.has "foreground", a.count "verbose",
    ((a.value? "log-format").map textOf).getD "pretty", (a.value? "log-file").map Path.mk⟩

/-! ## The log -/

/-- How the lines stand in the log. -/
inductive Format where
  | plain
  /-- As records for machines. -/
  | record
  deriving Repr, DecidableEq, Inhabited

/-- Every name but one stands for plain lines. -/
def Format.ofName (name : String) : Format := if name = "json" then .record else .plain

/-- The log: what is wanted, how it is written, the file that it goes to besides standard output, and
the lines so far. -/
structure Journal where
  directives : Log.Directives
  format : Format
  file : Option Path
  entries : List Log.Entry
  deriving Repr, DecidableEq, Inhabited

namespace Journal

/-- Where the program's own lines come from. -/
def program : String := "lamco_wallpaperd"

/-- Where the library's lines come from. -/
def library : String := "lamco_wallpaper"

/-- Where the lines about the surroundings come from. -/
def surroundings : String := "lamco_wallpaper::utils::diagnostics"

/-- Logs the lines that are wanted. -/
def write (origin : String) (lines : List Log.Line) (j : Journal) : Journal :=
  let wanted := lines.filter fun l => j.directives.wants origin l.level
  { j with entries := j.entries ++ wanted.map fun l => ⟨origin, l⟩ }

def lines (j : Journal) : List Log.Line := j.entries.map (·.line)

/-- An entry as it is written. -/
def written (j : Journal) (e : Log.Entry) : String :=
  match j.format with
  | .plain => e.line.render
  | .record => e.record

/-- The entries as a file has them. -/
def bytes (j : Journal) : List UInt8 :=
  Utf8.encode (String.join (j.entries.map fun e => j.written e ++ "\n"))

/-- Adds the entries to the log file. -/
def save (j : Journal) (t : Tree) : Tree :=
  match j.file with
  | none => t
  | some p => (((t.read p).bind fun old => t.write p (old ++ j.bytes)).toOption).getD t

end Journal

/-- The level for the programs' own lines. -/
def levelName (o : Options) (s : Settings) : String :=
  match o.verbosity with
  | 0 => s.level
  | 1 => "debug"
  | _ => "trace"

/-- The variable with directives for the log. -/
def logVariable : String := "RUST_LOG"

def directives (o : Options) (s : Settings) (e : Environment) : Log.Directives :=
  let threshold := (Log.thresholdOf? (levelName o s)).getD (some .info)
  (((e.text? logVariable).bind Log.Directives.ofText?)).getD
    [.ofOrigin Journal.library threshold, .ofOrigin Journal.program threshold,
      .ofThreshold (some .warn)]

/-- The name of the log file in a directory for logs. -/
def logName : Path := .ofString "lamco-wallpaperd.log"

/-- Makes the log file that was named. -/
def createLog (p : Path) (t : Tree) : Except Chain Unit × Tree :=
  match t.write p [] with
  | .error err =>
    (.error (Chain.context s!"Failed to create log file {p.display}" (.ofIo (.os err))), t)
  | .ok t => (.ok (), t)

/-- Makes the directory for logs; a path with a null byte leads nowhere. -/
def createDirectory (dir : Path) (t : Tree) : Except IoError Unit × Tree :=
  if dir.bytes.contains 0 then
    (.error (.other "file name contained an unexpected NUL byte"), t)
  else
    let (r, t) := t.makeDirectory dir
    (r.mapError IoError.os, t)

/-- Makes the directory for logs, and the file in it unless it is there. -/
def openLog (dir : Path) (t : Tree) : Except Chain Unit × Tree :=
  match createDirectory dir t with
  | (.error err, t) =>
    (.error (Chain.context s!"Failed to create log directory {dir.display}" (.ofIo err)), t)
  | (.ok (), t) =>
    if (t.read (dir.join logName)).isOk then (.ok (), t) else createLog (dir.join logName) t

/-- The log file, which is made if need be. The directories that were made for it stay, even if it
cannot be made. -/
def prepareLog (o : Options) (s : Settings) (cwd : Path) (t : Tree) :
    Except Chain (Option Path) × Tree :=
  match o.logFile, s.logDirectory with
  | some p, _ =>
    let (r, t) := createLog p t
    (r.map fun _ => some p, t)
  | none, none => (.ok none, t)
  | none, some dir =>
    match Path.absolute cwd dir with
    | .error err =>
      (.error (Chain.context s!"Invalid log directory {dir.display}" (.ofIo err)), t)
    | .ok dir =>
      let (r, t) := openLog dir t
      (r.map fun _ => some (dir.join logName), t)

/-- The first line tells where the log goes. -/
def openingLines (o : Options) (file : Option Path) : List Log.Line :=
  if file.isSome then [Log.info "Logging to file"]
  else if o.foreground then []
  else [Log.warn "No log file configured; logs are lost once the daemon detaches"]

/-- The lines that name the program. -/
def banner : List Log.Line :=
  let rule := Chain.bar '═' 56
  [rule, s!"  lamco-wallpaperd v{Diagnostics.version}", rule].map Log.info

/-! ## The start -/

/-- What a start comes to: a daemon or an ending, and the log and the host up to then. -/
structure Result where
  outcome : Except Ending Daemon
  journal : Journal
  host : Host

/-- A run that ended before there was a log. -/
def Result.early (e : Ending) (h : Host) : Result := ⟨.error e, ⟨[], .plain, none, []⟩, h⟩

/-- An absolute path for the socket. -/
def socketPath (s : Settings) (e : Environment) (cwd : Path) : Except Chain Path :=
  match s.socket e with
  | .error err => .error (.ofDaemon err)
  | .ok p =>
    match Path.absolute cwd p with
    | .error err => .error (Chain.context "Failed to resolve socket path" (.ofIo err))
    | .ok p => .ok p

/-- The outcome of a run whose log is open; the lines up to then are in the log file. -/
def Result.logged (outcome : Except Ending Daemon) (j : Journal) (h : Host) : Result :=
  ⟨outcome, j, { h with tree := j.save h.tree }⟩

/-- How it is worded that a connection was promised and is none. -/
def badConnection : String := "WAYLAND_SOCKET was set but contained garbage"

/-- The display server, or why there is none. -/
def Setting.connection (s : Setting) : Except String (Session.Greeting × Session.Greeting) :=
  match s.display with
  | some d => .ok d
  | none =>
    .error (if (s.environment.text? "WAYLAND_SOCKET").isSome then badConnection
      else Daemon.noDisplay)

/-- Starts the daemon, when the log is open. -/
def launch (setting : Setting) (s : Settings) (j : Journal) (h : Host) : Result :=
  match socketPath s setting.environment h.tree.workingPath with
  | .error why => .logged (.error (.failed why)) j h
  | .ok socket =>
    let j := j.write Journal.surroundings
      (Diagnostics.lines setting.system setting.environment socket)
    match Daemon.start ⟨socket, setting.connection, s.filter⟩ h with
    | .error f =>
      .logged (.error (.failed (.ofDaemon f.cause))) (j.write Journal.library f.log) h
    | .ok d => .logged (.ok { d with log := [] }) (j.write Journal.library d.log) d.host

def start (words : List Word) (setting : Setting) (h : Host) : Result :=
  match options words setting.environment with
  | .error stop => .early (.ofStop stop) h
  | .ok o =>
    match loadSettings h.tree setting.environment o.config with
    | .error ending => .early ending h
    | .ok s =>
      let (file, tree) := prepareLog o s h.tree.workingPath h.tree
      let h := { h with tree := tree }
      match file with
      | .error why => .early (.failed why) h
      | .ok file =>
        let j : Journal := ⟨directives o s setting.environment, .ofName o.format, file, []⟩
        launch setting s (j.write Journal.program (openingLines o file ++ banner)) h

end Serve
end Command
end Backdrop
