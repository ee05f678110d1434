import Backdrop.Session.Basic

/-!
# Backdrop.Session.Dispatch

What the daemon does about events, and the handshake that every connection begins with.

The handshake asks for what there is, waits for the answers, checks that nothing is missing, and
waits once more, so that the monitors' names and modes are known when it ends.
-/

namespace Backdrop
namespace Session

/-- Keeps the first error that must end the process. -/
def fail (e : DaemonError) (s : Session) : Session :=
  { s.note (Log.error e.message) with fatal := s.fatal.or (some e) }

def createMissing (s : Session) : Session := s.changeWall fun st => st.createMissing s.display

/-- Binds what all surfaces are made with; surfaces that waited for it are created. -/
def bindGlobal (i : Interface) (name : UInt32) (number : Nat) (g : Globals) (c : Counts)
    (s : Session) : Session :=
  (({ s.push (.bind name i number) with globals := g, counts := c } : Session).note
    (Log.debug s!"Bound {i.name} v{i.required}")).createMissing

/-- Binds a monitor. -/
def bindOutput (name : UInt32) (s : Session) : Session :=
  let number := s.counts.output
  let s : Session :=
    { s.push (.bind name .output number) with counts := { s.counts with output := number + 1 } }
  s.changeWall fun st =>
    let (id, st) := st.reserve
    st.insert s.display id name number

def bind (i : Interface) (name : UInt32) (s : Session) : Session :=
  let c := s.counts
  let g := s.globals
  match i with
  | .compositor => s.bindGlobal i name c.compositor { g with compositor := some c.compositor }
      { c with compositor := c.compositor + 1 }
  | .shm => s.bindGlobal i name c.shm { g with shm := some c.shm } { c with shm := c.shm + 1 }
  | .layerShell => s.bindGlobal i name c.layerShell { g with layerShell := some c.layerShell }
      { c with layerShell := c.layerShell + 1 }
  | .output => s.bindOutput name

def announce (name : UInt32) (interface : String) (version : UInt32) (s : Session) : Session :=
  match Interface.ofName? interface with
  | none => s
  | some i =>
    match checkVersion i.name i.required version with
    | .error e => s.fail e
    | .ok () => s.bind i name

/-- The flags say that this is the mode in use. Flags that have no meaning make the whole mode
meaningless. -/
def isCurrentMode (flags : UInt32) : Bool := flags &&& 1 == 1 && flags ||| 3 == 3

/-- Does something for the monitor of a layer. -/
def onLayer (layer : Nat) (f : Wall.MonitorId → Wall.Stage → Wall.Stage) (s : Session) : Session :=
  match s.layers.find? layer with
  | none => s
  | some id => s.changeWall (f id)

/-- The number of a monitor's object is the key of the monitor. -/
def dispatch (s : Session) : Event → Session
  | .global name interface version => s.announce name interface version
  | .globalRemove name => s.changeWall fun st => (st.removeGlobal name).2
  | .mode n flags mode =>
    if isCurrentMode flags then s.changeWall (Wall.Stage.setMode n mode) else s
  | .scale n factor => s.changeWall (Wall.Stage.setScale n factor)
  | .name n text => s.changeWall (Wall.Stage.setLabel n text)
  | .done n => s.changeWall (Wall.Stage.done s.display n)
  | .configure n serial size => s.onLayer n fun id st => (st.configure id serial size).2
  | .closed n => s.onLayer n Wall.Stage.closed
  | .release n =>
    match s.buffers.find? n with
    | none => s
    | some frame => s.changeWall (Wall.Stage.released frame)
  | .other _ => s

def dispatchAll (s : Session) (es : List Event) : Session := es.foldl dispatch s

/-- Dispatches the events that were read. -/
def dispatchPending (s : Session) : Session :=
  ({ s with pending := [] } : Session).dispatchAll s.pending

/-- The display server sends only what is about an object that it knows. -/
def hears (s : Session) : Message → Bool
  | .event e => s.live.contains e.object
  | .error .. => true

/-- How the display server answers while the daemon waits for it. -/
inductive Greeting where
  | hangup
  | messages (ms : List Message)
  deriving Repr, DecidableEq, Inhabited

/-- Asks for an answer and waits for it, dispatching what comes before it. -/
def roundtrip (callback : Nat) (g : Greeting) (s : Session) : Except DaemonError Unit × Session :=
  let s := s.push (.sync callback)
  let s : Session := { s with sent := s.sent ++ s.queued, queued := [] }
  match g with
  | .hangup => (.error (.protocol ("Backend error: " ++ brokenPipe)), { s with link := .hungUp })
  | .messages ms =>
    match readAll (ms.filter s.hears) with
    | .error t => (.error (.protocol ("Backend error: " ++ t)), { s with link := .failed t })
    | .ok es =>
      let s := s.dispatchAll es
      match s.fatal with
      | some e => (.error e, s)
      | none => (.ok (), s)

/-- Logs what the wall looks like at the end of the handshake. -/
def noteReady (s : Session) : Session :=
  let monitors := s.wall.monitors.entries
  let lines := monitors.map fun e =>
    Log.debug (s!"  {Wall.idText e.1} {Text.quotedOption e.2.label} " ++
      s!"{e.2.mode.width}x{e.2.mode.height} scale {e.2.scale}")
  { s with log :=
      s.log ++ Log.info s!"Wayland session ready with {monitors.length} output(s)" :: lines }

def handshake (first second : Greeting) : Except DaemonError Unit × Session :=
  match roundtrip 0 first (fresh.push .getRegistry) with
  | (.error e, s) => (.error e, s)
  | (.ok (), s) =>
    match s.globals.require with
    | .error e => (.error e, s)
    | .ok () =>
      match roundtrip 1 second s with
      | (.error e, s) => (.error e, s)
      | (.ok (), s) => (.ok (), s.createMissing.noteReady)

/-- Destroys everything that the session made, and sends that if it can still be sent. -/
def shutdown (s : Session) : Session :=
  let s : Session := { s.changeWall Wall.Stage.shutdown with globals := .none }
  match s.flush with
  | .ok s => s
  | .error t => s.note (Log.debug s!"Final flush failed: {t}")

end Session
end Backdrop
