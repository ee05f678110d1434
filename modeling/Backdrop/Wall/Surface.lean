import Backdrop.Wall.Basic

/-!
# Backdrop.Wall.Surface

The life of monitors and their surfaces: what the display server tells about a monitor, and when its
surface is created, sized and destroyed.

A surface is created as soon as surfaces can be created, and again with the end of the next batch of
properties after the display server closed it.
-/

namespace Backdrop
namespace Wall
namespace Stage

def createSurface (id : MonitorId) (m : Monitor) (s : Stage) : Stage :=
  let surface := s.wall.nextSurface
  let s : Stage := { s with wall := { s.wall with nextSurface := surface + 1 } }
  ((s.call (.createSurface id m.handle surface)).putMonitor id
    { m with surface := some surface, phase := .pendingConfigure }).note
    (Log.debug s!"Created layer surface for {m.describe id}")

def surfaceRefused (id : MonitorId) (m : Monitor) (e : DisplayError) (s : Stage) : Stage :=
  (s.call (.createSurfaceFailed id m.handle)).note
    (Log.warn s!"Failed to create surface for {m.describe id}: {e.message}")

/-- Creates the surface of a monitor that has none. -/
def ensureSurface (d : Display) (id : MonitorId) (s : Stage) : Stage :=
  if d.ready id then
    match s.monitor? id with
    | none => s
    | some m =>
      if m.phase = .uncreated then
        match d.surfaceRefusal id with
        | none => s.createSurface id m
        | some e => s.surfaceRefused id m e
      else s
  else s.note (Log.trace s!"Deferring surface for {idText id}: globals not bound yet")

def insert (d : Display) (id : MonitorId) (globalName : UInt32) (handle : Nat) (s : Stage) :
    Stage :=
  ((s.note (Log.debug s!"New output {idText id} (global {globalName})")).putMonitor id
    (.announced globalName handle)).ensureSurface d id

/-- Creates the surfaces of monitors that were announced too early to have one. -/
def createMissing (d : Display) (s : Stage) : Stage :=
  let pending := (s.wall.monitors.entries.filter fun e => e.2.phase == .uncreated).map (·.1)
  pending.foldl (fun s id => s.ensureSurface d id) s

/-- Changes what is known of a monitor, if there is one. -/
def modifyMonitor (id : MonitorId) (f : Monitor → Monitor) (s : Stage) : Stage :=
  { s with wall := { s.wall with monitors := s.wall.monitors.modify id f } }

def setMode (id : MonitorId) (mode : Mode) (s : Stage) : Stage :=
  s.modifyMonitor id fun m => { m with mode := mode }

/-- Scales below one mean one. -/
def setScale (id : MonitorId) (scale : Int) (s : Stage) : Stage :=
  s.modifyMonitor id fun m => { m with scale := max scale 1 }

def setLabel (id : MonitorId) (label : String) (s : Stage) : Stage :=
  s.modifyMonitor id fun m => { m with label := some label }

/-- Ends a batch of properties. -/
def done (d : Display) (id : MonitorId) (s : Stage) : Stage :=
  match s.monitor? id with
  | none => s.ensureSurface d id
  | some m =>
    (s.note (Log.debug
      s!"Output {m.describe id}: {m.mode.width}x{m.mode.height} scale {m.scale}")).ensureSurface d id

/-- Does what a size that was asked for means. -/
def configureBy (id : MonitorId) (m : Monitor) (surface : SurfaceId) :
    ConfigureAction → Stage → Stage
  | .recommit, s =>
    (s.note (Log.trace s!"Configure for {m.describe id} unchanged, recommitting")).call
      (.commit surface)
  | .resize size, s =>
    (s.note (Log.debug s!"Configured {m.describe id} at {size.text}")).putMonitor id
      { m with size := size, phase := .drawable }
  | .ignore, s => s.note (Log.warn s!"Ignoring zero-sized configure for {m.describe id}")

/-- The display server asks for a size. The request is acknowledged first, whatever it means. -/
def configure (id : MonitorId) (serial : UInt32) (size : Extent) (s : Stage) :
    Option ConfigureAction × Stage :=
  match s.monitor? id with
  | none => (none, s)
  | some m =>
    match m.surface with
    | none => (none, s)
    | some surface =>
      let action := m.phase.onConfigure m.size size
      (some action, (s.call (.acknowledge surface serial)).configureBy id m surface action)

/-- Takes a frame out of use: at once if it is idle, else when it is released. -/
def retire (id : FrameId) (s : Stage) : Stage :=
  match s.frame? id with
  | none => s
  | some f => if f.busy then s.putFrame id { f with retired := true } else s.freeFrame id

def retireOption : Option FrameId → Stage → Stage
  | none, s => s
  | some id, s => s.retire id

def destroySurface : Option SurfaceId → Stage → Stage
  | none, s => s
  | some surface, s => s.call (.destroySurface surface)

/-- The display server is done with a frame. -/
def released (id : FrameId) (s : Stage) : Stage :=
  match s.frame? id with
  | none => s
  | some f =>
    if f.retired then
      (s.note (Log.trace s!"Freeing released buffer {id} of {idText f.owner}")).freeFrame id
    else s.putFrame id { f with busy := false }

/-- The display server closes a surface. -/
def closed (id : MonitorId) (s : Stage) : Stage :=
  match s.monitor? id with
  | none => s
  | some m =>
    (((s.note (Log.info s!"Layer surface for {m.describe id} closed by compositor")).destroySurface
      m.surface).putMonitor id
      { m with surface := none, phase := .uncreated, frame := none }).retireOption m.frame

/-- A monitor goes away. -/
def removeMonitor (id : MonitorId) (m : Monitor) (s : Stage) : Stage :=
  ((((s.dropMonitor id).note (Log.info s!"Output {m.describe id} removed")).destroySurface
    m.surface).retireOption m.frame).call (.releaseOutput m.handle)

/-- The display server withdraws an announcement; says whether a monitor came from it. -/
def removeGlobal (globalName : UInt32) (s : Stage) : Bool × Stage :=
  match s.wall.findGlobal globalName with
  | none => (false, s)
  | some id =>
    match s.monitor? id with
    | none => (false, s)
    | some m => (true, s.removeMonitor id m)

end Stage
end Wall
end Backdrop
