import Backdrop.Log
import Backdrop.Pixel.Cover
import Backdrop.Memory.Error
import Backdrop.Table
import Backdrop.Text.Quoted
import Backdrop.Wall.Phase

/-!
# Backdrop.Wall.Basic

The wall: all monitors, and the frames that hold their pictures.

* `Monitor` is what is known of one monitor. Its key is given out once and never again.
* `Frame` is a buffer of pixels that was attached to a surface. It is busy from then until the
  display server releases it, and retired when its monitor shows something else.
* `Display` is how the display server answers during one operation, `Call` what it is asked.
* `Stage` is a wall together with the calls made so far and the lines logged so far; every
  operation on the wall takes a stage to a stage.
-/

namespace Backdrop
namespace Wall

abbrev MonitorId := Nat

abbrev FrameId := Nat

/-- A surface, told apart from all surfaces created before. -/
abbrev SurfaceId := Nat

/-- How log lines name the key of a monitor. -/
def idText (id : MonitorId) : String := s!"output#{id}"

structure Mode where
  width : Int
  height : Int
  deriving Repr, DecidableEq, Inhabited

structure Monitor where
  globalName : UInt32
  /-- The display server's object for the monitor. -/
  handle : Nat
  label : Option String
  mode : Mode
  scale : Int
  surface : Option SurfaceId
  phase : Phase
  size : Extent
  frame : Option FrameId
  deriving Repr, DecidableEq, Inhabited

namespace Monitor

/-- A monitor of which only the announcement is known. -/
def announced (globalName : UInt32) (handle : Nat) : Monitor :=
  ⟨globalName, handle, none, ⟨0, 0⟩, 1, none, .uncreated, .zero, none⟩

def describe (m : Monitor) (id : MonitorId) : String :=
  match m.label with
  | some label => s!"{label} ({idText id})"
  | none => idText id

/-- Whether a request for this target means this monitor; no target means all of them. -/
def matchesTarget (m : Monitor) (target : Option String) : Bool :=
  match target with
  | none => true
  | some name => m.label == some name

/-- How many pixels of a frame make one of the surface, on each side. -/
def factor (m : Monitor) : UInt32 := (max m.scale 1).toNat.toUInt32

/-- The size of a frame that covers the surface. Where a side does not fit into a word, a program
with checked arithmetic stops instead: `Stage.crash?` tells so. -/
def frameSize (m : Monitor) : Extent := m.size.scaled m.factor

end Monitor

structure Frame where
  owner : MonitorId
  size : Extent
  pixels : Array UInt8
  busy : Bool
  retired : Bool
  deriving Repr, DecidableEq, Inhabited

end Wall

structure Wall where
  monitors : Table Wall.Monitor
  frames : Table Wall.Frame
  nextMonitor : Nat
  nextFrame : Nat
  nextSurface : Nat
  deriving Inhabited

namespace Wall

def empty : Wall := ⟨.empty, .empty, 0, 0, 0⟩

/-- The first monitor that was announced under this name. -/
def findGlobal (w : Wall) (globalName : UInt32) : Option MonitorId :=
  (w.monitors.entries.find? fun e => e.2.globalName == globalName).map (·.1)

/-- The monitors that a request for this target means. -/
def targets (w : Wall) (target : Option String) : List MonitorId :=
  (w.monitors.entries.filter fun e => e.2.matchesTarget target).map (·.1)

/-- Gives out the key of a monitor that is about to be announced. -/
def reserve (w : Wall) : MonitorId × Wall :=
  (w.nextMonitor, { w with nextMonitor := w.nextMonitor + 1 })

/-- Why the display server gives no surface or no memory. -/
inductive DisplayError where
  | surfaceNotReady
  | memory (cause : MemoryError)
  deriving Repr, DecidableEq, Inhabited

def DisplayError.message : DisplayError → String
  | .surfaceNotReady => "surface prerequisites (compositor, layer shell) are not bound yet"
  | .memory e => e.message

/-- Why a monitor could not be drawn on. -/
inductive DrawError where
  | display (cause : DisplayError)
  | scale (cause : Cover.Stop)
  deriving Repr, DecidableEq, Inhabited

def DrawError.message : DrawError → String
  | .display e => e.message
  | .scale e => e.message

def DrawError.crash? : DrawError → Option Cover.Crash
  | .display _ => none
  | .scale e => e.crash?

structure Display where
  /-- Surfaces can be created, when it is asked for this monitor. -/
  ready : MonitorId → Bool
  /-- Why no surface is created for this monitor; none if one is. -/
  surfaceRefusal : MonitorId → Option DisplayError
  /-- The memory behind a new frame. -/
  allocate : FrameId → Extent → Except DisplayError (Array UInt8)

inductive Call where
  | createSurface (monitor : MonitorId) (handle : Nat) (surface : SurfaceId)
  | createSurfaceFailed (monitor : MonitorId) (handle : Nat)
  | destroySurface (surface : SurfaceId)
  | acknowledge (surface : SurfaceId) (serial : UInt32)
  | commit (surface : SurfaceId)
  | allocate (frame : FrameId) (size : Extent)
  | allocateFailed (frame : FrameId) (size : Extent)
  | attach (surface : SurfaceId) (frame : FrameId) (scale : Int) (size : Extent)
      (pixels : Array UInt8)
  /-- Attaches nothing, so that the surface shows nothing. -/
  | detach (surface : SurfaceId) (scale : Int)
  | free (frame : FrameId)
  | releaseOutput (handle : Nat)
  deriving Repr, DecidableEq, Inhabited

/-- What a request puts on the monitors it means. -/
inductive Content where
  | clear
  | image (pixels : Array UInt8) (extent : Extent)
  deriving Repr, DecidableEq, Inhabited

/-- What came of one monitor in a request. -/
inductive Verdict where
  | drawn | cleared | skipped | failed
  deriving Repr, DecidableEq, Inhabited

structure Report where
  matched : Nat
  drawn : Nat
  cleared : Nat
  skipped : Nat
  failed : Nat
  deriving Repr, DecidableEq, Inhabited

namespace Report

def empty : Report := ⟨0, 0, 0, 0, 0⟩

def count (r : Report) : Verdict → Report
  | .drawn => { r with drawn := r.drawn + 1 }
  | .cleared => { r with cleared := r.cleared + 1 }
  | .skipped => { r with skipped := r.skipped + 1 }
  | .failed => { r with failed := r.failed + 1 }

end Report

structure Stage where
  wall : Wall
  calls : List Call
  log : List Log.Line
  deriving Inhabited

namespace Stage

def empty : Stage := ⟨.empty, [], []⟩

def call (c : Call) (s : Stage) : Stage := { s with calls := s.calls ++ [c] }

def note (l : Log.Line) (s : Stage) : Stage := { s with log := s.log ++ [l] }

def monitor? (s : Stage) (id : MonitorId) : Option Monitor := s.wall.monitors.find? id

def putMonitor (id : MonitorId) (m : Monitor) (s : Stage) : Stage :=
  { s with wall := { s.wall with monitors := s.wall.monitors.insert id m } }

def dropMonitor (id : MonitorId) (s : Stage) : Stage :=
  { s with wall := { s.wall with monitors := s.wall.monitors.erase id } }

def frame? (s : Stage) (id : FrameId) : Option Frame := s.wall.frames.find? id

def putFrame (id : FrameId) (f : Frame) (s : Stage) : Stage :=
  { s with wall := { s.wall with frames := s.wall.frames.insert id f } }

/-- Forgets a frame and gives its memory back. -/
def freeFrame (id : FrameId) (s : Stage) : Stage :=
  ({ s with wall := { s.wall with frames := s.wall.frames.erase id } } : Stage).call (.free id)

end Stage
end Wall
end Backdrop
