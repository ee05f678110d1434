import Backdrop.Wall.Surface

/-!
# Backdrop.Wall.Draw

Putting content on monitors, and taking everything down.

* `Stage.drawOn` draws on one monitor. It leaves the monitor as it was if memory or scaling fails.
* `Stage.clearOn` takes the picture of one monitor away; its surface then waits for a size again.
* `Stage.apply` does one of the two for every monitor that a request means. What goes wrong with one
  monitor does not keep the others from being served.
* `Stage.crash?` tells whether it crashes on the way. Then the program ends there, and what
  `Stage.apply` comes to is never seen.
* `Stage.shutdown` destroys surfaces and releases monitors in their order, and then frees all
  frames in the order of their keys.
-/

namespace Backdrop
namespace Wall
namespace Stage

/-- Takes the frame off a monitor that has one. -/
def clearFrame (id : MonitorId) (m : Monitor) (surface : SurfaceId) (frame : FrameId)
    (s : Stage) : Stage :=
  if m.phase.isDrawable then
    ((((s.call (.detach surface m.scale)).call (.commit surface)).putMonitor id
      { m with frame := none, phase := .pendingConfigure }).note
      (Log.debug s!"Cleared {m.describe id}")).retire frame
  else (s.putMonitor id { m with frame := none }).retire frame

def clearOn (id : MonitorId) (s : Stage) : Verdict × Stage :=
  match s.monitor? id with
  | none => (.skipped, s)
  | some m =>
    match m.surface with
    | none => (.skipped, s)
    | some surface =>
      match m.frame with
      | none => (.cleared, s.note (Log.trace s!"Nothing to clear on {m.describe id}"))
      | some frame => (.cleared, s.clearFrame id m surface frame)

/-- Shows a finished frame on a monitor. -/
def attachFrame (id : MonitorId) (m : Monitor) (surface : SurfaceId) (frame : FrameId)
    (size : Extent) (pixels : Array UInt8) (s : Stage) : Stage :=
  ((((s.call (.attach surface frame m.scale size pixels)).putMonitor id
    { m with frame := some frame }).note
    (Log.trace s!"Attached buffer {frame} ({size.text}) to {m.describe id}")).putFrame frame
    ⟨id, size, pixels, true, false⟩).retireOption m.frame

/-- Scales the picture into fresh memory and shows it. -/
def fillFrame (id : MonitorId) (m : Monitor) (frame : FrameId) (size : Extent)
    (memory pixels : Array UInt8) (extent : Extent) (filter : Filter) (s : Stage) :
    Except DrawError Verdict × Stage :=
  match Cover.cover memory size pixels extent filter with
  | .error e => (.error (.scale e), s.call (.free frame))
  | .ok (filled, _) =>
    match m.surface with
    | none => (.ok .skipped, s.call (.free frame))
    | some surface => (.ok .drawn, s.attachFrame id m surface frame size filled)

/-- Draws on a monitor that may be drawn on. -/
def drawFrame (d : Display) (id : MonitorId) (m : Monitor) (pixels : Array UInt8)
    (extent : Extent) (filter : Filter) (s : Stage) : Except DrawError Verdict × Stage :=
  let frame := s.wall.nextFrame
  let s : Stage := { s with wall := { s.wall with nextFrame := frame + 1 } }
  match d.allocate frame m.frameSize with
  | .error e => (.error (.display e), s.call (.allocateFailed frame m.frameSize))
  | .ok memory =>
    (s.call (.allocate frame m.frameSize)).fillFrame id m frame m.frameSize memory pixels extent
      filter

def drawOn (d : Display) (id : MonitorId) (pixels : Array UInt8) (extent : Extent)
    (filter : Filter) (s : Stage) : Verdict × Stage :=
  match s.monitor? id with
  | none => (.skipped, s)
  | some m =>
    if m.phase.isDrawable then
      match s.drawFrame d id m pixels extent filter with
      | (.ok v, s) => (v, s)
      | (.error e, s) => (.failed, s.note (Log.warn s!"Failed to draw on {m.describe id}: {e.message}"))
    else (.skipped, s.note (Log.debug s!"Skipping {m.describe id}: not configured yet"))

def applyOn (d : Display) (content : Content) (filter : Filter) (id : MonitorId) (s : Stage) :
    Verdict × Stage :=
  match content with
  | .clear => s.clearOn id
  | .image pixels extent => s.drawOn d id pixels extent filter

/-- Serves monitors one after another. -/
def applyAll (d : Display) (content : Content) (filter : Filter) :
    List MonitorId → Report → Stage → Report × Stage
  | [], r, s => (r, s)
  | id :: ids, r, s =>
    let (v, s) := s.applyOn d content filter id
    applyAll d content filter ids (r.count v) s

/-- What stops a program that checks its arithmetic when it draws on a monitor. -/
def crashOn (d : Display) (content : Content) (filter : Filter) (id : MonitorId) (s : Stage) :
    Option Cover.Crash :=
  match content, s.monitor? id with
  | .image pixels extent, some m =>
    if m.phase.isDrawable then
      match m.size.scaled? m.factor with
      | none => some .overflow
      | some _ =>
        match s.drawFrame d id m pixels extent filter with
        | (.error e, _) => e.crash?
        | (.ok _, _) => none
    else none
  | _, _ => none

/-- The first crash when monitors are served one after another. -/
def crashAll (d : Display) (content : Content) (filter : Filter) :
    List MonitorId → Stage → Option Cover.Crash
  | [], _ => none
  | id :: ids, s =>
    (s.crashOn d content filter id).or
      (crashAll d content filter ids (s.applyOn d content filter id).2)

def crash? (d : Display) (target : Option String) (content : Content) (filter : Filter)
    (s : Stage) : Option Cover.Crash :=
  s.crashAll d content filter (s.wall.targets target)

/-- Notes that a named monitor was not found. -/
def noteUnmatched (target : Option String) (matched : Nat) (s : Stage) : Stage :=
  if target.isSome && matched == 0 then
    s.note (Log.debug s!"No output named {Text.quotedOption target}")
  else s

def apply (d : Display) (target : Option String) (content : Content) (filter : Filter)
    (s : Stage) : Report × Stage :=
  let ids := s.wall.targets target
  let (r, s) := applyAll d content filter ids { Report.empty with matched := ids.length } s
  (r, s.noteUnmatched target ids.length)

def tearDownMonitor (s : Stage) (m : Monitor) : Stage :=
  (s.destroySurface m.surface).call (.releaseOutput m.handle)

def shutdown (s : Stage) : Stage :=
  let monitors := s.wall.monitors.values
  let frames := s.wall.frames.keys
  let s : Stage := { s with wall := { s.wall with monitors := .empty, frames := .empty } }
  frames.foldl (fun s id => s.call (.free id)) (monitors.foldl tearDownMonitor s)

end Stage
end Wall
end Backdrop
