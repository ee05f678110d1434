import Backdrop.Wall.Operation

/-!
# Backdrop.Proofs.Wall.Move

What happens to a wall, one move at a time.

* `Event` is what an observer sees: that an operation begins, or that the display server is called.
* `Moment` is a wall in the middle of an operation, together with what the operation has in hand.
* `Move M es M'`: at the moment `M`, the events `es` can happen at once, and lead to `M'`.
* `Moves` is any number of moves. Whatever every move preserves, every run preserves.
-/

namespace Backdrop
namespace Wall

inductive Event where
  | operation (op : Operation)
  | call (c : Call)
  deriving Repr, DecidableEq, Inhabited

/-! ## Walls without calls and log -/

def monitor? (w : Wall) (id : MonitorId) : Option Monitor := w.monitors.find? id

def frame? (w : Wall) (f : FrameId) : Option Frame := w.frames.find? f

def putMonitor (w : Wall) (id : MonitorId) (m : Monitor) : Wall :=
  { w with monitors := w.monitors.insert id m }

def modifyMonitor (w : Wall) (id : MonitorId) (change : Monitor → Monitor) : Wall :=
  { w with monitors := w.monitors.modify id change }

def dropMonitor (w : Wall) (id : MonitorId) : Wall := { w with monitors := w.monitors.erase id }

def putFrame (w : Wall) (f : FrameId) (slot : Frame) : Wall :=
  { w with frames := w.frames.insert f slot }

def dropFrame (w : Wall) (f : FrameId) : Wall := { w with frames := w.frames.erase f }

def claimMonitor (w : Wall) : Wall := { w with nextMonitor := w.nextMonitor + 1 }

def claimFrame (w : Wall) : Wall := { w with nextFrame := w.nextFrame + 1 }

def claimSurface (w : Wall) : Wall := { w with nextSurface := w.nextSurface + 1 }

section Views

variable (w : Wall) (id j : MonitorId) (f k : FrameId) (m : Monitor) (slot : Frame)
  (change : Monitor → Monitor)

theorem monitor?_putMonitor :
    (w.putMonitor id m).monitor? j = if id = j then some m else w.monitor? j :=
  Table.find?_insert _ _ _ _

theorem monitor?_modifyMonitor :
    (w.modifyMonitor id change).monitor? j =
      (w.monitor? j).map fun m => if j = id then change m else m :=
  Table.find?_modify _ _ _ _

theorem monitor?_dropMonitor :
    (w.dropMonitor id).monitor? j = if id = j then none else w.monitor? j :=
  Table.find?_erase _ _ _

theorem frame?_putFrame :
    (w.putFrame f slot).frame? k = if f = k then some slot else w.frame? k :=
  Table.find?_insert _ _ _ _

theorem frame?_dropFrame : (w.dropFrame f).frame? k = if f = k then none else w.frame? k :=
  Table.find?_erase _ _ _

@[simp] theorem monitor?_putMonitor_self : (w.putMonitor id m).monitor? id = some m := by
  simp [monitor?_putMonitor]

@[simp] theorem frame?_putMonitor : (w.putMonitor id m).frame? k = w.frame? k := rfl
@[simp] theorem frame?_claimFrame : w.claimFrame.frame? k = w.frame? k := rfl

end Views

section Entries

variable {w : Wall} {id j : MonitorId} {m m' : Monitor} {f k : FrameId} {slot slot' : Frame}

theorem monitor?_of_putMonitor (h : (w.putMonitor id m).monitor? j = some m') :
    (id = j ∧ m' = m) ∨ (id ≠ j ∧ w.monitor? j = some m') := by
  rw [monitor?_putMonitor] at h
  split at h
  · cases h
    exact .inl ⟨‹_›, rfl⟩
  · exact .inr ⟨‹_›, h⟩

theorem monitor?_of_dropMonitor (h : (w.dropMonitor id).monitor? j = some m) :
    id ≠ j ∧ w.monitor? j = some m := by
  rw [monitor?_dropMonitor] at h
  split at h
  · cases h
  · exact ⟨‹_›, h⟩

theorem frame?_of_putFrame (h : (w.putFrame f slot).frame? k = some slot') :
    (f = k ∧ slot' = slot) ∨ (f ≠ k ∧ w.frame? k = some slot') := by
  rw [frame?_putFrame] at h
  split at h
  · cases h
    exact .inl ⟨‹_›, rfl⟩
  · exact .inr ⟨‹_›, h⟩

theorem frame?_of_dropFrame (h : (w.dropFrame f).frame? k = some slot) :
    f ≠ k ∧ w.frame? k = some slot := by
  rw [frame?_dropFrame] at h
  split at h
  · cases h
  · exact ⟨‹_›, h⟩

end Entries

/-! ## Moments and moves -/

structure Moment where
  wall : Wall
  /-- A frame that its monitor does not show any more and that is not retired yet. -/
  loose : Option FrameId
  /-- The handle of a monitor that is gone, still to be released. -/
  departing : Option Nat
  /-- Everything is being taken down. -/
  ending : Bool

/-- The moments between two operations. -/
def Moment.still (w : Wall) : Moment := ⟨w, none, none, false⟩

@[simp] theorem Moment.wall_still (w : Wall) : (Moment.still w).wall = w := rfl

/-- What the operations that only tell about a monitor change. -/
def Operation.adjustment? : Operation → Option (MonitorId × (Monitor → Monitor))
  | .setMode id mode => some (id, fun m => { m with mode := mode })
  | .setScale id scale => some (id, fun m => { m with scale := max scale 1 })
  | .setLabel id label => some (id, fun m => { m with label := some label })
  | _ => none

def destruction : Option SurfaceId → List Event
  | none => []
  | some surface => [.call (.destroySurface surface)]

inductive Move : Moment → List Event → Moment → Prop where
  | heard (w : Wall) (op : Operation) : Move (.still w) [.operation op] (.still w)
  | reserve (w : Wall) : Move (.still w) [.operation .reserve] (.still w.claimMonitor)
  | announce {w : Wall} {id : MonitorId} (globalName : UInt32) (handle : Nat)
      (fresh : w.monitor? id = none) (given : id < w.nextMonitor) :
      Move (.still w) [.operation (.insert id globalName handle)]
        (.still (w.putMonitor id (.announced globalName handle)))
  | adjust {w : Wall} {op : Operation} {id : MonitorId} {change : Monitor → Monitor}
      (what : op.adjustment? = some (id, change)) :
      Move (.still w) [.operation op] (.still (w.modifyMonitor id change))
  | create {w : Wall} {id : MonitorId} {m : Monitor} (found : w.monitor? id = some m)
      (bare : m.phase = .uncreated) :
      Move (.still w) [.call (.createSurface id m.handle w.nextSurface)]
        (.still (w.claimSurface.putMonitor id
          { m with surface := some w.nextSurface, phase := .pendingConfigure }))
  | refuse {w : Wall} {id : MonitorId} {m : Monitor} (found : w.monitor? id = some m) :
      Move (.still w) [.call (.createSurfaceFailed id m.handle)] (.still w)
  | ignore {w : Wall} {id : MonitorId} {m : Monitor} {surface : SurfaceId} {size : Extent}
      (serial : UInt32) (found : w.monitor? id = some m) (held : m.surface = some surface)
      (empty : size.isEmpty = true) :
      Move (.still w)
        [.operation (.configure id serial size), .call (.acknowledge surface serial)] (.still w)
  | recommit {w : Wall} {id : MonitorId} {m : Monitor} {surface : SurfaceId} {size : Extent}
      (serial : UInt32) (found : w.monitor? id = some m) (held : m.surface = some surface)
      (full : size.isEmpty = false) (ready : m.phase = .drawable) :
      Move (.still w)
        [.operation (.configure id serial size), .call (.acknowledge surface serial),
          .call (.commit surface)] (.still w)
  | resize {w : Wall} {id : MonitorId} {m : Monitor} {surface : SurfaceId} {size : Extent}
      (serial : UInt32) (found : w.monitor? id = some m) (held : m.surface = some surface)
      (full : size.isEmpty = false) :
      Move (.still w)
        [.operation (.configure id serial size), .call (.acknowledge surface serial)]
        (.still (w.putMonitor id { m with size := size, phase := .drawable }))
  | close {w : Wall} {id : MonitorId} {m : Monitor} (found : w.monitor? id = some m) :
      Move (.still w) (destruction m.surface)
        ⟨w.putMonitor id { m with surface := none, phase := .uncreated, frame := none },
          m.frame, none, false⟩
  | depart {w : Wall} {id : MonitorId} {m : Monitor} (found : w.monitor? id = some m) :
      Move (.still w) (destruction m.surface) ⟨w.dropMonitor id, m.frame, some m.handle, false⟩
  | releaseOutput (w : Wall) (handle : Nat) (ending : Bool) :
      Move ⟨w, none, some handle, ending⟩ [.call (.releaseOutput handle)] ⟨w, none, none, ending⟩
  | clear {w : Wall} {id : MonitorId} {m : Monitor} {surface : SurfaceId} {f : FrameId}
      (found : w.monitor? id = some m) (held : m.surface = some surface)
      (shown : m.frame = some f) (ready : m.phase = .drawable) :
      Move (.still w) [.call (.detach surface m.scale), .call (.commit surface)]
        ⟨w.putMonitor id { m with frame := none, phase := .pendingConfigure }, some f, none, false⟩
  | uncover {w : Wall} {id : MonitorId} {m : Monitor} {f : FrameId}
      (found : w.monitor? id = some m) (shown : m.frame = some f) (unready : m.phase ≠ .drawable) :
      Move (.still w) [] ⟨w.putMonitor id { m with frame := none }, some f, none, false⟩
  | allocateFailed {w : Wall} {id : MonitorId} {m : Monitor} (found : w.monitor? id = some m)
      (ready : m.phase = .drawable) :
      Move (.still w) [.call (.allocateFailed w.nextFrame m.frameSize)] (.still w.claimFrame)
  | spoil {w : Wall} {id : MonitorId} {m : Monitor} (found : w.monitor? id = some m)
      (ready : m.phase = .drawable) :
      Move (.still w) [.call (.allocate w.nextFrame m.frameSize), .call (.free w.nextFrame)]
        (.still w.claimFrame)
  | draw {w : Wall} {id : MonitorId} {m : Monitor} {surface : SurfaceId} (pixels : Array UInt8)
      (found : w.monitor? id = some m) (held : m.surface = some surface)
      (ready : m.phase = .drawable) :
      Move (.still w)
        [.call (.allocate w.nextFrame m.frameSize),
          .call (.attach surface w.nextFrame m.scale m.frameSize pixels)]
        ⟨(w.claimFrame.putMonitor id { m with frame := some w.nextFrame }).putFrame w.nextFrame
          ⟨id, m.frameSize, pixels, true, false⟩, m.frame, none, false⟩
  | retireBusy {w : Wall} {f : FrameId} {slot : Frame} (departing : Option Nat)
      (found : w.frame? f = some slot) (busy : slot.busy = true) :
      Move ⟨w, some f, departing, false⟩ []
        ⟨w.putFrame f { slot with retired := true }, none, departing, false⟩
  | retireIdle {w : Wall} {f : FrameId} {slot : Frame} (departing : Option Nat)
      (found : w.frame? f = some slot) (idle : slot.busy = false) :
      Move ⟨w, some f, departing, false⟩ [.call (.free f)] ⟨w.dropFrame f, none, departing, false⟩
  | retireGone {w : Wall} {f : FrameId} (departing : Option Nat) (gone : w.frame? f = none) :
      Move ⟨w, some f, departing, false⟩ [] ⟨w, none, departing, false⟩
  | rest {w : Wall} {f : FrameId} {slot : Frame} (found : w.frame? f = some slot)
      (kept : slot.retired = false) :
      Move (.still w) [.operation (.released f)] (.still (w.putFrame f { slot with busy := false }))
  | collect {w : Wall} {f : FrameId} {slot : Frame} (found : w.frame? f = some slot)
      (retired : slot.retired = true) :
      Move (.still w) [.operation (.released f), .call (.free f)] (.still (w.dropFrame f))
  | strike (w : Wall) : Move (.still w) [.operation .shutdown] ⟨w, none, none, true⟩
  | leave {w : Wall} {id : MonitorId} {m : Monitor} (found : w.monitor? id = some m) :
      Move ⟨w, none, none, true⟩ (destruction m.surface)
        ⟨w.dropMonitor id, none, some m.handle, true⟩
  | discard {w : Wall} {f : FrameId} {slot : Frame} (bare : ∀ id, w.monitor? id = none)
      (found : w.frame? f = some slot) :
      Move ⟨w, none, none, true⟩ [.call (.free f)] ⟨w.dropFrame f, none, none, true⟩
  | finish {w : Wall} (bare : ∀ id, w.monitor? id = none) (empty : ∀ f, w.frame? f = none) :
      Move ⟨w, none, none, true⟩ [] (.still w)

inductive Moves : Moment → List Event → Moment → Prop where
  | refl (M : Moment) : Moves M [] M
  | cons {M M' M'' : Moment} {es es' : List Event} :
      Move M es M' → Moves M' es' M'' → Moves M (es ++ es') M''

namespace Moves

theorem single {M M' : Moment} {es : List Event} (h : Move M es M') : Moves M es M' := by
  have := Moves.cons h (.refl M')
  rwa [List.append_nil] at this

theorem trans {M M' M'' : Moment} {es es' : List Event} (h : Moves M es M')
    (h' : Moves M' es' M'') : Moves M (es ++ es') M'' := by
  induction h with
  | refl => exact h'
  | cons step _ ih =>
    rw [List.append_assoc]
    exact .cons step (ih h')

/-- What holds of the past and the present and is kept by each move is kept by all of them. -/
theorem preserve {P : List Event → Moment → Prop}
    (step : ∀ {h : List Event} {M M' : Moment} {es : List Event},
      P h M → Move M es M' → P (h ++ es) M')
    {M M' : Moment} {es : List Event} (moves : Moves M es M') :
    ∀ {h : List Event}, P h M → P (h ++ es) M' := by
  induction moves with
  | refl => intro h hp; rwa [List.append_nil]
  | cons first _ ih =>
    intro h hp
    rw [← List.append_assoc]
    exact ih (step hp first)

end Moves
end Wall
end Backdrop
