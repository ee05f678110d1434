import Backdrop.Wall.Draw

/-!
# Backdrop.Wall.Operation

Everything that can happen to a wall, as data. `Stage.perform` does one operation; `Stage.run` does
one after another, each under the answers that the display server gives at that time.
-/

namespace Backdrop
namespace Wall

inductive Operation where
  | reserve
  | insert (id : MonitorId) (globalName : UInt32) (handle : Nat)
  | createMissing
  | setMode (id : MonitorId) (mode : Mode)
  | setScale (id : MonitorId) (scale : Int)
  | setLabel (id : MonitorId) (label : String)
  | done (id : MonitorId)
  | configure (id : MonitorId) (serial : UInt32) (size : Extent)
  | closed (id : MonitorId)
  | released (frame : FrameId)
  | removeGlobal (globalName : UInt32)
  | apply (target : Option String) (content : Content) (filter : Filter)
  | shutdown
  deriving Repr, DecidableEq, Inhabited

/-- What an operation answers. -/
inductive Outcome where
  | nothing
  | reserved (id : MonitorId)
  | configured (action : Option ConfigureAction)
  | removed (found : Bool)
  | applied (report : Report)
  deriving Repr, DecidableEq, Inhabited

namespace Stage

def reserve (s : Stage) : MonitorId × Stage :=
  let (id, w) := s.wall.reserve
  (id, { s with wall := w })

def perform (d : Display) : Operation → Stage → Outcome × Stage
  | .reserve, s => let (id, s) := s.reserve; (.reserved id, s)
  | .insert id globalName handle, s => (.nothing, s.insert d id globalName handle)
  | .createMissing, s => (.nothing, s.createMissing d)
  | .setMode id mode, s => (.nothing, s.setMode id mode)
  | .setScale id scale, s => (.nothing, s.setScale id scale)
  | .setLabel id label, s => (.nothing, s.setLabel id label)
  | .done id, s => (.nothing, s.done d id)
  | .configure id serial size, s =>
    let (action, s) := s.configure id serial size
    (.configured action, s)
  | .closed id, s => (.nothing, s.closed id)
  | .released frame, s => (.nothing, s.released frame)
  | .removeGlobal globalName, s =>
    let (found, s) := s.removeGlobal globalName
    (.removed found, s)
  | .apply target content filter, s =>
    let (r, s) := s.apply d target content filter
    (.applied r, s)
  | .shutdown, s => (.nothing, s.shutdown)

def run (s : Stage) (ops : List (Display × Operation)) : Stage :=
  ops.foldl (fun s p => (s.perform p.1 p.2).2) s

end Stage
end Wall
end Backdrop
