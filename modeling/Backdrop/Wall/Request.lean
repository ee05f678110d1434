import Backdrop.Memory.Source
import Backdrop.Wall.Draw
import Backdrop.Wire.Request

/-!
# Backdrop.Wall.Request

Requests from clients, applied to the wall. The picture behind the descriptor is mapped first; if
that fails the wall is not touched.
-/

namespace Backdrop
namespace Wall

/-- What a request puts on monitors. -/
def Content.ofAction : Wire.Action → Except TransferError Content
  | .clear => .ok .clear
  | .draw extent region =>
    match Source.map region.content extent with
    | .error e => .error (.region e)
    | .ok source => .ok (.image source.pixels source.extent)

def Stage.handle (d : Display) (request : Wire.Request) (filter : Filter) (s : Stage) :
    Except TransferError Report × Stage :=
  match Content.ofAction request.action with
  | .error e => (.error e, s)
  | .ok content =>
    let (r, s) := s.apply d request.target content filter
    (.ok r, s)

end Wall
end Backdrop
