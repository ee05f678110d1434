import Backdrop.Pixel.Extent

/-!
# Backdrop.Wall.Phase

Where a monitor's surface is in its life, and what the size that the display server asks for means
there.

A surface is created, waits for its first size, and may then show pictures. Taking its picture away
puts it back to waiting; closing it puts it back to the start.
-/

namespace Backdrop
namespace Wall

inductive Phase where
  | uncreated
  | pendingConfigure
  | drawable
  deriving Repr, DecidableEq, Inhabited

inductive ConfigureAction where
  /-- Nothing changes; what is attached is committed again. -/
  | recommit
  | resize (size : Extent)
  /-- There is no such size. -/
  | ignore
  deriving Repr, DecidableEq, Inhabited

namespace Phase

def name : Phase → String
  | .uncreated => "Uncreated"
  | .pendingConfigure => "PendingConfigure"
  | .drawable => "Drawable"

/-- What to do about the size `asked`, when the surface has the size `current`. -/
def onConfigure (p : Phase) (current asked : Extent) : ConfigureAction :=
  if asked.isEmpty then .ignore
  else if p = .drawable ∧ current = asked then .recommit
  else .resize asked

def isDrawable (p : Phase) : Bool := p == .drawable

end Phase
end Wall
end Backdrop
