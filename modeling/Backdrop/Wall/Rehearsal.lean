import Backdrop.Wall.Basic

/-!
# Backdrop.Wall.Rehearsal

A display with switches, for walking a wall through good and bad days without a display server.
-/

namespace Backdrop
namespace Wall

structure Rehearsal where
  ready : Bool
  refuseSurfaces : Bool
  /-- Memory lacks its last byte. -/
  shortMemory : Bool
  /-- Sizes for which no memory is given. -/
  refusedSizes : List Extent
  deriving Repr, DecidableEq, Inhabited

namespace Rehearsal

/-- The most memory that a frame gets. -/
def memoryLimit : Nat := 4194304

/-- The length of the memory for a frame. -/
def memoryLength (r : Rehearsal) (size : Extent) : Except MemoryError Nat :=
  match size.length with
  | .error e => .error e
  | .ok n =>
    if r.refusedSizes.contains size then .error .zeroSize
    else if memoryLimit < n then .error (.poolTooLarge n)
    else .ok (if r.shortMemory then max (n - 1) 1 else n)

def display (r : Rehearsal) : Display where
  ready := fun _ => r.ready
  surfaceRefusal := fun _ => if r.refuseSurfaces then some .surfaceNotReady else none
  allocate := fun _ size =>
    match r.memoryLength size with
    | .error e => .error (.memory e)
    | .ok n => .ok (Array.replicate n 0)

/-- Sets whether a size is refused. -/
def refuse (r : Rehearsal) (size : Extent) (value : Bool) : Rehearsal :=
  let others := r.refusedSizes.filter (· != size)
  { r with refusedSizes := if value then size :: others else others }

end Rehearsal
end Wall
end Backdrop
