import Backdrop.Session.Protocol

/-!
# Backdrop.Session.Buffer

Memory for frames, and the requests that make it known to the display server: a pool for one sealed
region, one buffer that covers the pool, and the pool's end. Numbers are narrowed to 32 bits with a
sign on their way out; `Buffer.region` lets only those through that this does not change.
-/

namespace Backdrop
namespace Session
namespace Buffer

/-- The longest pool. -/
def maxPool : Nat := 0x7FFFFFFF

/-- The lowest 32 bits, with a sign. -/
def narrow (n : Nat) : Int := (Int32.ofNat n).toInt

/-- The region behind a frame. -/
def region (size : Extent) : Except Wall.DisplayError Sealed :=
  match Sealed.forImage size with
  | .error e => .error (.memory e)
  | .ok r =>
    if maxPool < r.length then .error (.memory (.poolTooLarge r.length)) else .ok r

/-- The number of the pixel format whose fourth byte is unused. -/
def format : Nat := 1

/-- The requests that make a region the buffer `number`. -/
def requests (shm number : Nat) (size : Extent) (r : Sealed) : List Request :=
  [.createPool shm number r.file.length r.file.seals (narrow r.length),
    .createBuffer number number 0 (narrow size.width.toNat) (narrow size.height.toNat)
      (narrow (size.width.toNat * 4)) format,
    .destroyPool number]

end Buffer
end Session
end Backdrop
