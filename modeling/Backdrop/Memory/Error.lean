import Backdrop.Host.Errno
import Backdrop.Pixel.Extent

/-!
# Backdrop.Memory.Error

What can go wrong with shared memory, and how it is worded.
-/

namespace Backdrop

inductive MemoryError where
  | zeroSize
  | sizeOverflow (extent : Extent)
  | create (cause : Errno)
  | resize (length : Nat) (cause : Errno)
  | map (cause : IoError)
  | sealing (cause : Errno)
  | tooSmall (expected actual : Nat)
  | stat (cause : IoError)
  | poolTooLarge (length : Nat)
  deriving Repr, DecidableEq, Inhabited

def MemoryError.message : MemoryError → String
  | .zeroSize => "refusing to create a zero-sized region"
  | .sizeOverflow e => s!"region size for {e.text} overflows"
  | .create c => "memfd_create failed: " ++ c.message
  | .resize n c => s!"failed to size region to {n} bytes: " ++ c.message
  | .map c => "failed to map region: " ++ c.message
  | .sealing c => "failed to seal region: " ++ c.message
  | .tooSmall expected actual => s!"region holds {actual} bytes but {expected} are required"
  | .stat c => "failed to inspect region: " ++ c.message
  | .poolTooLarge n => s!"region of {n} bytes exceeds the wl_shm pool limit"

/-- The length of a picture that can be addressed. -/
def Extent.length (e : Extent) : Except MemoryError Nat :=
  match e.byteLength? with
  | some n => .ok n
  | none => .error (.sizeOverflow e)

theorem Extent.length_eq_ok_iff {e : Extent} {n : Nat} :
    e.length = .ok n ↔ e.byteCount = n ∧ n < UInt64.size := by
  unfold Extent.length
  rw [← Extent.byteLength?_eq_some_iff]
  split <;> simp_all

end Backdrop
