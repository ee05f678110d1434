import Backdrop.Host.Path
import Backdrop.Memory.Error

/-!
# Backdrop.Wire.Error

What can go wrong when a request is handed over, and how it is worded.
-/

namespace Backdrop

/-- The longest name of a monitor, in bytes. -/
def Wire.maxNameLength : Nat := 4096

inductive TransferError where
  | truncated (expected received : Nat)
  | badDimensions (extent : Extent)
  | nameTooLong (length : Nat)
  | invalidName (fault : Utf8.Fault)
  | missingDescriptor (extent : Extent)
  | region (cause : MemoryError)
  | daemonNotRunning (path : Path)
  | timedOut
  | message (cause : Errno)
  | io (cause : IoError)
  deriving Repr, DecidableEq, Inhabited

/-- The wording of an error. -/
def TransferError.text : TransferError → String
  | .truncated expected received => s!"connection closed after {received} of {expected} bytes"
  | .badDimensions e => "malformed dimensions " ++ e.text
  | .nameTooLong n =>
    s!"monitor name of {n} bytes exceeds the {Wire.maxNameLength} byte limit"
  | .invalidName _ => "monitor name is not valid UTF-8"
  | .missingDescriptor e => s!"draw request for {e.text} carried no descriptor"
  | .region c => "client region unusable: " ++ c.message
  | .daemonNotRunning p => s!"daemon is not running (no socket at {p.display})"
  | .timedOut => "client timed out"
  | .message c => "socket message failed: " ++ c.message
  | .io c => "socket I/O failed: " ++ c.message

end Backdrop
