import Backdrop.Log
import Backdrop.Wall.Basic

/-!
# Backdrop.Daemon.Status

What the daemon counts, and how it tells.
-/

namespace Backdrop

structure Status where
  requests : Nat
  rejected : Nat
  framesDrawn : Nat
  clears : Nat
  monitorFailures : Nat
  deriving Repr, DecidableEq, Inhabited

namespace Status

def empty : Status := ⟨0, 0, 0, 0, 0⟩

/-- Counts what came of one request. -/
def record (s : Status) (r : Wall.Report) : Status :=
  { s with
    framesDrawn := s.framesDrawn + r.drawn
    clears := s.clears + r.cleared
    monitorFailures := s.monitorFailures + r.failed }

/-- At least two digits. -/
def twoDigits (n : Nat) : String := if n < 10 then s!"0{n}" else s!"{n}"

/-- Hours, minutes and seconds. -/
def uptimeText (seconds : Nat) : String :=
  s!"{twoDigits (seconds / 3600)}:{twoDigits (seconds % 3600 / 60)}:{twoDigits (seconds % 60)}"

def lines (s : Status) (uptime : Nat) : List Log.Line :=
  [Log.info "=== Daemon Status ===",
    Log.info s!"  Uptime: {uptimeText uptime}",
    Log.info s!"  Requests: {s.requests} ({s.rejected} rejected)",
    Log.info s!"  Frames drawn: {s.framesDrawn}",
    Log.info s!"  Clears: {s.clears}",
    Log.info s!"  Monitor failures: {s.monitorFailures}"]

end Status
end Backdrop
