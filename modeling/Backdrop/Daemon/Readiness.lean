/-!
# Backdrop.Daemon.Readiness

What the daemon waits for, and what it does first. One wait looks at three sources: the connection to
the display server, the termination signals and the transfer socket. Exactly one action follows:
stopping comes before display events, and those before a transfer.
-/

namespace Backdrop

structure Readiness where
  displayIn : Bool
  displayHup : Bool
  displayErr : Bool
  signal : Bool
  transfer : Bool
  deriving Repr, DecidableEq, Inhabited

/-- What is done after one wait. -/
inductive Wake where
  | signal | displayHangup | displayError | display | transfer | spurious
  deriving Repr, DecidableEq, Inhabited

def Wake.name : Wake → String
  | .signal => "Signal"
  | .displayHangup => "DisplayHangup"
  | .displayError => "DisplayError"
  | .display => "Display"
  | .transfer => "Transfer"
  | .spurious => "Spurious"

/-- The flags of one source after a wait, none if it was not looked at. -/
abbrev PollFlags := Int16

namespace PollFlags

def readable : PollFlags := 1
def error : PollFlags := 8
def hangup : PollFlags := 16
def invalid : PollFlags := 32

/-- One of the wanted flags is set. -/
def meets (flags wanted : PollFlags) : Bool := flags &&& wanted != 0

end PollFlags

namespace Readiness

def none : Readiness := ⟨false, false, false, false, false⟩

/-- A source that hung up can be read, too. -/
def isReadable (flags : Option PollFlags) : Bool :=
  flags.any fun f => f.meets (PollFlags.readable ||| PollFlags.hangup)

def ofFlags (display signal transfer : Option PollFlags) : Readiness :=
  let d := display.getD 0
  ⟨d.meets PollFlags.readable, d.meets PollFlags.hangup,
    d.meets (PollFlags.error ||| PollFlags.invalid), isReadable signal, isReadable transfer⟩

def wake (r : Readiness) : Wake :=
  if r.signal then .signal
  else if r.displayHup then .displayHangup
  else if r.displayErr then .displayError
  else if r.displayIn then .display
  else if r.transfer then .transfer
  else .spurious

end Readiness
end Backdrop
