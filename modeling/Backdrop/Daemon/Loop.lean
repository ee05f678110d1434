import Backdrop.Daemon.Basic

/-!
# Backdrop.Daemon.Loop

The daemon's loop. Before each wait it settles: it dispatches the events that were read, stops if
one of them was fatal, and sends what is queued. After each wait it does the one thing that the
readiness calls for.
-/

namespace Backdrop
namespace Daemon

/-- What one wait brings, and what the sources then have to give. -/
structure Poll where
  readiness : Readiness
  /-- The name of the signal that is pending. -/
  signal : String
  /-- What has arrived from the display server. -/
  inbound : List Session.Message
  deriving Repr, DecidableEq, Inhabited

/-- Makes the daemon ready to wait, or says why it has to stop. -/
def settle (d : Daemon) : Option StopReason × Daemon :=
  let d := d.changeSession Session.dispatchPending
  match d.session.fatal with
  | some e => (some (.displayError e.message), d)
  | none =>
    match d.session.flush with
    | .ok s => (none, { d with session := s })
    | .error t =>
      (some (.displayError s!"wayland protocol error: {t}"),
        d.note (Log.error s!"Wayland flush failed: wayland protocol error: {t}"))

/-- Reads what the display server has sent. -/
def read (inbound : List Session.Message) (d : Daemon) : Option StopReason × Daemon :=
  match Session.readAll (inbound.filter d.session.hears) with
  | .ok es => (none, { d with session := { d.session with pending := d.session.pending ++ es } })
  | .error t =>
    (some (.displayError t),
      ({ d with session := { d.session with link := .failed t } } : Daemon).note
        (Log.error s!"Failed to read Wayland events: {t}"))

def act (p : Poll) (d : Daemon) : Option StopReason × Daemon :=
  match p.readiness.wake with
  | .signal => (some (.signal p.signal), d)
  | .displayHangup =>
    (some .displayHangup, { d with session := { d.session with link := .hungUp } })
  | .displayError => (some (.displayError "error condition on the display connection"), d)
  | .display => d.read p.inbound
  | .transfer => (none, d.serve)
  | .spurious => (none, d.note (Log.debug "Spurious wake"))

/-- What follows one wait, up to the next. -/
def turn (p : Poll) (d : Daemon) : Option StopReason × Daemon :=
  match d.act p with
  | (some r, d) => (some r, d)
  | (none, d) => d.settle

/-- One wait after another, until the daemon has to stop. -/
def turns : List Poll → Daemon → Option StopReason × Daemon
  | [], d => (none, d)
  | p :: ps, d =>
    match d.turn p with
    | (some r, d) => (some r, d)
    | (none, d) => turns ps d

end Daemon
end Backdrop
