import Backdrop.Daemon.Loop

/-!
# Backdrop.Daemon.Occasion

What can happen to a daemon from outside, one thing at a time, each seen by one wait.
-/

namespace Backdrop
namespace Daemon

inductive Occasion where
  | events (messages : List Session.Message)
  /-- A client connects and writes; unless it holds on, it then closes its side. -/
  | visit (message : Wire.Message) (holds : Bool)
  | signal (name : String)
  | hangup
  deriving Repr, Inhabited

/-- A client comes to the daemon's socket. -/
def visited (m : Wire.Message) (holds : Bool) (d : Daemon) : Daemon :=
  (d.onHost fun h =>
    match Wire.Client.connect d.server.path h with
    | .error _ => ((), h)
    | .ok (c, h) =>
      let h := (Wire.Client.write c m h).2
      ((), if holds then h else Wire.Client.close c h)).2

/-- What a wait then finds. -/
def Occasion.poll : Occasion → Poll
  | .events messages => ⟨{ Readiness.none with displayIn := true }, "", messages⟩
  | .visit _ _ => ⟨{ Readiness.none with transfer := true }, "", []⟩
  | .signal name => ⟨{ Readiness.none with signal := true }, name, []⟩
  | .hangup => ⟨{ Readiness.none with displayIn := true, displayHup := true }, "", []⟩

/-- What the daemon does about it. -/
def meet (o : Occasion) (d : Daemon) : Option StopReason × Daemon :=
  match o with
  | .visit m holds => (d.visited m holds).turn o.poll
  | _ => d.turn o.poll

/-- How a daemon ends: what happened last, why it stops, and what it is then. -/
structure End where
  occasion : Occasion
  reason : StopReason
  daemon : Daemon
  deriving Inhabited

/-- What the daemon is after each occasion that it survives, and its end, if it comes to one. -/
def through (d : Daemon) : List Occasion → List Daemon × Option End
  | [] => ([], none)
  | o :: rest =>
    match d.meet o with
    | (some r, d) => ([], some ⟨o, r, d⟩)
    | (none, d) =>
      let (after, e) := d.through rest
      (d :: after, e)

end Daemon
end Backdrop
