import Backdrop.Daemon.Loop

/-!
# Backdrop.Daemon.Round

The daemon's loop, round by round, with all that a round can run into.

A round dispatches the events that are queued, stops if one of them was fatal, sends what is queued
for the display server, arms a read, waits, and then does the one thing that the readiness calls
for. If there are events again by the time the read is armed, it does not wait.

* `Wait` is a wait with its attempts: one that was interrupted is made again.
* `Round` is what a round meets.
* `Daemon.pass` is one round, and `Pass` what it came to.
* `Daemon.course` is one round after another, until the daemon has to stop.
-/

namespace Backdrop

namespace Session

/-- Dispatches the first events. The next one makes no sense and is lost; the others stay. -/
def dispatchFirst (n : Nat) (s : Session) : Session :=
  ({ s with pending := s.pending.drop (n + 1) } : Session).dispatchAll (s.pending.take n)

/-- Sends the first requests that are queued. -/
def sendFirst (n : Nat) (s : Session) : Session :=
  { s with sent := s.sent ++ s.queued.take n, queued := s.queued.drop n }

end Session

/-- What a wait finds, and what the sources then have to give. -/
structure Arrival where
  display : Option PollFlags
  signals : Option PollFlags
  transfer : Option PollFlags
  /-- The name of the signal that is pending. -/
  signal : String
  /-- What a read of the connection finds, or why it fails. -/
  inbound : Except String (List Session.Message)

namespace Arrival

def readiness (a : Arrival) : Readiness := .ofFlags a.display a.signals a.transfer

/-- The events that are read. -/
def events (a : Arrival) (s : Session) : List Session.Event :=
  if a.readiness.wake = .display then
    match a.inbound with
    | .ok ms => ((Session.readAll (ms.filter s.hears)).toOption).getD []
    | .error _ => []
  else []

end Arrival

inductive Wait where
  | ready (a : Arrival)
  /-- The attempt failed; `again` is what comes of another one, if one is made. -/
  | failed (cause : Errno) (again : Wait)

/-- Only after an interruption is there another attempt. -/
def Wait.outcome : Wait → Except Errno Arrival
  | .ready a => .ok a
  | .failed cause again => if cause = .interrupted then again.outcome else .error cause

/-- What one round meets. -/
structure Round where
  /-- What others have made of the host. -/
  others : Host → Host
  /-- What has become of the connection, if there is news of it. -/
  link : Option Session.Link
  /-- Which of the queued events makes no sense, and how that is worded. -/
  garbled : Option (Nat × String)
  /-- How many requests the connection has room for, if not for all. -/
  room : Option Nat
  /-- The events that are queued before the read is armed. -/
  late : List Session.Event
  wait : Wait
  /-- For which frames there is no memory. -/
  scarcity : Session.Scarcity

namespace Round

/-- A round in which nothing happens but the wait. -/
def calm (a : Arrival) : Round := ⟨id, none, none, none, [], .ready a, Session.plenty⟩

/-- The queued event that makes no sense, if it is one of those that are there. -/
def fault? (r : Round) (pending : List Session.Event) : Option (Nat × String) :=
  r.garbled.filter fun g => g.1 < pending.length

/-- The events that are dispatched. -/
def batch (r : Round) (pending : List Session.Event) : List Session.Event :=
  match r.fault? pending with
  | some (n, _) => pending.take n
  | none => pending

/-- How much is sent, if not all. -/
def room? (r : Round) (s : Session) : Option Nat :=
  r.room.filter fun n => s.link = .up && n < s.queued.length

end Round

namespace Daemon

/-- A connection that was served. -/
structure Service where
  /-- The daemon as it accepted the connection. -/
  daemon : Daemon
  scarcity : Session.Scarcity
  request : Except DaemonError Wire.Request
  answer : Except DaemonError Wall.Report

/-- What comes of serving, if anybody waits. -/
def service? (scarcity : Session.Scarcity) (d : Daemon) : Option Service :=
  match d.server.serveOne { d.host with log := [] }, (d.attendIn scarcity).1 with
  | some (request, _), some answer => some ⟨d, scarcity, request, answer⟩
  | _, _ => none

/-- What a round came to. -/
structure Pass where
  dispatched : List Session.Event
  /-- The events that were queued for the next round. -/
  received : List Session.Event
  served : Option Service
  stop : Option StopReason
  daemon : Daemon

def enter (r : Round) (d : Daemon) : Daemon :=
  { d with
    host := r.others d.host
    session := { d.session with link := r.link.getD d.session.link } }

def dispatchQueue (r : Round) (d : Daemon) : Option StopReason × Daemon :=
  match r.fault? d.session.pending with
  | some (n, t) =>
    (some (.displayError s!"wayland protocol error: {t}"),
      (d.changeSession (Session.dispatchFirst n)).note
        (Log.error s!"Wayland dispatch failed: wayland protocol error: {t}"))
  | none => (none, d.changeSession Session.dispatchPending)

def sendQueue (r : Round) (d : Daemon) : Option StopReason × Daemon :=
  match r.room? d.session with
  | some n =>
    (none, ({ d with session := d.session.sendFirst n } : Daemon).note
      (Log.warn "Wayland socket full, deferring flush"))
  | none =>
    match d.session.flush with
    | .ok s => (none, { d with session := s })
    | .error t =>
      (some (.displayError s!"wayland protocol error: {t}"),
        d.note (Log.error s!"Wayland flush failed: wayland protocol error: {t}"))

/-- Dispatches and sends what is queued, or says why the daemon has to stop. -/
def prepare (r : Round) (d : Daemon) : Option StopReason × Daemon :=
  match d.dispatchQueue r with
  | (some reason, d) => (some reason, d)
  | (none, d) =>
    match d.session.fatal with
    | some e => (some (.displayError e.message), d)
    | none => d.sendQueue r

def queue (es : List Session.Event) (d : Daemon) : Daemon :=
  { d with session := { d.session with pending := d.session.pending ++ es } }

/-- Does what the readiness calls for. -/
def react (scarcity : Session.Scarcity) (a : Arrival) (d : Daemon) : Option StopReason × Daemon :=
  if a.readiness.wake = .transfer then (none, (d.attendIn scarcity).2)
  else
    match a.inbound with
    | .ok ms => d.act ⟨a.readiness, a.signal, ms⟩
    | .error t =>
      if a.readiness.wake = .display then
        (some (.displayError t),
          ({ d with session := { d.session with link := .failed t } } : Daemon).note
            (Log.error s!"Failed to read Wayland events: {t}"))
      else d.act ⟨a.readiness, a.signal, []⟩

/-- Waits and reacts, after these events were dispatched. -/
def await (r : Round) (dispatched : List Session.Event) (d : Daemon) : Pass :=
  match r.wait.outcome with
  | .error e =>
    ⟨dispatched, [], none, some (.displayError s!"poll failed: {e.message}"),
      d.note (Log.error s!"poll failed: {e.message}")⟩
  | .ok a =>
    ⟨dispatched, a.events d.session,
      if a.readiness.wake = .transfer then d.service? r.scarcity else none,
      (d.react r.scarcity a).1, (d.react r.scarcity a).2⟩

def pass (r : Round) (d : Daemon) : Pass :=
  let dispatched := r.batch d.session.pending
  match (d.enter r).prepare r with
  | (some reason, d) => ⟨dispatched, [], none, some reason, d⟩
  | (none, d) =>
    let d := d.queue r.late
    if d.session.pending.isEmpty then d.await r dispatched
    else ⟨dispatched, r.late, none, none, d⟩

/-- What many rounds came to. -/
structure Course where
  passes : List Pass
  stop : Option StopReason
  daemon : Daemon

def course : List Round → Daemon → Course
  | [], d => ⟨[], none, d⟩
  | r :: rs, d =>
    let p := d.pass r
    match p.stop with
    | some reason => ⟨[p], some reason, p.daemon⟩
    | none =>
      let c := course rs p.daemon
      { c with passes := p :: c.passes }

end Daemon
end Backdrop
