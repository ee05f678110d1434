import Backdrop.Daemon.Round
import Backdrop.Proofs.Daemon.Turn
import Backdrop.Proofs.Host.Sockets
import Backdrop.Proofs.Session.Opening

/-!
# Backdrop.Proofs.Daemon.Course

In which order the daemon does things, round after round.

* `Clear r d a`: up to the wait all went well, and the wait found nothing but a client. Only then a
  connection is accepted, and it is the one that has waited longest.
* `Pass.Orderly` says what holds of one round, `Daemon.Orderly` what holds of a course of rounds:
  when the daemon stops, and that nothing comes after that.
* `course_calm`: without faults and surprises, the rounds are the turns of the loop that runs.
-/

namespace Backdrop

namespace Session

/-! ## Announcements that are too old -/

/-- What is wrong with an event, if it must end the process. -/
def Event.fault? : Event → Option DaemonError
  | .global number interface version => Announcement.fault? ⟨number, interface, version⟩
  | _ => none

theorem Event.fault?_of_old {name : UInt32} {interface : String} {version : UInt32} {i : Interface}
    (what : Interface.ofName? interface = some i) (old : version < i.required) :
    Event.fault? (.global name interface version) =
      some (.unsupportedVersion i.name i.required version) := by
  simp [fault?, Announcement.fault?, what, old]

theorem fatal_dispatch (e : Event) (s : Session) :
    (s.dispatch e).fatal = s.fatal.or e.fault? := by
  have changed : ∀ f : Wall.Stage → Wall.Stage, (s.changeWall f).fatal = s.fatal.or none := by
    intro f
    rw [Option.or_none]
    exact (Steady.changeWall s f).fatal
  cases e with
  | global name interface version => exact fatal_announced ⟨name, interface, version⟩ s
  | mode n flags mode =>
    simp only [dispatch]
    split
    · exact changed _
    · exact (Option.or_none).symm
  | configure | closed =>
    simp only [dispatch, onLayer]
    split
    · exact (Option.or_none).symm
    · exact changed _
  | release n =>
    simp only [dispatch]
    split
    · exact (Option.or_none).symm
    · exact changed _
  | other => exact (Option.or_none).symm
  | globalRemove | scale | name | done => exact changed _

/-- Of all that is wrong, the first counts. -/
theorem fatal_dispatchAll (es : List Event) (s : Session) :
    (s.dispatchAll es).fatal = s.fatal.or (es.findSome? Event.fault?) := by
  induction es generalizing s with
  | nil => exact (Option.or_none).symm
  | cons e es ih =>
    have first := ih (s.dispatch e)
    rw [fatal_dispatch, Option.or_assoc] at first
    rw [List.findSome?_cons]
    refine first.trans (congrArg _ ?_)
    cases e.fault? <;> rfl

end Session

/-! ## What a wait finds -/

namespace Arrival

/-- A client waits, and nothing else happens. -/
structure Inviting (a : Arrival) : Prop where
  signal : Readiness.isReadable a.signals = false
  hangup : (a.display.getD 0).meets PollFlags.hangup = false
  error : (a.display.getD 0).meets (PollFlags.error ||| PollFlags.invalid) = false
  data : (a.display.getD 0).meets PollFlags.readable = false
  client : Readiness.isReadable a.transfer = true

theorem wake_eq_transfer_iff {a : Arrival} : a.readiness.wake = .transfer ↔ a.Inviting := by
  have only : ∀ data hangup error signal client : Bool,
      (⟨data, hangup, error, signal, client⟩ : Readiness).wake = .transfer ↔
        signal = false ∧ hangup = false ∧ error = false ∧ data = false ∧ client = true := by
    decide
  refine (only _ _ _ _ _).trans ⟨?_, ?_⟩
  · rintro ⟨signal, hangup, error, data, client⟩
    exact ⟨signal, hangup, error, data, client⟩
  · rintro ⟨signal, hangup, error, data, client⟩
    exact ⟨signal, hangup, error, data, client⟩

end Arrival

namespace Host

/-- The client that has waited longest is taken, and nobody else is touched. -/
structure Accepts (listener : Nat) (h h' : Host) (c : Nat) (rest : List Nat) : Prop where
  first : h.listeners.find? listener = some (c :: rest)
  tree : h'.tree = h.tree
  left : h'.listeners = h.listeners.insert listener rest
  others : ∀ c', c' ≠ c → h'.connections.find? c' = h.connections.find? c'

end Host

namespace Wire.Server

theorem serveConnection_allBut (c : Nat) (h : Host) : Host.AllBut c h (serveConnection c h).2 := by
  have read := Host.AllBut.onConnection c (.error .timedOut) (readRequest Stream.receive) h
  have closed : ∀ h', Host.AllBut c h h' →
      Host.AllBut c h (h'.modifyConnection c Stream.closeReader) := by
    intro h' but
    have close := Host.AllBut.modifyConnection c Stream.closeReader h'
    exact ⟨but.tree, but.listeners, but.next,
      fun c' other => (close.others c' other).trans (but.others c' other)⟩
  unfold serveConnection
  split <;> rename_i received <;> rw [received] at read
  · exact closed _ read
  · exact closed _ ⟨read.tree, read.listeners, read.next, read.others⟩

theorem serveOne_accepts {s : Server} {h h' : Host} {r : Except DaemonError Request}
    (served : s.serveOne h = some (r, h')) : ∃ c rest, Host.Accepts s.listener h h' c rest := by
  obtain ⟨⟨c, h₁⟩, accepted, same⟩ := Option.map_eq_some_iff.mp served
  simp only at same
  unfold Host.accept at accepted
  split at accepted
  · rename_i rest waiting
    cases accepted
    have read := serveConnection_allBut c { h with listeners := h.listeners.insert s.listener rest }
    rw [same] at read
    exact ⟨c, rest, waiting, read.tree, read.listeners, read.others⟩
  · cases accepted

theorem serveOne_of_waiting {s : Server} {h : Host} {c : Nat} {rest : List Nat}
    (waiting : h.listeners.find? s.listener = some (c :: rest)) :
    ∃ r h', s.serveOne h = some (r, h') := by
  simp only [serveOne, Host.accept, waiting]
  exact ⟨_, _, rfl⟩

end Wire.Server

namespace Daemon

variable {d d' : Daemon} {r : Round} {a : Arrival} {scarcity : Session.Scarcity}

/-! ## What is not about clients -/

/-- From one daemon to the other, no client was served. -/
structure Unserved (d d' : Daemon) : Prop where
  host : d'.host = d.host
  server : d'.server = d.server
  filter : d'.filter = d.filter
  status : d'.status = d.status

namespace Unserved

theorem trans {d'' : Daemon} (first : Unserved d d') (second : Unserved d' d'') :
    Unserved d d'' where
  host := second.host.trans first.host
  server := second.server.trans first.server
  filter := second.filter.trans first.filter
  status := second.status.trans first.status

theorem dispatchQueue (r : Round) (d : Daemon) : Unserved d (d.dispatchQueue r).2 := by
  unfold Daemon.dispatchQueue
  split <;> exact ⟨rfl, rfl, rfl, rfl⟩

theorem sendQueue (r : Round) (d : Daemon) : Unserved d (d.sendQueue r).2 := by
  unfold Daemon.sendQueue
  split
  · exact ⟨rfl, rfl, rfl, rfl⟩
  · split <;> exact ⟨rfl, rfl, rfl, rfl⟩

theorem prepare (r : Round) (d : Daemon) : Unserved d (d.prepare r).2 := by
  have dispatched := dispatchQueue r d
  unfold Daemon.prepare
  split <;> rename_i d₁ went <;> rw [went] at dispatched
  · exact dispatched
  · split
    · exact dispatched
    · exact dispatched.trans (sendQueue r d₁)

theorem act {p : Poll} (other : p.readiness.wake ≠ .transfer) (d : Daemon) :
    Unserved d (d.act p).2 := by
  unfold Daemon.act
  split
  · exact ⟨rfl, rfl, rfl, rfl⟩
  · exact ⟨rfl, rfl, rfl, rfl⟩
  · exact ⟨rfl, rfl, rfl, rfl⟩
  · unfold Daemon.read
    split <;> exact ⟨rfl, rfl, rfl, rfl⟩
  · contradiction
  · exact ⟨rfl, rfl, rfl, rfl⟩

theorem react (other : a.readiness.wake ≠ .transfer) (d : Daemon) :
    Unserved d (d.react scarcity a).2 := by
  unfold Daemon.react
  rw [if_neg other]
  split
  · exact act other d
  · split
    · exact ⟨rfl, rfl, rfl, rfl⟩
    · exact act other d

end Unserved

/-! ## Up to the wait -/

theorem pending_sendQueue (r : Round) (d : Daemon) :
    (d.sendQueue r).2.session.pending = d.session.pending ∧
      (d.sendQueue r).2.session.fatal = d.session.fatal := by
  unfold sendQueue
  split
  · exact ⟨rfl, rfl⟩
  · split
    · rename_i s flushed
      unfold Session.flush at flushed
      split at flushed <;> cases flushed
      exact ⟨rfl, rfl⟩
    · exact ⟨rfl, rfl⟩

/-- What it takes to come to the wait. -/
theorem prepare_eq_none_iff : (d.prepare r).1 = none ↔ r.fault? d.session.pending = none ∧
    (d.dispatchQueue r).2.session.fatal = none ∧ ((d.dispatchQueue r).2.sendQueue r).1 = none := by
  unfold prepare dispatchQueue
  cases r.fault? d.session.pending with
  | some g => simp
  | none =>
    simp only
    cases (d.changeSession Session.dispatchPending).session.fatal with
    | some e => simp
    | none => simp

theorem prepare_of_none (going : (d.prepare r).1 = none) :
    (d.prepare r).2 = ((d.dispatchQueue r).2.sendQueue r).2 := by
  obtain ⟨sound, harmless, _⟩ := prepare_eq_none_iff.mp going
  unfold prepare dispatchQueue at *
  rw [sound] at harmless ⊢
  simp only at harmless ⊢
  rw [harmless]

/-- A daemon that comes to the wait has dispatched everything, and nothing was fatal. -/
theorem prepare_clears (going : (d.prepare r).1 = none) :
    (d.prepare r).2.session.pending = [] ∧ (d.prepare r).2.session.fatal = none ∧
      r.batch d.session.pending = d.session.pending := by
  obtain ⟨sound, harmless, _⟩ := prepare_eq_none_iff.mp going
  have sent := pending_sendQueue r (d.dispatchQueue r).2
  rw [prepare_of_none going, sent.1, sent.2]
  refine ⟨?_, harmless, ?_⟩
  · simp only [dispatchQueue, sound]
    exact Session.pending_dispatchAll _ _
  · simp only [Round.batch, sound]

/-- An event that must end the process ends it, if it is dispatched. -/
theorem prepare_of_fault {e : Session.Event} (there : e ∈ r.batch d.session.pending)
    (fault : e.fault? ≠ none) : ∃ text, (d.prepare r).1 = some (.displayError text) := by
  unfold prepare dispatchQueue
  cases sound : r.fault? d.session.pending with
  | some g => exact ⟨_, rfl⟩
  | none =>
    have all : r.batch d.session.pending = d.session.pending := by simp only [Round.batch, sound]
    rw [all] at there
    have latched : (d.changeSession Session.dispatchPending).session.fatal ≠ none := by
      show (Session.dispatchAll _ d.session.pending).fatal ≠ none
      rw [Session.fatal_dispatchAll]
      intro nothing
      exact fault (List.findSome?_eq_none_iff.mp (Option.or_eq_none_iff.mp nothing).2 e there)
    simp only
    cases first : (d.changeSession Session.dispatchPending).session.fatal with
    | some e => exact ⟨_, rfl⟩
    | none => exact absurd first latched

/-! ## Serving -/

theorem attendIn_of_none (nobody : d.server.serveOne { d.host with log := [] } = none) :
    d.attendIn scarcity = (none, d) := by
  simp only [attendIn, nobody]

theorem attendIn_of_some {request : Except DaemonError Wire.Request} {h : Host}
    (served : d.server.serveOne { d.host with log := [] } = some (request, h)) :
    d.attendIn scarcity = match request with
      | .error e => (some (.error e), (d.count h).reject s!"Dropped transfer request: {e.message}")
      | .ok request =>
        (some ((d.count h).fulfilIn scarcity request).1,
          ((d.count h).fulfilIn scarcity request).2) := by
  simp only [attendIn, served]
  cases request <;> rfl

theorem pending_fulfilIn (scarcity : Session.Scarcity) (request : Wire.Request) (d : Daemon) :
    (d.fulfilIn scarcity request).2.session.pending = d.session.pending := by
  have applied := Session.pending_onWall
    (Wall.Stage.handle (Session.displayIn scarcity { d.session with log := [] }) request d.filter)
    { d.session with log := [] }
  simp only [fulfilIn, onSession]
  generalize Session.onWall _ _ = outcome at applied
  obtain ⟨answer, session⟩ := outcome
  cases answer <;> exact applied

/-- A service takes the client that has waited longest; without one nothing happens. -/
theorem service?_cases (scarcity : Session.Scarcity) (d : Daemon) :
    (d.service? scarcity = none ∧ (d.attendIn scarcity).2 = d ∧
      ∀ c rest, d.host.listeners.find? d.server.listener ≠ some (c :: rest)) ∨
    (∃ s c rest, d.service? scarcity = some s ∧ s.daemon = d ∧
      (d.attendIn scarcity).1 = some s.answer ∧
      Host.Accepts d.server.listener d.host (d.attendIn scarcity).2.host c rest ∧
      (d.attendIn scarcity).2.session.pending = d.session.pending) := by
  cases served : d.server.serveOne { d.host with log := [] } with
  | none =>
    refine .inl ⟨by simp only [service?, served], by rw [attendIn_of_none served], ?_⟩
    intro c rest waiting
    obtain ⟨request, h, some⟩ := Wire.Server.serveOne_of_waiting
      (s := d.server) (h := { d.host with log := [] }) waiting
    rw [served] at some
    cases some
  | some answered =>
    obtain ⟨request, h⟩ := answered
    obtain ⟨c, rest, accepts⟩ := Wire.Server.serveOne_accepts served
    have attended : d.attendIn scarcity = _ := attendIn_of_some served
    obtain ⟨answer, answers, host, pending⟩ : ∃ answer, (d.attendIn scarcity).1 = some answer ∧
        (d.attendIn scarcity).2.host = { h with log := [] } ∧
        (d.attendIn scarcity).2.session.pending = d.session.pending := by
      rw [attended]
      cases request with
      | error e => exact ⟨_, rfl, rfl, rfl⟩
      | ok request =>
        exact ⟨_, rfl, (fulfilIn_frame _ request _).1, pending_fulfilIn _ request (d.count h)⟩
    refine .inr ⟨⟨d, scarcity, request, answer⟩, c, rest, ?_, rfl, answers, ?_, pending⟩
    · simp only [service?, served, answers]
    · rw [host]
      exact ⟨accepts.first, accepts.tree, accepts.left, accepts.others⟩

/-! ## After the wait -/

theorem react_of_transfer (inviting : a.Inviting) (d : Daemon) :
    d.react scarcity a = (none, (d.attendIn scarcity).2) :=
  if_pos (Arrival.wake_eq_transfer_iff.mpr inviting)

theorem react_stops_of_signal (signal : Readiness.isReadable a.signals = true) (d : Daemon) :
    (d.react scarcity a).1 = some (.signal a.signal) := by
  have wake : a.readiness.wake = .signal := if_pos signal
  unfold react act
  cases a.inbound <;> simp [wake]

theorem react_stops_of_hangup (signal : Readiness.isReadable a.signals = false)
    (hangup : (a.display.getD 0).meets PollFlags.hangup = true) (d : Daemon) :
    (d.react scarcity a).1 = some .displayHangup := by
  have wake : a.readiness.wake = .displayHangup := by
    simp [Arrival.readiness, Readiness.ofFlags, Readiness.wake, signal, hangup]
  unfold react act
  cases a.inbound <;> simp [wake]

theorem react_stops_of_error (signal : Readiness.isReadable a.signals = false)
    (hangup : (a.display.getD 0).meets PollFlags.hangup = false)
    (error : (a.display.getD 0).meets (PollFlags.error ||| PollFlags.invalid) = true)
    (d : Daemon) :
    (d.react scarcity a).1 =
      some (.displayError "error condition on the display connection") := by
  have wake : a.readiness.wake = .displayError := by
    simp [Arrival.readiness, Readiness.ofFlags, Readiness.wake, signal, hangup, error]
  unfold react act
  cases a.inbound <;> simp [wake]

theorem pending_act {p : Poll} (unread : p.readiness.wake ≠ .display)
    (unserved : p.readiness.wake ≠ .transfer) (d : Daemon) :
    (d.act p).2.session.pending = d.session.pending := by
  unfold act
  split
  · rfl
  · rfl
  · rfl
  · contradiction
  · contradiction
  · rfl

/-- What is read is queued behind what is there, and nothing else is. -/
theorem pending_react (going : (d.react scarcity a).1 = none) :
    (d.react scarcity a).2.session.pending = d.session.pending ++ a.events d.session := by
  by_cases transfer : a.readiness.wake = .transfer
  · rw [react_of_transfer (Arrival.wake_eq_transfer_iff.mp transfer)]
    have nothing : a.events d.session = [] := by simp [Arrival.events, transfer]
    rw [nothing, List.append_nil]
    rcases service?_cases scarcity d with ⟨_, same, _⟩ | ⟨_, _, _, _, _, _, _, same⟩
    · rw [same]
    · exact same
  unfold react at going ⊢
  rw [if_neg transfer] at going ⊢
  unfold Arrival.events
  by_cases display : a.readiness.wake = .display
  · cases inbound : a.inbound with
    | error t => simp [inbound, display] at going
    | ok ms =>
      simp only [inbound, act, display, read] at going ⊢
      cases found : Session.readAll (ms.filter d.session.hears) with
      | error t => simp [found] at going
      | ok es => simp [Except.toOption]
  · rw [if_neg display, List.append_nil]
    cases a.inbound with
    | ok ms => exact pending_act display transfer d
    | error t =>
      simp only [if_neg display]
      exact pending_act display transfer d

/-! ## One round -/

/-- The daemon that has done everything a round does before the wait. -/
def armed (r : Round) (d : Daemon) : Daemon := ((d.enter r).prepare r).2

/-- The round comes to its wait, and this is what the wait finds. -/
structure Finds (r : Round) (d : Daemon) (a : Arrival) : Prop where
  /-- Everything that was queued was dispatched. -/
  sound : r.fault? d.session.pending = none
  harmless : ((d.enter r).dispatchQueue r).2.session.fatal = none
  flushed : (((d.enter r).dispatchQueue r).2.sendQueue r).1 = none
  /-- No event was queued in between. -/
  idle : r.late = []
  found : r.wait.outcome = .ok a

/-- A client is accepted in this round. -/
structure Clear (r : Round) (d : Daemon) (a : Arrival) : Prop extends Finds r d a where
  inviting : a.Inviting
  waiting : ∃ c rest, (r.others d.host).listeners.find? d.server.listener = some (c :: rest)

theorem Finds.going (finds : Finds r d a) : ((d.enter r).prepare r).1 = none :=
  prepare_eq_none_iff.mpr ⟨finds.sound, finds.harmless, finds.flushed⟩

theorem armed_unserved (r : Round) (d : Daemon) : Unserved (d.enter r) (armed r d) :=
  .prepare r (d.enter r)

theorem queue_nil (d : Daemon) : d.queue [] = d := by
  simp only [queue, List.append_nil]

theorem pass_of_stop {reason : StopReason} (stops : ((d.enter r).prepare r).1 = some reason) :
    d.pass r = ⟨r.batch d.session.pending, [], none, some reason, armed r d⟩ := by
  unfold pass armed
  generalize (d.enter r).prepare r = prepared at stops ⊢
  obtain ⟨stop, d₁⟩ := prepared
  cases stops
  rfl

/-- Only what is queued in between keeps the daemon from waiting. -/
theorem pass_of_none (going : ((d.enter r).prepare r).1 = none) :
    d.pass r = if r.late = [] then (armed r d).await r (r.batch d.session.pending)
      else ⟨r.batch d.session.pending, r.late, none, none, (armed r d).queue r.late⟩ := by
  have empty := (prepare_clears going).1
  unfold pass armed
  generalize (d.enter r).prepare r = prepared at going empty ⊢
  obtain ⟨stop, d₁⟩ := prepared
  cases going
  simp only at empty
  by_cases idle : r.late = []
  · simp [idle, queue_nil, empty]
  · simp [idle, queue, empty]

theorem pass_of_failed {e : Errno} (going : ((d.enter r).prepare r).1 = none) (idle : r.late = [])
    (failed : r.wait.outcome = .error e) :
    d.pass r = ⟨r.batch d.session.pending, [], none,
      some (.displayError s!"poll failed: {e.message}"),
      (armed r d).note (Log.error s!"poll failed: {e.message}")⟩ := by
  rw [pass_of_none going, if_pos idle, await, failed]

theorem pass_of_finds (finds : Finds r d a) :
    d.pass r = ⟨r.batch d.session.pending, a.events (armed r d).session,
      if a.readiness.wake = .transfer then (armed r d).service? r.scarcity else none,
      ((armed r d).react r.scarcity a).1, ((armed r d).react r.scarcity a).2⟩ := by
  rw [pass_of_none finds.going, if_pos finds.idle, await, finds.found]

/-- How far a round comes. -/
inductive Reaches (r : Round) (d : Daemon) : Prop where
  | stops (reason : StopReason) (h : ((d.enter r).prepare r).1 = some reason)
  | again (going : ((d.enter r).prepare r).1 = none) (late : r.late ≠ [])
  | fails (going : ((d.enter r).prepare r).1 = none) (idle : r.late = []) (e : Errno)
      (failed : r.wait.outcome = .error e)
  | finds (a : Arrival) (h : Finds r d a)

theorem reaches (r : Round) (d : Daemon) : Reaches r d := by
  cases prepared : ((d.enter r).prepare r).1 with
  | some reason => exact .stops reason prepared
  | none =>
    obtain ⟨sound, harmless, flushed⟩ := prepare_eq_none_iff.mp prepared
    by_cases idle : r.late = []
    · cases outcome : r.wait.outcome with
      | error e => exact .fails prepared idle e outcome
      | ok a => exact .finds a ⟨sound, harmless, flushed, idle, outcome⟩
    · exact .again prepared idle

/-- What comes in and what is dispatched is the same, but for what is still queued. -/
theorem pass_conserves (going : (d.pass r).stop = none) :
    d.session.pending ++ (d.pass r).received =
      (d.pass r).dispatched ++ (d.pass r).daemon.session.pending := by
  cases reaches r d with
  | stops reason h =>
    rw [pass_of_stop h] at going
    cases going
  | again prepared late =>
    obtain ⟨empty, _, all⟩ := prepare_clears prepared
    have queued : ((armed r d).queue r.late).session.pending = r.late := by
      simp only [queue, armed, empty, List.nil_append]
    rw [pass_of_none prepared, if_neg late, queued]
    exact congrArg (· ++ r.late) all.symm
  | fails prepared idle e failed =>
    rw [pass_of_failed prepared idle failed] at going
    cases going
  | finds a h =>
    obtain ⟨empty, _, all⟩ := prepare_clears h.going
    rw [pass_of_finds h] at going ⊢
    have read := pending_react going
    rw [armed, empty, List.nil_append] at read
    rw [armed, read]
    exact congrArg (· ++ _) all.symm

/-- The service of a round in which a client is accepted. -/
structure Serves (p : Pass) (r : Round) (d : Daemon) (s : Service) : Prop where
  served : p.served = some s
  service : (armed r d).service? r.scarcity = some s
  by_ : s.daemon = armed r d
  answer : (armed r d).attendIn r.scarcity = (some s.answer, p.daemon)
  dispatched : p.dispatched = d.session.pending
  received : p.received = []
  empty : p.daemon.session.pending = []
  goes_on : p.stop = none
  accepts : ∃ c rest, Host.Accepts d.server.listener (r.others d.host) p.daemon.host c rest

theorem pass_serves (clear : Clear r d a) : ∃ s, Serves (d.pass r) r d s := by
  obtain ⟨finds, inviting, c, rest, waiting⟩ := clear
  obtain ⟨empty, _, all⟩ := prepare_clears finds.going
  have aside := armed_unserved r d
  have host : (armed r d).host = r.others d.host := aside.host
  have server : (armed r d).server = d.server := aside.server
  have transfer := Arrival.wake_eq_transfer_iff.mpr inviting
  rw [pass_of_finds finds, if_pos transfer, react_of_transfer inviting]
  rcases service?_cases r.scarcity (armed r d) with
    ⟨_, _, nobody⟩ | ⟨s, c', rest', served, by_, answer, accepts, same⟩
  · rw [host, server] at nobody
    exact absurd waiting (nobody c rest)
  · rw [host, server] at accepts
    refine ⟨s, served, served, by_, ?_, all, ?_, same.trans empty, rfl, c', rest', accepts⟩
    · rw [← answer]
    · simp [Arrival.events, transfer]

theorem pass_unserved (unclear : ∀ a, ¬ Clear r d a) :
    (d.pass r).served = none ∧ Unserved (d.enter r) (d.pass r).daemon := by
  have aside := armed_unserved r d
  cases reaches r d with
  | stops reason h =>
    rw [pass_of_stop h]
    exact ⟨rfl, aside⟩
  | again prepared late =>
    rw [pass_of_none prepared, if_neg late]
    exact ⟨rfl, aside.host, aside.server, aside.filter, aside.status⟩
  | fails prepared idle e failed =>
    rw [pass_of_failed prepared idle failed]
    exact ⟨rfl, aside.host, aside.server, aside.filter, aside.status⟩
  | finds a finds =>
    rw [pass_of_finds finds]
    by_cases transfer : a.readiness.wake = .transfer
    · have inviting := Arrival.wake_eq_transfer_iff.mp transfer
      rw [if_pos transfer, react_of_transfer inviting]
      rcases service?_cases r.scarcity (armed r d) with
        ⟨none, same, _⟩ | ⟨s, c, rest, _, _, _, accepts, _⟩
      · rw [same]
        exact ⟨none, aside⟩
      · have waiting := accepts.first
        rw [aside.host, aside.server] at waiting
        exact absurd ⟨finds, inviting, c, rest, waiting⟩ (unclear a)
    · rw [if_neg transfer]
      exact ⟨rfl, aside.trans (.react transfer (armed r d))⟩

/-- A round serves a client or it does not. -/
theorem pass_serves_or (r : Round) (d : Daemon) :
    (∃ a s, Clear r d a ∧ Serves (d.pass r) r d s) ∨
      ((∀ a, ¬ Clear r d a) ∧ (d.pass r).served = none ∧
        Unserved (d.enter r) (d.pass r).daemon) := by
  by_cases clear : ∃ a, Clear r d a
  · obtain ⟨a, clear⟩ := clear
    obtain ⟨s, serves⟩ := pass_serves clear
    exact .inl ⟨a, s, clear, serves⟩
  · exact .inr ⟨not_exists.mp clear, pass_unserved (not_exists.mp clear)⟩

theorem dispatched_pass (r : Round) (d : Daemon) :
    (d.pass r).dispatched = r.batch d.session.pending := by
  cases reaches r d with
  | stops reason h => rw [pass_of_stop h]
  | again prepared late => rw [pass_of_none prepared, if_neg late]
  | fails prepared idle e failed => rw [pass_of_failed prepared idle failed]
  | finds a finds => rw [pass_of_finds finds]

/-- What holds of one round. -/
structure Pass.Orderly (p : Pass) (r : Round) (d : Daemon) : Prop where
  /-- When a connection is accepted. -/
  served_iff : p.served ≠ none ↔ ∃ a, Clear r d a
  /-- It is one, and the others stay as they are. -/
  one : p.served ≠ none → ∃ c rest,
    Host.Accepts d.server.listener (r.others d.host) p.daemon.host c rest
  /-- If none is accepted, the host is as others have left it, and nothing is counted. -/
  unserved : p.served = none → Unserved (d.enter r) p.daemon
  /-- The daemon that accepts it has dispatched everything, and goes on. -/
  caught_up : ∀ s, p.served = some s → s.daemon.session.pending = [] ∧
    s.daemon.session.fatal = none ∧ p.dispatched = d.session.pending ∧ p.received = [] ∧
    p.daemon.session.pending = [] ∧ p.stop = none
  too_old : ∀ e ∈ p.dispatched, e.fault? ≠ none →
    ∃ text, p.stop = some (.displayError text) ∧ p.served = none
  /-- Which of several reasons to stop counts. -/
  signal : ∀ a, Finds r d a → Readiness.isReadable a.signals = true →
    p.stop = some (.signal a.signal)
  hangup : ∀ a, Finds r d a → Readiness.isReadable a.signals = false →
    (a.display.getD 0).meets PollFlags.hangup = true → p.stop = some .displayHangup
  error : ∀ a, Finds r d a → Readiness.isReadable a.signals = false →
    (a.display.getD 0).meets PollFlags.hangup = false →
    (a.display.getD 0).meets (PollFlags.error ||| PollFlags.invalid) = true →
    p.stop = some (.displayError "error condition on the display connection")

theorem pass_orderly (r : Round) (d : Daemon) : (d.pass r).Orderly r d where
  served_iff := by
    rcases pass_serves_or r d with ⟨a, s, clear, serves⟩ | ⟨unclear, nobody, _⟩
    · rw [serves.served]
      exact ⟨fun _ => ⟨a, clear⟩, fun _ => Option.some_ne_none s⟩
    · rw [nobody]
      exact ⟨fun absent => absurd rfl absent, fun ⟨a, clear⟩ => absurd clear (unclear a)⟩
  one := by
    intro served
    rcases pass_serves_or r d with ⟨_, _, _, serves⟩ | ⟨_, nobody, _⟩
    · exact serves.accepts
    · exact absurd nobody served
  unserved := by
    intro none
    rcases pass_serves_or r d with ⟨_, _, _, serves⟩ | ⟨_, _, aside⟩
    · rw [serves.served] at none
      cases none
    · exact aside
  caught_up := by
    intro s served
    rcases pass_serves_or r d with ⟨a, s', clear, serves⟩ | ⟨_, nobody, _⟩
    · rw [serves.served] at served
      cases served
      obtain ⟨empty, harmless, _⟩ := prepare_clears clear.going
      rw [serves.by_]
      exact ⟨empty, harmless, serves.dispatched, serves.received, serves.empty, serves.goes_on⟩
    · rw [nobody] at served
      cases served
  too_old := by
    intro e there fault
    rw [dispatched_pass] at there
    obtain ⟨text, stops⟩ := prepare_of_fault (d := d.enter r) there fault
    rw [pass_of_stop stops]
    exact ⟨text, rfl, rfl⟩
  signal := by
    intro a finds signal
    rw [pass_of_finds finds]
    exact react_stops_of_signal signal _
  hangup := by
    intro a finds signal hangup
    rw [pass_of_finds finds]
    exact react_stops_of_hangup signal hangup _
  error := by
    intro a finds signal hangup error
    rw [pass_of_finds finds]
    exact react_stops_of_error signal hangup error _

/-! ## One round after another -/

theorem course_cons_of_stop {rs : List Round} {reason : StopReason}
    (stops : (d.pass r).stop = some reason) :
    d.course (r :: rs) = ⟨[d.pass r], some reason, (d.pass r).daemon⟩ := by
  simp only [course, stops]

theorem course_cons_of_none {rs : List Round} (going : (d.pass r).stop = none) :
    d.course (r :: rs) = { (d.pass r).daemon.course rs with
      passes := d.pass r :: ((d.pass r).daemon.course rs).passes } := by
  simp only [course, going]

/-- After rounds that the daemon survives, the others follow. -/
theorem course_append {before after : List Round} (going : (d.course before).stop = none) :
    d.course (before ++ after) = { (d.course before).daemon.course after with
      passes := (d.course before).passes ++ ((d.course before).daemon.course after).passes } := by
  induction before generalizing d with
  | nil => rfl
  | cons r before ih =>
    cases stop : (d.pass r).stop with
    | some reason =>
      rw [course_cons_of_stop stop] at going
      cases going
    | none =>
      rw [course_cons_of_none stop] at going ⊢
      rw [List.cons_append, course_cons_of_none stop, ih going]
      rfl

/-- Every round of a course is met by the daemon that the rounds before it left. -/
theorem mem_passes {rs : List Round} {p : Pass} (there : p ∈ (d.course rs).passes) :
    ∃ before r after, rs = before ++ r :: after ∧ (d.course before).stop = none ∧
      p = (d.course before).daemon.pass r := by
  induction rs generalizing d with
  | nil => cases there
  | cons r rs ih =>
    cases stop : (d.pass r).stop with
    | some reason =>
      rw [course_cons_of_stop stop] at there
      exact ⟨[], r, rs, rfl, rfl, List.mem_singleton.mp there⟩
    | none =>
      rw [course_cons_of_none stop] at there
      rcases List.mem_cons.mp there with here | later
      · exact ⟨[], r, rs, rfl, rfl, here⟩
      · obtain ⟨before, r', after, rfl, going, same⟩ := ih later
        refine ⟨r :: before, r', after, rfl, ?_, ?_⟩
        · rw [course_cons_of_none stop]
          exact going
        · rw [course_cons_of_none stop]
          exact same

/-- A course stops with the first of its rounds that does. -/
theorem course_stop {rs : List Round} {reason : StopReason}
    (stops : (d.course rs).stop = some reason) :
    ∃ before r after, rs = before ++ r :: after ∧ (d.course before).stop = none ∧
      ((d.course before).daemon.pass r).stop = some reason := by
  induction rs generalizing d with
  | nil => cases stops
  | cons r rs ih =>
    cases stop : (d.pass r).stop with
    | some first =>
      rw [course_cons_of_stop stop] at stops
      exact ⟨[], r, rs, rfl, rfl, stop.trans stops⟩
    | none =>
      rw [course_cons_of_none stop] at stops
      obtain ⟨before, r', after, rfl, going, ends⟩ := ih stops
      refine ⟨r :: before, r', after, rfl, ?_, ?_⟩
      · rw [course_cons_of_none stop]
        exact going
      · rw [course_cons_of_none stop]
        exact ends

/-- As long as the daemon goes on, everything that came in is dispatched or still queued. -/
theorem course_conserves {rs : List Round} (going : (d.course rs).stop = none) :
    d.session.pending ++ (d.course rs).passes.flatMap Pass.received =
      (d.course rs).passes.flatMap Pass.dispatched ++ (d.course rs).daemon.session.pending := by
  induction rs generalizing d with
  | nil => exact List.append_nil _
  | cons r rs ih =>
    cases stop : (d.pass r).stop with
    | some reason =>
      rw [course_cons_of_stop stop] at going
      cases going
    | none =>
      rw [course_cons_of_none stop] at going ⊢
      have rest := ih going
      simp only [List.flatMap_cons]
      rw [← List.append_assoc, pass_conserves stop, List.append_assoc, rest, List.append_assoc]

/-- What holds of a course of rounds. -/
structure Orderly (rs : List Round) (d : Daemon) : Prop where
  each : ∀ before r after, rs = before ++ r :: after → (d.course before).stop = none →
    ((d.course before).daemon.pass r).Orderly r (d.course before).daemon
  /-- A connection is accepted only when every event that ever came in was dispatched. -/
  caught_up : ∀ before r after, rs = before ++ r :: after → (d.course before).stop = none →
    ((d.course before).daemon.pass r).served ≠ none →
      d.session.pending ++ (d.course before).passes.flatMap Pass.received =
        ((d.course before).passes ++ [(d.course before).daemon.pass r]).flatMap Pass.dispatched
  /-- Nothing comes after a reason to stop. -/
  last : ∀ before r after reason, rs = before ++ r :: after → (d.course before).stop = none →
    ((d.course before).daemon.pass r).stop = some reason →
      d.course rs = ⟨(d.course before).passes ++ [(d.course before).daemon.pass r], some reason,
        ((d.course before).daemon.pass r).daemon⟩
  too_old : ∀ p ∈ (d.course rs).passes, ∀ name interface version i,
    .global name interface version ∈ p.dispatched →
    Session.Interface.ofName? interface = some i → version < i.required →
      ∃ text earlier, (d.course rs).stop = some (.displayError text) ∧
        StopReason.exitCode (.displayError text) = 1 ∧
        (d.course rs).passes = earlier ++ [p] ∧ p.served = none

/-- The rounds are in order, whatever they meet. -/
theorem course_orderly (rs : List Round) (d : Daemon) : Orderly rs d := by
  have last : ∀ before r after reason, rs = before ++ r :: after → (d.course before).stop = none →
      ((d.course before).daemon.pass r).stop = some reason →
        d.course rs = ⟨(d.course before).passes ++ [(d.course before).daemon.pass r], some reason,
          ((d.course before).daemon.pass r).daemon⟩ := by
    intro before r after reason split going stops
    rw [split, course_append going, course_cons_of_stop stops]
  refine ⟨?each, ?caught_up, last, ?too_old⟩
  case each =>
    intro before r after _ _
    exact pass_orderly r _
  case caught_up =>
    intro before r after _ going served
    obtain ⟨s, served⟩ := Option.ne_none_iff_exists'.mp served
    obtain ⟨_, _, all, _⟩ := (pass_orderly r _).caught_up s served
    rw [course_conserves going, List.flatMap_append, List.flatMap_singleton, all]
  case too_old =>
    intro p there name interface version i dispatched what old
    obtain ⟨before, r, after, split, going, rfl⟩ := mem_passes there
    have fault : (Session.Event.global name interface version).fault? ≠ none := by
      rw [Session.Event.fault?_of_old what old]
      exact Option.some_ne_none _
    obtain ⟨text, stops, nobody⟩ := (pass_orderly r _).too_old _ dispatched fault
    have ended := last before r after _ split going stops
    refine ⟨text, (d.course before).passes, ?_, rfl, ?_, nobody⟩
    · rw [ended]
    · rw [ended]

/-! ## Rounds in which nothing goes wrong -/

/-- What the loop that runs is told of an arrival. -/
def pollOf (a : Arrival) : Poll := ⟨a.readiness, a.signal, (a.inbound.toOption).getD []⟩

theorem enter_calm (a : Arrival) (d : Daemon) : d.enter (.calm a) = d := rfl

theorem prepare_calm (a : Arrival) (d : Daemon) : d.prepare (.calm a) = d.settle := rfl

theorem react_eq_act (read : ∃ ms, a.inbound = .ok ms) (d : Daemon) :
    d.react Session.plenty a = d.act (pollOf a) := by
  obtain ⟨ms, inbound⟩ := read
  by_cases transfer : a.readiness.wake = .transfer
  · simp only [react, act, pollOf, transfer]
    rfl
  · simp only [react, if_neg transfer, pollOf, inbound, Except.toOption, Option.getD_some]

theorem pass_calm_of_stop {reason : StopReason} (settled : d.settle = (some reason, d')) :
    ((d.pass (.calm a)).stop, (d.pass (.calm a)).daemon) = (some reason, d') := by
  have prepared : (d.enter (.calm a)).prepare (.calm a) = (some reason, d') := by
    rw [enter_calm, prepare_calm, settled]
  rw [pass_of_stop (congrArg Prod.fst prepared), armed, prepared]

theorem pass_calm_of_none (read : ∃ ms, a.inbound = .ok ms) (settled : d.settle = (none, d')) :
    ((d.pass (.calm a)).stop, (d.pass (.calm a)).daemon) = d'.act (pollOf a) := by
  have prepared : (d.enter (.calm a)).prepare (.calm a) = (none, d') := by
    rw [enter_calm, prepare_calm, settled]
  obtain ⟨sound, harmless, flushed⟩ := prepare_eq_none_iff.mp (congrArg Prod.fst prepared)
  have finds : Finds (.calm a) d a := ⟨sound, harmless, flushed, rfl, rfl⟩
  rw [pass_of_finds finds, armed, prepared, ← react_eq_act read]
  rfl

/-- What a course comes to when it settles for the next wait. -/
def Course.settled (c : Course) : Option StopReason × Daemon :=
  match c.stop with
  | some reason => (some reason, c.daemon)
  | none => c.daemon.settle

/-- Calm rounds are the turns of the loop that runs. -/
theorem course_calm {as : List Arrival} (read : ∀ a ∈ as, ∃ ms, a.inbound = .ok ms) (d : Daemon) :
    (d.course (as.map Round.calm)).settled =
      match d.settle with
      | (some reason, d) => (some reason, d)
      | (none, d) => d.turns (as.map pollOf) := by
  induction as generalizing d with
  | nil =>
    simp only [List.map_nil, course, Course.settled, turns]
    generalize d.settle = settled
    obtain ⟨stop, d₁⟩ := settled
    cases stop <;> rfl
  | cons a as ih =>
    have rest := ih fun b hb => read b (List.mem_cons_of_mem _ hb)
    rw [List.map_cons, List.map_cons]
    cases settled : d.settle with
    | mk stop d₁ =>
      cases stop with
      | some reason =>
        obtain ⟨stop, same⟩ := Prod.mk.inj (pass_calm_of_stop settled)
        rw [course_cons_of_stop stop, Course.settled, same]
      | none =>
        have passed := pass_calm_of_none (read a List.mem_cons_self) settled
        simp only [turns, turn, ← passed]
        cases stop : (d.pass (.calm a)).stop with
        | some reason =>
          rw [course_cons_of_stop stop]
          rfl
        | none =>
          rw [course_cons_of_none stop]
          refine (rest _).trans ?_
          cases next : (d.pass (.calm a)).daemon.settle with
          | mk stop d₂ => cases stop <;> simp only [next]

end Daemon
end Backdrop
