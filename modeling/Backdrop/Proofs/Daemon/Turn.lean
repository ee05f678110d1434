import Backdrop.Proofs.Daemon.Backlog

/-!
# Backdrop.Proofs.Daemon.Turn

What one turn of the daemon depends on, and what it leaves alone.

* `Session.Settled`: nothing was read and not dispatched, nothing is queued, and nothing failed. A
  settled session is not changed by settling again.
* `Daemon.Ahead k d d'`: the daemon `d` has refused `k` requests more than `d'`, and apart from the
  host and the log it is like `d'`. Turns keep this, and answer both daemons alike.
-/

namespace Backdrop

namespace Session

structure Settled (s : Session) : Prop where
  pending : s.pending = []
  queued : s.queued = []
  log : s.log = []
  fatal : s.fatal = none
  sound : s.flushFault? = none

/-! ## Dispatching reads nothing -/

@[simp] theorem pending_pushAll (rs : List Request) (s : Session) :
    (s.pushAll rs).pending = s.pending := by
  unfold pushAll
  induction rs generalizing s with
  | nil => rfl
  | cons r rs ih => exact ih (s.push r)

@[simp] theorem pending_emit (c : Wall.Call) (s : Session) : (s.emit c).pending = s.pending := by
  cases c <;> exact pending_pushAll _ s

@[simp] theorem pending_onWall {α : Type} (f : Wall.Stage → α × Wall.Stage) (s : Session) :
    (s.onWall f).2.pending = s.pending := by
  have emitted : ∀ (cs : List Wall.Call) (s : Session), (cs.foldl emit s).pending = s.pending := by
    intro cs
    induction cs with
    | nil => exact fun _ => rfl
    | cons c cs ih => exact fun s => (ih (s.emit c)).trans (pending_emit c s)
  exact emitted _ _

@[simp] theorem pending_changeWall (f : Wall.Stage → Wall.Stage) (s : Session) :
    (s.changeWall f).pending = s.pending :=
  pending_onWall _ s

theorem pending_announce (name : UInt32) (interface : String) (version : UInt32) (s : Session) :
    (s.announce name interface version).pending = s.pending := by
  unfold announce
  split
  · rfl
  · split
    · rfl
    · rename_i i _ _ _
      cases i <;> simp [bind, bindGlobal, bindOutput, createMissing, note, push]

@[simp] theorem pending_dispatch (e : Event) (s : Session) :
    (s.dispatch e).pending = s.pending := by
  cases e with
  | global name interface version => exact pending_announce name interface version s
  | mode n flags mode =>
    simp only [dispatch]
    split
    · exact pending_changeWall _ s
    · rfl
  | configure n serial size =>
    simp only [dispatch, onLayer]
    split
    · rfl
    · exact pending_changeWall _ s
  | closed n =>
    simp only [dispatch, onLayer]
    split
    · rfl
    · exact pending_changeWall _ s
  | release n =>
    simp only [dispatch]
    split
    · rfl
    · exact pending_changeWall _ s
  | other object => rfl
  | globalRemove name => exact pending_changeWall _ s
  | scale n factor => exact pending_changeWall _ s
  | name n text => exact pending_changeWall _ s
  | done n => exact pending_changeWall _ s

theorem pending_dispatchAll (es : List Event) (s : Session) :
    (s.dispatchAll es).pending = s.pending := by
  unfold dispatchAll
  induction es generalizing s with
  | nil => rfl
  | cons e es ih => exact (ih (s.dispatch e)).trans (pending_dispatch e s)

end Session

namespace Daemon

variable {d d' : Daemon} {k : Nat}

/-! ## Settling -/

theorem changeSession_of_quiet {f : Session → Session} (quiet : d.session.log = [])
    (same : f d.session = d.session) : d.changeSession f = d := by
  have unlogged : ({ d.session with log := [] } : Session) = d.session := by
    rw [← quiet]
  simp only [changeSession, onSession, unlogged, same, quiet, List.append_nil]

/-- A settled daemon has nothing to do before it waits. -/
theorem settle_of_settled (settled : d.session.Settled) : d.settle = (none, d) := by
  have undispatched : d.session.dispatchPending = d.session := by
    have read : ({ d.session with pending := [] } : Session) = d.session := by
      rw [← settled.pending]
    simp only [Session.dispatchPending, settled.pending, read]
    rfl
  have flushed : d.session.flush = .ok d.session := by
    have sent : ({ d.session with queued := [] } : Session) = d.session := by
      rw [← settled.queued]
    simp only [Session.flush, settled.sound, settled.queued, List.append_nil, sent]
  simp only [settle, changeSession_of_quiet settled.log undispatched, settled.fatal, flushed]

theorem settled_of_settle (h : d.settle = (none, d')) : d'.session.Settled := by
  simp only [settle] at h
  split at h
  · cases h
  · rename_i nothing
    split at h
    · rename_i s flushed
      cases h
      have pending : (d.changeSession Session.dispatchPending).session.pending = [] :=
        Session.pending_dispatchAll _ _
      have quiet : (d.changeSession Session.dispatchPending).session.log = [] := rfl
      simp only [Session.flush] at flushed
      split at flushed
      · cases flushed
      · rename_i sound
        cases flushed
        refine ⟨pending, rfl, quiet, nothing, ?_⟩
        simp only [Session.flushFault?] at sound ⊢
        split at sound <;> simp_all
    · cases h

/-- Settling is about the session. -/
theorem settle_frame (d : Daemon) :
    d.settle.2.host = d.host ∧ d.settle.2.server = d.server := by
  simp only [settle]
  split
  · exact ⟨rfl, rfl⟩
  · split <;> exact ⟨rfl, rfl⟩

/-- Whatever else a turn does than serving, it does not look at who waits. -/
theorem turn_frame {p : Poll} (other : p.readiness.wake ≠ .transfer) (d : Daemon) :
    (d.turn p).2.host = d.host ∧ (d.turn p).2.server = d.server := by
  have acted : (d.act p).2.host = d.host ∧ (d.act p).2.server = d.server := by
    simp only [act]
    split
    · exact ⟨rfl, rfl⟩
    · exact ⟨rfl, rfl⟩
    · exact ⟨rfl, rfl⟩
    · simp only [read]
      split <;> exact ⟨rfl, rfl⟩
    · contradiction
    · exact ⟨rfl, rfl⟩
  simp only [turn]
  split
  · rename_i stopped
    rw [stopped] at acted
    exact acted
  · rename_i d₁ went
    rw [went] at acted
    exact ⟨(settle_frame d₁).1.trans acted.1, (settle_frame d₁).2.trans acted.2⟩

/-! ## Like daemons -/

structure Ahead (k : Nat) (d d' : Daemon) : Prop where
  session : d.session = d'.session
  filter : d.filter = d'.filter
  status : d.status =
    { d'.status with requests := d'.status.requests + k, rejected := d'.status.rejected + k }

theorem Ahead.refl (d : Daemon) : Ahead 0 d d := ⟨rfl, rfl, rfl⟩

theorem Ahead.trans {d'' : Daemon} {j : Nat} (h : Ahead k d d') (h' : Ahead j d' d'') :
    Ahead (k + j) d d'' := by
  refine ⟨h.session.trans h'.session, h.filter.trans h'.filter, ?_⟩
  rw [h.status, h'.status]
  simp only [Status.mk.injEq, and_true]
  omega

/-- What a step does, it does to both alike. -/
structure Parallel (k : Nat) {α : Type} (a b : α × Daemon) : Prop where
  answer : a.1 = b.1
  ahead : Ahead k a.2 b.2

theorem settle_parallel (h : Ahead k d d') : Parallel k d.settle d'.settle := by
  obtain ⟨host, session, server, filter, status, log⟩ := d
  obtain ⟨host', session', server', filter', status', log'⟩ := d'
  obtain ⟨rfl, rfl, same⟩ := h
  simp only [settle, changeSession, onSession]
  split
  · exact ⟨rfl, rfl, rfl, same⟩
  · split
    · exact ⟨rfl, rfl, rfl, same⟩
    · exact ⟨rfl, rfl, rfl, same⟩

theorem act_parallel {p : Poll} (other : p.readiness.wake ≠ .transfer) (h : Ahead k d d') :
    Parallel k (d.act p) (d'.act p) := by
  obtain ⟨host, session, server, filter, status, log⟩ := d
  obtain ⟨host', session', server', filter', status', log'⟩ := d'
  obtain ⟨rfl, rfl, same⟩ := h
  simp only [act]
  split
  · exact ⟨rfl, rfl, rfl, same⟩
  · exact ⟨rfl, rfl, rfl, same⟩
  · exact ⟨rfl, rfl, rfl, same⟩
  · simp only [read]
    split
    · exact ⟨rfl, rfl, rfl, same⟩
    · exact ⟨rfl, rfl, rfl, same⟩
  · contradiction
  · exact ⟨rfl, rfl, rfl, same⟩

theorem turn_parallel {p : Poll} (acted : Parallel k (d.act p) (d'.act p)) :
    Parallel k (d.turn p) (d'.turn p) := by
  obtain ⟨answer, ahead⟩ := acted
  simp only [turn]
  generalize d.act p = a at answer ahead ⊢
  generalize d'.act p = b at answer ahead ⊢
  obtain ⟨r, d₁⟩ := a
  obtain ⟨r', d₁'⟩ := b
  cases answer
  cases r with
  | some r => exact ⟨rfl, ahead⟩
  | none => exact settle_parallel ahead

theorem fulfil_parallel (r : Wire.Request) (h : Ahead k d d') :
    Parallel k (d.fulfil r) (d'.fulfil r) := by
  obtain ⟨host, session, server, filter, status, log⟩ := d
  obtain ⟨host', session', server', filter', status', log'⟩ := d'
  obtain ⟨rfl, rfl, same⟩ := h
  simp only at same
  subst same
  simp only [fulfil, fulfilIn, onSession]
  generalize Session.onWall _ _ = outcome
  obtain ⟨answer, session⟩ := outcome
  cases answer with
  | ok report => exact ⟨rfl, rfl, rfl, rfl⟩
  | error e =>
    have counted : status'.rejected + k + 1 = status'.rejected + 1 + k := Nat.add_right_comm _ _ _
    exact ⟨rfl, rfl, rfl, by simp only [reject, note, counted]⟩

/-- A request is applied to the session. -/
theorem fulfilIn_frame (scarcity : Session.Scarcity) (r : Wire.Request) (d : Daemon) :
    (d.fulfilIn scarcity r).2.host = d.host ∧ (d.fulfilIn scarcity r).2.server = d.server := by
  simp only [fulfilIn, onSession]
  generalize Session.onWall _ _ = outcome
  obtain ⟨answer, session⟩ := outcome
  cases answer <;> exact ⟨rfl, rfl⟩

end Daemon
end Backdrop
