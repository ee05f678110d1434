import Backdrop.Proofs.Daemon.Turn

/-!
# Backdrop.Proofs.Daemon.Rejection

Clients that send what no daemon can use.

* `Stream.isRejected` tells by the stream alone whether its client is refused.
* `live` is a daemon's life under incidents: clients arrive at any time, with anything, and between
  two arrivals the daemon may wake for any reason. A `Note` is what one wake came to.
* `purge` leaves out the clients that are refused, and the wakes that serve them.
* `undisturbed_of_started`: to refuse a client changes nothing but the counters, and the life
  without such clients is the same life.
-/

namespace Backdrop

open Wire (Stream)

/-! ## Refusals -/

/-- No request can be read from this, or none that can be applied. -/
def Wire.Stream.isRejected (s : Stream) : Bool :=
  match s.request? with
  | .error _ => true
  | .ok r =>
    match Wall.Content.ofAction r.action with
    | .error _ => true
    | .ok _ => false

/-- What a client is refused for never ends the daemon. -/
theorem Wire.Stream.errorClass_of_request? {s : Stream} {e : DaemonError}
    (h : s.request? = .error e) : e.errorClass = .request := by
  unfold Stream.request? at h
  split at h <;> cases h
  rfl

/-- A request that cannot be applied reaches neither the wall nor the display server. -/
theorem Wall.Stage.handle_error {display : Wall.Display} {r : Wire.Request} {filter : Filter}
    {stage stage' : Wall.Stage} {e : TransferError}
    (h : stage.handle display r filter = (.error e, stage')) : stage' = stage := by
  unfold Wall.Stage.handle at h
  split at h <;> cases h
  rfl

theorem Session.onWall_same {α : Type} {f : Wall.Stage → α × Wall.Stage} {s : Session} {a : α}
    (h : f ⟨s.wall, [], []⟩ = (a, ⟨s.wall, [], []⟩)) : s.onWall f = (a, s) := by
  simp only [onWall, h, List.foldl_nil, List.append_nil]

namespace Daemon

variable {d d' : Daemon} {k : Nat} {s : Stream} {streams streams' : List Stream}

theorem fulfil_error {r : Wire.Request} {e : TransferError} (quiet : d.session.log = [])
    (bad : Wall.Content.ofAction r.action = .error e) :
    d.fulfil r = (.error (.transfer e),
      d.reject s!"Dropped transfer request for {r.targetText}: {e.text}") := by
  have unlogged : ({ d.session with log := [] } : Session) = d.session := by
    rw [← quiet]
  have refused : ∀ display stage,
      Wall.Stage.handle display r d.filter stage = (.error e, stage) := by
    intro display stage
    simp only [Wall.Stage.handle, bad]
  simp only [fulfil, fulfilIn, onSession, unlogged, Session.onWall_same (refused _ _), quiet,
    List.append_nil]

theorem fulfil_ok {r : Wire.Request} {content : Wall.Content}
    (good : Wall.Content.ofAction r.action = .ok content) :
    ∃ report, (d.fulfil r).1 = .ok report := by
  simp only [fulfil, fulfilIn, onSession, Session.onWall, Wall.Stage.handle, good]
  exact ⟨_, rfl⟩

/-- Refusing a client costs two counts. -/
theorem attend_rejected (awaits : d.Awaits (s :: streams)) (quiet : d.session.log = [])
    (bad : s.isRejected = true) :
    ∃ e : DaemonError, d.attend.1 = some (.error e) ∧ e.errorClass = .request ∧
      Ahead 1 d.attend.2 d ∧ d.attend.2.Awaits streams := by
  obtain ⟨h, left, attended⟩ := attend_cons awaits
  cases read : s.request? with
  | error e =>
    rw [attended, read]
    exact ⟨e, rfl, Stream.errorClass_of_request? read, ⟨rfl, rfl, rfl⟩, left.congr rfl rfl⟩
  | ok r =>
    cases mapped : Wall.Content.ofAction r.action with
    | error e =>
      simp only [attended, read, fulfil_error (d := d.count h) quiet mapped]
      exact ⟨.transfer e, rfl, rfl, ⟨rfl, rfl, rfl⟩, left.congr rfl rfl⟩
    | ok content =>
      simp only [Stream.isRejected, read, mapped, Bool.false_eq_true] at bad

/-- Whoever is not refused is served alike by like daemons. -/
theorem attend_accepted (ahead : Ahead k d d') (awaits : d.Awaits (s :: streams))
    (awaits' : d'.Awaits (s :: streams')) (good : s.isRejected = false) :
    Parallel k d.attend d'.attend ∧ (∃ report, d.attend.1 = some (.ok report)) ∧
      d.attend.2.Awaits streams ∧ d'.attend.2.Awaits streams' := by
  obtain ⟨h, left, attended⟩ := attend_cons awaits
  obtain ⟨h', left', attended'⟩ := attend_cons awaits'
  cases read : s.request? with
  | error e => simp only [Stream.isRejected, read, Bool.true_eq_false] at good
  | ok r =>
    cases mapped : Wall.Content.ofAction r.action with
    | error e => simp only [Stream.isRejected, read, mapped, Bool.true_eq_false] at good
    | ok content =>
      have counted : Ahead k (d.count h) (d'.count h') := by
        refine ⟨ahead.session, ahead.filter, ?_⟩
        simp only [count, ahead.status, Status.mk.injEq, and_true]
        omega
      have served := fulfil_parallel r counted
      obtain ⟨report, done⟩ := fulfil_ok (d := d.count h) mapped
      rw [attended, attended', read]
      refine ⟨⟨congrArg some served.answer, served.ahead⟩, ⟨report, congrArg some done⟩, ?_, ?_⟩
      · exact left.congr (fulfilIn_frame _ r _).1 (fulfilIn_frame _ r _).2
      · exact left'.congr (fulfilIn_frame _ r _).1 (fulfilIn_frame _ r _).2

/-! ## A life -/

inductive Incident where
  | arrive (s : Stream)
  | wake (p : Poll)

/-- What one wake came to: what the client got who was served, if any, and the session then. -/
structure Note where
  result : Option (Except DaemonError Wall.Report)
  session : Session

def Note.isRefusal (n : Note) : Bool :=
  match n.result with
  | some (.error _) => true
  | _ => false

/-- The notes of a life, why it ended, if it did, and the daemon then. -/
structure Life where
  notes : List Note
  reason : Option StopReason
  daemon : Daemon

/-- What the client gets who is served by a wake, if it serves one. -/
def result (p : Poll) (d : Daemon) : Option (Except DaemonError Wall.Report) :=
  if p.readiness.wake = .transfer then d.attend.1 else none

def note_ (p : Poll) (d : Daemon) : Note := ⟨d.result p, (d.turn p).2.session⟩

def live : List Incident → Daemon → Life
  | [], d => ⟨[], none, d⟩
  | .arrive s :: rest, d => live rest (d.arrive s)
  | .wake p :: rest, d =>
    match d.turn p with
    | (some r, d') => ⟨[d.note_ p], some r, d'⟩
    | (none, d') => { live rest d' with notes := d.note_ p :: (live rest d').notes }

/-- The incidents without the clients that are refused and the wakes that serve them, when these
streams wait already. -/
def purge : List Stream → List Incident → List Incident
  | _, [] => []
  | waiting, .arrive s :: rest =>
    if s.isRejected then purge (waiting ++ [s]) rest else .arrive s :: purge (waiting ++ [s]) rest
  | waiting, .wake p :: rest =>
    if p.readiness.wake = .transfer then
      match waiting with
      | [] => .wake p :: purge [] rest
      | s :: waiting => if s.isRejected then purge waiting rest else .wake p :: purge waiting rest
    else .wake p :: purge waiting rest

section Purge

variable {p : Poll} {is : List Incident} {waiting : List Stream}

theorem purge_other (other : p.readiness.wake ≠ .transfer) :
    purge waiting (.wake p :: is) = .wake p :: purge waiting is := by
  cases waiting <;> simp only [purge, if_neg other]

theorem purge_idle : purge [] (.wake p :: is) = .wake p :: purge [] is := by
  simp only [purge, ite_self]

theorem purge_serving (serving : p.readiness.wake = .transfer) :
    purge (s :: waiting) (.wake p :: is) =
      if s.isRejected then purge waiting is else .wake p :: purge waiting is := by
  simp only [purge, if_pos serving]

end Purge

theorem turn_transfer {p : Poll} (serving : p.readiness.wake = .transfer) (d : Daemon) :
    d.turn p = d.attend.2.settle := by
  simp only [turn, act, serving, serve]

/-! ## Two lives -/

/-- The daemon `d'` has seen nobody that is refused. -/
structure Spared (k : Nat) (waiting : List Stream) (d d' : Daemon) : Prop where
  ahead : Ahead k d d'
  settled : d.session.Settled
  awaits : d.Awaits waiting
  awaits' : d'.Awaits (waiting.filter fun s => !s.isRejected)

/-- The life `l'` is `l` without refusals. -/
structure Agrees (k : Nat) (l l' : Life) : Prop where
  reason : l'.reason = l.reason
  notes : l'.notes = l.notes.filter fun n => !n.isRefusal
  ahead : Ahead (k + l.notes.countP Note.isRefusal) l.daemon l'.daemon

/-- A wake that both daemons take alike, and at which nobody is refused. -/
structure Shared (k : Nat) (p : Poll) (waiting : List Stream) (d d' : Daemon) : Prop where
  turned : Parallel k (d.turn p) (d'.turn p)
  same : d.result p = d'.result p
  served : ∀ e, d.result p ≠ some (.error e)
  spared : (d.turn p).1 = none → Spared k waiting (d.turn p).2 (d'.turn p).2

theorem Agrees.wake {p : Poll} {waiting : List Stream} {is is' : List Incident}
    (shared : Shared k p waiting d d')
    (rest : Spared k waiting (d.turn p).2 (d'.turn p).2 →
      Agrees k (live is (d.turn p).2) (live is' (d'.turn p).2)) :
    Agrees k (live (.wake p :: is) d) (live (.wake p :: is') d') := by
  obtain ⟨⟨answer, ahead⟩, same, served, spared⟩ := shared
  have noted : d'.note_ p = d.note_ p := by
    simp only [note_, same, ahead.session]
  have kept : (d.note_ p).isRefusal = false := by
    unfold Note.isRefusal
    split
    · rename_i e refused
      exact absurd refused (served e)
    · rfl
  simp only [live, noted]
  generalize d.turn p = a at answer ahead spared rest ⊢
  generalize d'.turn p = b at answer ahead spared rest ⊢
  obtain ⟨r, d₁⟩ := a
  obtain ⟨r', d₁'⟩ := b
  cases answer
  cases r with
  | some r => exact ⟨rfl, by simp [kept], by simpa [kept] using ahead⟩
  | none =>
    obtain ⟨reason, notes, ahead⟩ := rest (spared rfl)
    exact ⟨reason, by simp [kept, notes], by simpa [kept] using ahead⟩

/-- A wake that refuses somebody of whom the other daemon does not know. -/
theorem Agrees.refuse {p : Poll} {is : List Incident} {l : Life} {e : DaemonError}
    (refused : d.result p = some (.error e)) (went : (d.turn p).1 = none)
    (rest : Agrees (k + 1) (live is (d.turn p).2) l) : Agrees k (live (.wake p :: is) d) l := by
  have counted : (d.note_ p).isRefusal = true := by
    simp only [Note.isRefusal, note_, refused]
  simp only [live]
  generalize d.turn p = a at went rest ⊢
  obtain ⟨r, d₁⟩ := a
  cases went
  obtain ⟨reason, notes, ahead⟩ := rest
  refine ⟨reason, by simp [counted, notes], ?_⟩
  rw [List.countP_cons_of_pos counted, ← Nat.add_assoc, Nat.add_right_comm]
  exact ahead

/-- After a wake that does not end it, the daemon is settled. -/
theorem settled_of_turn {p : Poll} (went : (d.turn p).1 = none) :
    (d.turn p).2.session.Settled := by
  simp only [turn] at went ⊢
  split at went
  · cases went
  · exact settled_of_settle (Prod.ext went rfl)

theorem awaits_turn {p : Poll} (other : p.readiness.wake ≠ .transfer)
    (awaits : d.Awaits streams) : (d.turn p).2.Awaits streams :=
  awaits.congr (turn_frame other d).1 (turn_frame other d).2

theorem awaits_settle (awaits : d.Awaits streams) : d.settle.2.Awaits streams :=
  awaits.congr (settle_frame d).1 (settle_frame d).2

/-- With nobody to serve, a settled daemon wakes for nothing. -/
theorem turn_idle {p : Poll} (serving : p.readiness.wake = .transfer)
    (settled : d.session.Settled) (awaits : d.Awaits []) :
    d.result p = none ∧ d.turn p = (none, d) := by
  rw [result, if_pos serving, turn_transfer serving, attend_nil awaits]
  exact ⟨rfl, settle_of_settled settled⟩

theorem turn_rejected {p : Poll} (serving : p.readiness.wake = .transfer)
    (settled : d.session.Settled) (awaits : d.Awaits (s :: streams)) (bad : s.isRejected = true) :
    ∃ e : DaemonError, d.result p = some (.error e) ∧ e.errorClass = .request ∧
      (d.turn p).1 = none ∧ Ahead 1 (d.turn p).2 d ∧ (d.turn p).2.Awaits streams := by
  obtain ⟨e, refused, request, ahead, left⟩ := attend_rejected awaits settled.log bad
  have still : d.attend.2.session.Settled := ahead.session ▸ settled
  rw [result, if_pos serving, turn_transfer serving, settle_of_settled still]
  exact ⟨e, refused, request, rfl, ahead, left⟩

namespace Spared

variable {waiting : List Stream}

theorem settled' (spared : Spared k waiting d d') : d'.session.Settled :=
  spared.ahead.session ▸ spared.settled

theorem arrive (spared : Spared k waiting d d') (s : Stream) :
    Spared k (waiting ++ [s]) (d.arrive s) (if s.isRejected then d' else d'.arrive s) := by
  obtain ⟨ahead, settled, awaits, awaits'⟩ := spared
  cases bad : s.isRejected with
  | true =>
    refine ⟨⟨ahead.session, ahead.filter, ahead.status⟩, settled, awaits.arrive s, ?_⟩
    simpa [List.filter_append, bad] using awaits'
  | false =>
    refine ⟨⟨ahead.session, ahead.filter, ahead.status⟩, settled, awaits.arrive s, ?_⟩
    simpa [List.filter_append, bad] using awaits'.arrive s

theorem wake_idle {p : Poll} (serving : p.readiness.wake = .transfer)
    (spared : Spared k [] d d') : Shared k p [] d d' := by
  obtain ⟨silent, turned⟩ := turn_idle serving spared.settled spared.awaits
  obtain ⟨silent', turned'⟩ := turn_idle serving spared.settled' spared.awaits'
  refine ⟨?_, silent.trans silent'.symm, by simp [silent], fun _ => ?_⟩
  · rw [turned, turned']
    exact ⟨rfl, spared.ahead⟩
  · rw [turned, turned']
    exact spared

/-- A client is refused that the other daemon never sees. -/
theorem wake_rejected {p : Poll} (serving : p.readiness.wake = .transfer)
    (spared : Spared k (s :: waiting) d d') (bad : s.isRejected = true) :
    ∃ e, d.result p = some (.error e) ∧ (d.turn p).1 = none ∧
      Spared (k + 1) waiting (d.turn p).2 d' := by
  obtain ⟨e, refused, _, went, ahead, left⟩ :=
    turn_rejected serving spared.settled spared.awaits bad
  have awaits' := spared.awaits'
  rw [List.filter_cons_of_neg (by simp [bad])] at awaits'
  refine ⟨e, refused, went, ?_, settled_of_turn went, left, awaits'⟩
  rw [Nat.add_comm]
  exact ahead.trans spared.ahead

theorem wake_accepted {p : Poll} (serving : p.readiness.wake = .transfer)
    (spared : Spared k (s :: waiting) d d') (good : s.isRejected = false) :
    Shared k p waiting d d' := by
  have awaits' := spared.awaits'
  rw [List.filter_cons_of_pos (by simp [good])] at awaits'
  obtain ⟨served, ⟨report, done⟩, left, left'⟩ :=
    attend_accepted spared.ahead spared.awaits awaits' good
  have turned : Parallel k (d.turn p) (d'.turn p) := by
    rw [turn_transfer serving, turn_transfer serving]
    exact settle_parallel served.ahead
  refine ⟨turned, ?_, ?_, fun went => ⟨turned.ahead, settled_of_turn went, ?_, ?_⟩⟩
  · rw [result, result, if_pos serving, if_pos serving, served.answer]
  · simp [result, serving, done]
  · rw [turn_transfer serving]
    exact awaits_settle left
  · rw [turn_transfer serving]
    exact awaits_settle left'

theorem wake_other {p : Poll} (other : p.readiness.wake ≠ .transfer)
    (spared : Spared k waiting d d') : Shared k p waiting d d' := by
  have turned := turn_parallel (act_parallel other spared.ahead)
  refine ⟨turned, ?_, ?_, fun went => ⟨turned.ahead, settled_of_turn went, ?_, ?_⟩⟩
  · rw [result, result, if_neg other, if_neg other]
  · simp [result, other]
  · exact awaits_turn other spared.awaits
  · exact awaits_turn other spared.awaits'

theorem live_purge {is : List Incident} (spared : Spared k waiting d d') :
    Agrees k (live is d) (live (purge waiting is) d') := by
  -- By induction on the incidents, wake by wake.
  induction is generalizing k waiting d d' with
  | nil =>
    simp only [live, purge]
    exact ⟨rfl, rfl, spared.ahead⟩
  | cons i is ih =>
    cases i with
    | arrive s =>
      have arrived := spared.arrive s
      simp only [live, purge]
      split at arrived
      · rename_i bad
        rw [if_pos bad]
        exact ih arrived
      · rename_i good
        rw [if_neg good]
        exact ih arrived
    | wake p =>
      by_cases serving : p.readiness.wake = .transfer
      · cases waiting with
        | nil =>
          rw [purge_idle]
          exact .wake (spared.wake_idle serving) ih
        | cons s waiting =>
          rw [purge_serving serving]
          cases bad : s.isRejected with
          | true =>
            obtain ⟨e, refused, went, spared'⟩ := spared.wake_rejected serving bad
            exact .refuse refused went (ih spared')
          | false => exact .wake (spared.wake_accepted serving bad) ih
      · rw [purge_other serving]
        exact .wake (spared.wake_other serving) ih

end Spared

/-! ## All lives -/

/-- A daemon between two wakes. -/
structure Resting (d : Daemon) : Prop where
  settled : d.session.Settled
  awaits : ∃ waiting, d.Awaits waiting

/-- Whatever a wake is for, the daemon then ends or rests; whom it refuses, it refuses at the price
of two counts. -/
theorem Resting.turn {p : Poll} (rests : d.Resting) :
    ((d.turn p).1 = none → (d.turn p).2.Resting) ∧
      ∀ e, d.result p = some (.error e) →
        e.errorClass = .request ∧ (d.turn p).1 = none ∧ Ahead 1 (d.turn p).2 d := by
  obtain ⟨settled, waiting, awaits⟩ := rests
  by_cases serving : p.readiness.wake = .transfer
  · cases waiting with
    | nil =>
      obtain ⟨silent, turned⟩ := turn_idle serving settled awaits
      rw [silent, turned]
      exact ⟨fun _ => ⟨settled, [], awaits⟩, fun _ h => (nomatch h)⟩
    | cons s waiting =>
      cases bad : s.isRejected with
      | true =>
        obtain ⟨e, refused, request, went, ahead, left⟩ := turn_rejected serving settled awaits bad
        refine ⟨fun _ => ⟨settled_of_turn went, waiting, left⟩, fun e' h => ?_⟩
        cases refused.symm.trans h
        exact ⟨request, went, ahead⟩
      | false =>
        obtain ⟨_, ⟨report, done⟩, left, _⟩ := attend_accepted (.refl d) awaits awaits bad
        refine ⟨fun went => ⟨settled_of_turn went, waiting, ?_⟩, fun e h => ?_⟩
        · rw [turn_transfer serving]
          exact awaits_settle left
        · rw [result, if_pos serving, done] at h
          cases h
  · refine ⟨fun went => ⟨settled_of_turn went, waiting, awaits_turn serving awaits⟩, fun e h => ?_⟩
    rw [result, if_neg serving] at h
    cases h

theorem Resting.live {is : List Incident} (rests : d.Resting)
    (lives : (live is d).reason = none) : (Daemon.live is d).daemon.Resting := by
  induction is generalizing d with
  | nil => exact rests
  | cons i is ih =>
    cases i with
    | arrive s =>
      obtain ⟨settled, waiting, awaits⟩ := rests
      exact ih ⟨settled, waiting ++ [s], awaits.arrive s⟩ lives
    | wake p =>
      have turned := (rests.turn (p := p)).1
      simp only [Daemon.live] at lives ⊢
      generalize d.turn p = a at turned lives ⊢
      obtain ⟨r, d₁⟩ := a
      cases r with
      | some r => cases lives
      | none => exact ih (turned rfl) lives

/-- A start, up to the first wait, if it comes to that. -/
def firstWait (l : Launch) (h : Host) : Option Daemon :=
  match start l h with
  | .error _ => none
  | .ok d =>
    match d.announce.settle with
    | (none, d) => some d
    | (some _, _) => none

theorem firstWait_resting {l : Launch} {h : Host} (started : firstWait l h = some d) :
    d.session.Settled ∧ d.Awaits [] := by
  unfold firstWait at started
  split at started
  · cases started
  · rename_i d₀ opened
    split at started <;> cases started
    rename_i settled
    have kept : d₀.announce.settle.2.Awaits [] :=
      awaits_settle ((awaits_start opened).congr rfl rfl)
    rw [settled] at kept
    exact ⟨settled_of_settle settled, kept⟩

/-- Clients that are refused do not disturb this life. -/
structure Undisturbed (is : List Incident) (d : Daemon) : Prop where
  /-- To refuse a client ends nothing, leaves the session as it is, and costs two counts. -/
  refused : ∀ before p after e, is = before ++ .wake p :: after → (live before d).reason = none →
    (live before d).daemon.result p = some (.error e) →
      e.errorClass = .request ∧ e.isFatal = false ∧ ((live before d).daemon.turn p).1 = none ∧
        Ahead 1 ((live before d).daemon.turn p).2 (live before d).daemon
  /-- A request that cannot be applied calls nothing, whatever the display server is like. -/
  uncalled : ∀ display (r : Wire.Request) filter (stage stage' : Wall.Stage) e,
    stage.handle display r filter = (.error e, stage') → stage' = stage
  /-- Without the clients that are refused it is the same life. -/
  purged : Agrees 0 (live is d) (live (purge [] is) d)

theorem undisturbed_of_started {l : Launch} {h : Host} (started : firstWait l h = some d)
    (is : List Incident) : Undisturbed is d := by
  obtain ⟨settled, awaits⟩ := firstWait_resting started
  refine ⟨?_, fun _ _ _ _ _ _ => Wall.Stage.handle_error, ?_⟩
  · rintro before p after e rfl lives refused
    have rests : (live before d).daemon.Resting := Resting.live ⟨settled, [], awaits⟩ lives
    obtain ⟨request, went, ahead⟩ := rests.turn.2 e refused
    exact ⟨request, by simp only [DaemonError.isFatal, request], went, ahead⟩
  · exact Spared.live_purge ⟨.refl d, settled, awaits, awaits⟩

/-- A display server with all that is needed, and one monitor. -/
def opening : Launch :=
  let announced : List Session.Message :=
    [.event (.global 1 "wl_compositor" 4), .event (.global 2 "wl_shm" 1),
      .event (.global 3 "zwlr_layer_shell_v1" 2), .event (.global 4 "wl_output" 4)]
  ⟨⟨[]⟩, .ok (.messages announced, .messages []), .nearest⟩

/-- A client that stops after three bytes, one that says nothing, a monitor that gets its size, and
a client that asks for all pictures to be taken away. -/
def heckled : List Incident :=
  let serving : Poll := ⟨{ Readiness.none with transfer := true }, "", []⟩
  let configured : Poll :=
    ⟨{ Readiness.none with displayIn := true }, "", [.event (.configure 0 1 ⟨1, 1⟩)]⟩
  let sent (bytes : List UInt8) : Stream :=
    { Stream.open_ with queue := [⟨bytes, []⟩], writerOpen := false }
  [.arrive (sent [1, 2, 3]), .arrive Stream.open_, .wake serving,
    .arrive (sent (List.replicate 16 0)), .wake configured, .wake serving, .wake serving]

theorem undisturbed_heckled :
    ∃ d, firstWait opening (.ofTree (.bare [])) = some d ∧ Undisturbed heckled d ∧
      (purge [] heckled).length = 3 := by
  have starts : (firstWait opening (.ofTree (.bare []))).isSome = true := by decide
  obtain ⟨d, started⟩ := Option.isSome_iff_exists.mp starts
  exact ⟨d, started, undisturbed_of_started started heckled, by decide +kernel⟩

end Daemon
end Backdrop
