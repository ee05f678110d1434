import Mathlib
import Backdrop.Proofs.Daemon.Course
import Backdrop.Proofs.Daemon.Rejection
import Backdrop.Proofs.Wall.Verdict

/-!
# Backdrop.Proofs.Daemon.Tally

The counters tell the truth.

* `Session.attached` is how often a session has asked for a frame to be attached, sent or not.
* `Service.cleared` and `Service.barred` say what one service should have counted, told from the
  wall as the service found it.
* `Tallied services d d'`: between the two daemons the counters have grown by what the services
  between them amount to.
* `truthful_course`: this holds of a daemon from its start to its end, whatever its rounds meet.
-/

namespace Backdrop

namespace Session

def Request.isAttach : Request → Bool
  | .attach .. => true
  | _ => false

/-- How often a frame was attached. -/
def attached (s : Session) : Nat := (s.sent ++ s.queued).countP Request.isAttach

/-! ## Requests of the wall -/

theorem attached_pushAll (s : Session) (rs : List Request) :
    (s.pushAll rs).attached = s.attached + rs.countP Request.isAttach := by
  simp only [attached, pushAll_eq, ← List.append_assoc, List.countP_append]

theorem attached_remember (s : Session) (c : Wall.Call) : (s.remember c).attached = s.attached := by
  cases c <;> rfl

theorem attached_emit (s : Session) (c : Wall.Call) :
    (s.emit c).attached = s.attached + (s.requestsOf c).countP Request.isAttach := by
  rw [emit, attached_remember, attached_pushAll]

theorem countP_requestsOf {c : Wall.Call} (kind : c.kind ≠ .attach) (s : Session) :
    (s.requestsOf c).countP Request.isAttach = 0 := by
  cases c with
  | attach => exact absurd rfl kind
  | createSurface | allocate | free =>
    simp only [requestsOf]
    split <;> rfl
  | _ => rfl

/-- Memory that was given has a buffer. -/
theorem bufferOf_allocated (s : Session) (f : Wall.FrameId) (size : Extent) :
    (s.emit (.allocate f size)).bufferOf f ≠ none := by
  have inserted := Table.find?_insert_self
    (s.pushAll (s.requestsOf (.allocate f size))).buffers
    (s.pushAll (s.requestsOf (.allocate f size))).nextBuffer f
  have listed := Table.find?_eq_some_iff.mp inserted
  intro none
  have absent := List.find?_eq_none.mp (Option.map_eq_none_iff.mp none)
  exact absent _ listed (beq_self_eq_true f)

/-- As many frames are attached as the wall has called for, if there is memory for each. -/
theorem attached_foldl_emit {cs : List Wall.Call} {last : Option Wall.FrameId} {s : Session}
    (supplied : Wall.Supplied last cs) (given : ∀ f, last = some f → s.bufferOf f ≠ none) :
    (cs.foldl emit s).attached = s.attached + cs.countP Wall.Call.isAttach := by
  induction cs generalizing last s with
  | nil => rfl
  | cons c cs ih =>
    have nothing : ∀ f, none = some f → (s.emit c).bufferOf f ≠ none := nofun
    have count := attached_emit s c
    rw [List.foldl_cons]
    cases c with
    | allocate f size =>
      have known : ∀ f', some f = some f' → (s.emit (.allocate f size)).bufferOf f' ≠ none := by
        rintro f' ⟨⟩
        exact bufferOf_allocated s f size
      rw [ih supplied known, count, countP_requestsOf (by simp [Wall.Call.kind]) s]
      rfl
    | attach surface f scale size pixels =>
      obtain ⟨given_now, supplied⟩ := supplied
      obtain ⟨b, known⟩ := Option.ne_none_iff_exists'.mp (given f given_now)
      have one :
          (s.requestsOf (.attach surface f scale size pixels)).countP Request.isAttach = 1 := by
        simp only [requestsOf, known]
        rfl
      rw [ih supplied nothing, count, one, List.countP_cons_of_pos rfl]
      omega
    | _ =>
      rw [ih supplied nothing, count, countP_requestsOf (by simp [Wall.Call.kind]) s]
      rfl

theorem attached_onWall {α : Type} {n : Nat} {f : Wall.Stage → α × Wall.Stage} {s : Session}
    (attaches : Wall.Attaches n ⟨s.wall, [], []⟩ (f ⟨s.wall, [], []⟩).2) :
    (s.onWall f).2.attached = s.attached + n := by
  obtain ⟨cs, calls, supplied, count⟩ := attaches
  simp only [onWall, calls, List.nil_append]
  rw [attached_foldl_emit supplied (by simp), count]
  rfl

theorem attached_changeWall {f : Wall.Stage → Wall.Stage} {s : Session}
    (attaches : Wall.Attaches 0 ⟨s.wall, [], []⟩ (f ⟨s.wall, [], []⟩)) :
    (s.changeWall f).attached = s.attached := by
  have unchanged : (s.onWall fun st => ((), f st)).2.attached = s.attached + 0 :=
    attached_onWall attaches
  exact unchanged

/-- Nothing but a request for pictures attaches a frame. -/
theorem attached_perform (d : Wall.Display) (op : Wall.Operation)
    (without : .attach ∉ op.repertoire) (s : Session) :
    (s.changeWall fun st => (st.perform d op).2).attached = s.attached :=
  attached_changeWall (.of_made (Wall.perform_made d op _) without)

/-! ## Events -/

theorem attached_createMissing (s : Session) : s.createMissing.attached = s.attached :=
  attached_perform s.display .createMissing (by simp) s

theorem attached_push {r : Request} (other : r.isAttach = false) (s : Session) :
    (s.push r).attached = s.attached := by
  have pushed := attached_pushAll s [r]
  rwa [List.countP_singleton, other] at pushed

theorem attached_bind (i : Interface) (name : UInt32) (s : Session) :
    (s.bind i name).attached = s.attached := by
  have global : ∀ j number g c, (s.bindGlobal j name number g c).attached = s.attached :=
    fun j number g c => (attached_createMissing _).trans (attached_push rfl s)
  cases i with
  | output =>
    refine (attached_changeWall ?_).trans (attached_push (r := .bind name .output _) rfl s)
    exact .of_made (Wall.perform_made _ (.insert _ name _) _) (by simp)
  | compositor | shm | layerShell => exact global _ _ _ _

theorem attached_dispatch (s : Session) (e : Event) : (s.dispatch e).attached = s.attached := by
  cases e with
  | global name interface version =>
    simp only [dispatch, announce]
    split
    · rfl
    · split
      · rfl
      · exact attached_bind _ name s
  | globalRemove name => exact attached_perform s.display (.removeGlobal name) (by simp) s
  | mode n flags mode =>
    simp only [dispatch]
    split
    · exact attached_perform s.display (.setMode n mode) (by simp) s
    · rfl
  | scale n factor => exact attached_perform s.display (.setScale n factor) (by simp) s
  | name n text => exact attached_perform s.display (.setLabel n text) (by simp) s
  | done n => exact attached_perform s.display (.done n) (by simp) s
  | configure n serial size =>
    simp only [dispatch, onLayer]
    split
    · rfl
    · exact attached_perform s.display (.configure _ serial size) (by simp) s
  | closed n =>
    simp only [dispatch, onLayer]
    split
    · rfl
    · exact attached_perform s.display (.closed _) (by simp) s
  | release n =>
    simp only [dispatch]
    split
    · rfl
    · exact attached_perform s.display (.released _) (by simp) s
  | other => rfl

theorem attached_dispatchAll (es : List Event) (s : Session) :
    (s.dispatchAll es).attached = s.attached := by
  induction es generalizing s with
  | nil => rfl
  | cons e es ih => exact (ih (s.dispatch e)).trans (attached_dispatch s e)

/-! ## Sending -/

theorem attached_sent (s : Session) :
    ({ s with sent := s.sent ++ s.queued, queued := [] } : Session).attached = s.attached := by
  simp only [attached, List.append_nil]

theorem attached_flush {s s' : Session} (flushed : s.flush = .ok s') :
    s'.attached = s.attached := by
  unfold flush at flushed
  split at flushed <;> cases flushed
  exact attached_sent s

theorem attached_sendFirst (n : Nat) (s : Session) : (s.sendFirst n).attached = s.attached := by
  simp only [attached, sendFirst, List.append_assoc, List.take_append_drop]

theorem attached_roundtrip (callback : Nat) (g : Greeting) (s : Session) :
    (s.roundtrip callback g).2.attached = s.attached := by
  have asked : ({ s.push (.sync callback) with
      sent := (s.push (.sync callback)).sent ++ (s.push (.sync callback)).queued,
      queued := [] } : Session).attached = s.attached :=
    (attached_sent _).trans (attached_push rfl s)
  cases g with
  | hangup => exact asked
  | messages ms =>
    simp only [roundtrip]
    split
    · exact asked
    · split
      · exact (attached_dispatchAll _ _).trans asked
      · exact (attached_dispatchAll _ _).trans asked

/-- No frame is attached in the handshake. -/
theorem attached_handshake {first second : Greeting} {s : Session}
    (greeted : handshake first second = (.ok (), s)) : s.attached = 0 := by
  have one := attached_roundtrip 0 first (fresh.push .getRegistry)
  unfold handshake at greeted
  split at greeted
  · cases greeted
  · rename_i s₁ asked
    rw [asked] at one
    have two := attached_roundtrip 1 second s₁
    split at greeted
    · cases greeted
    · split at greeted <;> cases greeted
      rename_i s₂ answered
      rw [answered] at two
      exact (attached_createMissing s₂).trans (two.trans one)

theorem attached_shutdown (s : Session) : s.shutdown.attached = s.attached := by
  have torn : (s.changeWall Wall.Stage.shutdown).attached = s.attached :=
    attached_perform s.display .shutdown (by simp) s
  simp only [shutdown]
  split
  · rename_i s' flushed
    exact (attached_flush flushed).trans torn
  · exact torn

end Session

namespace Daemon

variable {d d' d'' : Daemon} {r : Round} {a : Arrival}

/-! ## What one service amounts to -/

namespace Service

/-- How the display server answered the wall. -/
def display (s : Service) : Wall.Display := s.daemon.session.displayIn s.scarcity

/-- The target and the content that were applied to the wall. -/
def applied? (s : Service) : Option (Option String × Wall.Content) :=
  match s.request with
  | .error _ => none
  | .ok r => ((Wall.Content.ofAction r.action).toOption).map fun c => (r.target, c)

/-- The monitors that had a surface when their pictures were taken away. -/
def cleared (s : Service) : Nat :=
  match s.applied? with
  | some (target, .clear) =>
    (s.daemon.session.wall.meant target).countP fun e => e.2.surface.isSome
  | _ => 0

/-- The monitors that might be drawn on and got no frame, since there was no memory for it or the
picture could not be scaled. -/
def barred (s : Service) : Nat :=
  match s.applied? with
  | some (target, .image pixels extent) =>
    (s.daemon.session.wall.due target (.image pixels extent)).countP fun e =>
      e.2.2.phase.isDrawable && e.2.2.isBarred s.display pixels extent s.daemon.filter e.1
  | _ => 0

/-- What must come of the monitors when this is applied to the wall. -/
def verdicts (s : Service) (target : Option String) (content : Wall.Content) : List Wall.Verdict :=
  s.daemon.session.wall.verdicts s.display target content s.daemon.filter

/-- What the client is told adds up to the monitors that its request means. -/
structure Sums (s : Service) : Prop where
  applied_iff : s.applied? ≠ none ↔ ∃ report, s.answer = .ok report
  sum : ∀ report, s.answer = .ok report →
    report.drawn + report.cleared + report.skipped + report.failed = report.matched
  matched : ∀ report target content, s.answer = .ok report → s.applied? = some (target, content) →
    report.matched = (s.daemon.session.wall.meant target).length

end Service

theorem count_verdicts (display : Wall.Display) (target : Option String) (content : Wall.Content)
    (filter : Filter) (w : Wall) (v : Wall.Verdict) :
    (w.verdicts display target content filter).count v =
      (w.due target content).countP fun e =>
        e.2.2.verdict display content filter e.1 == v := by
  rw [Wall.verdicts, List.count_eq_countP, List.countP_map]
  rfl

theorem count_cleared (display : Wall.Display) (target : Option String) (filter : Filter)
    (w : Wall) :
    (w.verdicts display target .clear filter).count .cleared =
        (w.meant target).countP (fun e => e.2.surface.isSome) ∧
      (w.verdicts display target .clear filter).count .failed = 0 := by
  rw [count_verdicts, count_verdicts, ← Wall.map_due w target .clear, List.countP_map]
  refine ⟨List.countP_congr fun e _ => ?_, List.countP_eq_zero.mpr fun e _ => ?_⟩
  · simp only [Wall.Monitor.verdict, Function.comp_apply]
    cases e.2.2.surface <;> simp
  · simp only [Wall.Monitor.verdict]
    cases e.2.2.surface <;> simp

theorem count_failed (display : Wall.Display) (target : Option String) (pixels : Array UInt8)
    (extent : Extent) (filter : Filter) (w : Wall) :
    (w.verdicts display target (.image pixels extent) filter).count .failed =
        (w.due target (.image pixels extent)).countP (fun e =>
          e.2.2.phase.isDrawable && e.2.2.isBarred display pixels extent filter e.1) ∧
      (w.verdicts display target (.image pixels extent) filter).count .cleared = 0 := by
  rw [count_verdicts, count_verdicts]
  refine ⟨List.countP_congr fun e _ => ?_, List.countP_eq_zero.mpr fun e _ => ?_⟩
  · simp only [Wall.Monitor.verdict]
    cases e.2.2.phase.isDrawable <;> cases e.2.2.isBarred display pixels extent filter e.1 <;>
      cases e.2.2.surface <;> simp
  · simp only [Wall.Monitor.verdict]
    cases e.2.2.phase.isDrawable <;> cases e.2.2.isBarred display pixels extent filter e.1 <;>
      cases e.2.2.surface <;> simp

/-- Between the daemons the counters have grown by what the services amount to. -/
structure Tallied (services : List Service) (d d' : Daemon) : Prop where
  requests : d'.status.requests = d.status.requests + services.length
  /-- Whatever is not rejected is applied. -/
  rejected : d'.status.rejected + services.countP (·.applied?.isSome) =
    d.status.rejected + services.length
  frames : d'.status.framesDrawn + d.session.attached =
    d.status.framesDrawn + d'.session.attached
  clears : d'.status.clears = d.status.clears + (services.map Service.cleared).sum
  failures : d'.status.monitorFailures =
    d.status.monitorFailures + (services.map Service.barred).sum
  sums : ∀ s ∈ services, s.Sums

namespace Tallied

variable {services services' : List Service}

theorem unserved (status : d'.status = d.status)
    (attached : d'.session.attached = d.session.attached) : Tallied [] d d' where
  requests := by rw [status]; rfl
  rejected := by rw [status]; rfl
  frames := by rw [status, attached]
  clears := by rw [status]; rfl
  failures := by rw [status]; rfl
  sums := fun _ h => nomatch h

theorem trans (first : Tallied services d d') (second : Tallied services' d' d'') :
    Tallied (services ++ services') d d'' where
  requests := by
    rw [second.requests, first.requests, List.length_append, Nat.add_assoc]
  rejected := by
    have := first.rejected
    have := second.rejected
    rw [List.countP_append, List.length_append]
    omega
  frames := by
    have := first.frames
    have := second.frames
    omega
  clears := by
    rw [second.clears, first.clears, List.map_append, List.sum_append, Nat.add_assoc]
  failures := by
    rw [second.failures, first.failures, List.map_append, List.sum_append, Nat.add_assoc]
  sums := by
    intro s hs
    rcases List.mem_append.mp hs with h | h
    · exact first.sums s h
    · exact second.sums s h

end Tallied

/-! ## One service -/

theorem fulfilIn_applied {request : Wire.Request} {content : Wall.Content}
    (mapped : Wall.Content.ofAction request.action = .ok content) (scarcity : Session.Scarcity)
    (d : Daemon) :
    let vs := d.session.wall.verdicts (d.session.displayIn scarcity) request.target content d.filter
    (d.fulfilIn scarcity request).1 = .ok (.ofVerdicts vs) ∧
      (d.fulfilIn scarcity request).2.status = d.status.record (.ofVerdicts vs) ∧
      (d.fulfilIn scarcity request).2.session.attached =
        d.session.attached + vs.count .drawn := by
  intro vs
  obtain ⟨report, attaches⟩ := Wall.apply_verdicts (d.session.displayIn scarcity) request.target
    content d.filter ⟨d.session.wall, [], []⟩
  let f := Wall.Stage.handle (d.session.displayIn scarcity) request d.filter
  have answer : (Session.onWall f { d.session with log := [] }).1 = .ok (.ofVerdicts vs) := by
    simp only [f, Session.onWall, Wall.Stage.handle, mapped, report]
    rfl
  have attached : (Session.onWall f { d.session with log := [] }).2.attached =
      d.session.attached + vs.count .drawn := by
    refine Session.attached_onWall (s := { d.session with log := [] }) ?_
    simp only [f, Wall.Stage.handle, mapped]
    exact attaches
  simp only [fulfilIn, onSession]
  change (Session.onWall f { d.session with log := [] }).1 = _ at answer
  generalize outcome : Session.onWall f { d.session with log := [] } = applied at answer attached
  obtain ⟨a, s⟩ := applied
  cases answer
  rw [show Session.onWall _ { d.session with log := [] } = (.ok (.ofVerdicts vs), s) from outcome]
  exact ⟨rfl, rfl, attached⟩

/-- A request that cannot be applied is rejected, and nothing else happens. -/
theorem fulfilIn_refused {request : Wire.Request} {e : TransferError}
    (mapped : Wall.Content.ofAction request.action = .error e) (scarcity : Session.Scarcity)
    (d : Daemon) :
    (∃ e, (d.fulfilIn scarcity request).1 = .error e) ∧
      (d.fulfilIn scarcity request).2.status =
        { d.status with rejected := d.status.rejected + 1 } ∧
      (d.fulfilIn scarcity request).2.session.attached = d.session.attached := by
  have refused : Wall.Stage.handle (({ d.session with log := [] } : Session).displayIn scarcity)
      request d.filter ⟨d.session.wall, [], []⟩ = (.error e, ⟨d.session.wall, [], []⟩) := by
    simp only [Wall.Stage.handle, mapped]
  simp only [fulfilIn, onSession,
    Session.onWall_same (s := { d.session with log := [] }) refused]
  exact ⟨⟨_, rfl⟩, rfl, rfl⟩

theorem Tallied.refused {s : Service} (nothing : s.applied? = none)
    (refused : ∃ e, s.answer = .error e)
    (status : d'.status = { d.status with
      requests := d.status.requests + 1, rejected := d.status.rejected + 1 })
    (attached : d'.session.attached = d.session.attached) : Tallied [s] d d' where
  requests := by rw [status]; rfl
  rejected := by rw [status]; simp [nothing]
  frames := by rw [status, attached]
  clears := by rw [status]; simp [Service.cleared, nothing]
  failures := by rw [status]; simp [Service.barred, nothing]
  sums := by
    intro s' hs
    cases List.mem_singleton.mp hs
    obtain ⟨e, refused⟩ := refused
    refine ⟨?_, ?_, ?_⟩
    · simp [nothing, refused]
    · intro report h
      rw [refused] at h
      cases h
    · intro report _ _ h
      rw [refused] at h
      cases h

/-- What one service should have counted, told from its verdicts. -/
theorem Service.counts {target : Option String} {content : Wall.Content} (s : Service)
    (applied : s.applied? = some (target, content)) :
    s.cleared = (s.verdicts target content).count .cleared ∧
      s.barred = (s.verdicts target content).count .failed := by
  simp only [cleared, barred, applied, verdicts]
  cases content with
  | clear =>
    obtain ⟨cleared, failed⟩ := count_cleared s.display target s.daemon.filter _
    exact ⟨cleared.symm, failed.symm⟩
  | image pixels extent =>
    obtain ⟨failed, cleared⟩ := count_failed s.display target pixels extent s.daemon.filter _
    exact ⟨cleared.symm, failed.symm⟩

theorem Service.length_verdicts (s : Service) (target : Option String) (content : Wall.Content) :
    (s.verdicts target content).length = (s.daemon.session.wall.meant target).length := by
  rw [verdicts, Wall.verdicts, ← Wall.map_due _ target content]
  simp only [List.length_map]

theorem Tallied.applied {s : Service} {target : Option String} {content : Wall.Content}
    (applied : s.applied? = some (target, content))
    (answer : s.answer = .ok (.ofVerdicts (s.verdicts target content)))
    (status : d'.status = ({ d.status with requests := d.status.requests + 1 } : Status).record
      (.ofVerdicts (s.verdicts target content)))
    (attached : d'.session.attached =
      d.session.attached + (s.verdicts target content).count .drawn) :
    Tallied [s] d d' where
  requests := by rw [status]; rfl
  rejected := by rw [status]; simp [applied, Status.record]
  frames := by
    rw [status, attached]
    simp only [Status.record, Wall.Report.ofVerdicts]
    omega
  clears := by
    rw [status, List.map_singleton, List.sum_singleton, (s.counts applied).1]
    rfl
  failures := by
    rw [status, List.map_singleton, List.sum_singleton, (s.counts applied).2]
    rfl
  sums := by
    intro s' hs
    cases List.mem_singleton.mp hs
    refine ⟨?_, ?_, ?_⟩
    · simp [applied, answer]
    · intro report h
      cases answer.symm.trans h
      exact Wall.Report.served_ofVerdicts _
    · intro report target' content' h same
      cases answer.symm.trans h
      cases applied.symm.trans same
      exact s.length_verdicts target content

/-- What one service adds to the counters. -/
theorem attendIn_tallied {scarcity : Session.Scarcity} {s : Service}
    (served : d.service? scarcity = some s) : Tallied [s] d (d.attendIn scarcity).2 := by
  unfold service? at served
  cases one : d.server.serveOne { d.host with log := [] } with
  | none => simp [one] at served
  | some answered =>
    obtain ⟨request, h⟩ := answered
    have attended : d.attendIn scarcity = _ := attendIn_of_some one
    cases answer : (d.attendIn scarcity).1 with
    | none => simp [one, answer] at served
    | some result =>
      simp only [one, answer, Option.some.injEq] at served
      subst served
      cases request with
      | error e =>
        rw [attended] at answer ⊢
        cases answer
        exact .refused rfl ⟨e, rfl⟩ rfl rfl
      | ok request =>
        rw [attended] at answer ⊢
        have result_eq : ((d.count h).fulfilIn scarcity request).1 = result :=
          Option.some.inj answer
        cases mapped : Wall.Content.ofAction request.action with
        | error e =>
          obtain ⟨⟨e', refused⟩, status, attached⟩ := fulfilIn_refused mapped scarcity (d.count h)
          have nothing : (⟨d, scarcity, .ok request, result⟩ : Service).applied? = none := by
            simp [Service.applied?, mapped, Except.toOption]
          exact .refused nothing ⟨e', result_eq.symm.trans refused⟩ status attached
        | ok content =>
          obtain ⟨done, status, attached⟩ := fulfilIn_applied mapped scarcity (d.count h)
          have some_applied : (⟨d, scarcity, .ok request, result⟩ : Service).applied? =
              some (request.target, content) := by
            simp [Service.applied?, mapped, Except.toOption]
          exact .applied some_applied (result_eq.symm.trans done) status attached

/-! ## A round, and rounds -/

theorem attached_armed (r : Round) (d : Daemon) :
    (armed r d).session.attached = d.session.attached := by
  have dispatched : ∀ d : Daemon, (d.dispatchQueue r).2.session.attached = d.session.attached := by
    intro d
    unfold dispatchQueue
    split
    · exact Session.attached_dispatchAll _ _
    · exact Session.attached_dispatchAll _ _
  have sent : ∀ d : Daemon, (d.sendQueue r).2.session.attached = d.session.attached := by
    intro d
    unfold sendQueue
    split
    · exact Session.attached_sendFirst _ _
    · split
      · rename_i s flushed
        exact Session.attached_flush flushed
      · rfl
  have entered := dispatched (d.enter r)
  unfold armed prepare
  split <;> rename_i d₁ went <;> rw [went] at entered
  · exact entered
  · split
    · exact entered
    · exact (sent d₁).trans entered

theorem attached_react (scarcity : Session.Scarcity) (other : a.readiness.wake ≠ .transfer)
    (d : Daemon) : (d.react scarcity a).2.session.attached = d.session.attached := by
  have acted : ∀ p : Poll, p.readiness.wake ≠ .transfer →
      (d.act p).2.session.attached = d.session.attached := by
    intro p other
    unfold act
    split
    · rfl
    · rfl
    · rfl
    · unfold read
      split <;> rfl
    · contradiction
    · rfl
  rw [react, if_neg other]
  split
  · exact acted _ other
  · split
    · rfl
    · exact acted _ other

theorem attached_pass_unserved (unclear : ∀ a, ¬ Clear r d a) :
    (d.pass r).daemon.session.attached = d.session.attached := by
  have before := attached_armed r d
  cases reaches r d with
  | stops reason h =>
    rw [pass_of_stop h]
    exact before
  | again prepared late =>
    rw [pass_of_none prepared, if_neg late]
    exact before
  | fails prepared idle e failed =>
    rw [pass_of_failed prepared idle failed]
    exact before
  | finds a finds =>
    rw [pass_of_finds finds]
    by_cases transfer : a.readiness.wake = .transfer
    · have inviting := Arrival.wake_eq_transfer_iff.mp transfer
      have aside := armed_unserved r d
      rw [react_of_transfer inviting]
      rcases service?_cases r.scarcity (armed r d) with ⟨_, same, _⟩ | ⟨s, c, rest, _, _, _, accepts, _⟩
      · rw [same]
        exact before
      · have waiting := accepts.first
        rw [aside.host, aside.server] at waiting
        exact absurd ⟨finds, inviting, c, rest, waiting⟩ (unclear a)
    · exact (attached_react r.scarcity transfer (armed r d)).trans before

theorem pass_tallied (r : Round) (d : Daemon) :
    Tallied (d.pass r).served.toList d (d.pass r).daemon := by
  rcases pass_serves_or r d with ⟨a, s, clear, serves⟩ | ⟨unclear, nobody, aside⟩
  · have before : Tallied [] d (armed r d) :=
      .unserved (armed_unserved r d).status (attached_armed r d)
    have served := attendIn_tallied serves.service
    rw [serves.answer] at served
    rw [serves.served]
    exact before.trans served
  · rw [nobody]
    exact .unserved aside.status (attached_pass_unserved unclear)

/-- The services of a course, in their order. -/
def Course.services (c : Course) : List Service := c.passes.filterMap Pass.served

theorem course_tallied (rs : List Round) (d : Daemon) :
    Tallied (d.course rs).services d (d.course rs).daemon := by
  induction rs generalizing d with
  | nil => exact .unserved rfl rfl
  | cons r rs ih =>
    have first := pass_tallied r d
    cases stop : (d.pass r).stop with
    | some reason =>
      rw [course_cons_of_stop stop]
      simp only [Course.services, List.filterMap_cons, List.filterMap_nil]
      cases served : (d.pass r).served <;> rw [served] at first <;> exact first
    | none =>
      have both := first.trans (ih (d.pass r).daemon)
      rw [course_cons_of_none stop]
      simp only [Course.services, List.filterMap_cons]
      cases served : (d.pass r).served <;> rw [served] at both <;> exact both

/-! ## From the start to the end -/

/-- What the counters of a daemon must say after these services. -/
structure Truthful (services : List Service) (d : Daemon) : Prop where
  requests : d.status.requests = services.length
  rejected : d.status.requests = d.status.rejected + services.countP (·.applied?.isSome)
  frames : d.status.framesDrawn = d.session.attached
  clears : d.status.clears = (services.map Service.cleared).sum
  failures : d.status.monitorFailures = (services.map Service.barred).sum
  sums : ∀ s ∈ services, s.Sums

theorem start_fresh {l : Launch} {h : Host} (started : start l h = .ok d) :
    d.status = .empty ∧ d.session.attached = 0 := by
  unfold start at started
  split at started
  · cases started
  split at started
  · cases started
  split at started
  · cases started
  · rename_i s greeted
    unfold open_ at started
    split at started <;> cases started
    have unattached : s.attached = 0 := Session.attached_handshake greeted
    exact ⟨rfl, unattached⟩

theorem finish_status (reason : StopReason) (uptime : Nat) (d : Daemon) :
    (d.finish reason uptime).status = d.status ∧
      (d.finish reason uptime).session.attached = d.session.attached ∧
      ∃ before after, (d.finish reason uptime).log = before ++ d.status.lines uptime ++ after :=
  ⟨rfl, Session.attached_shutdown _, _, _, rfl⟩

/-- Whatever the rounds meet, what a daemon counts and logs at its end is what has happened. -/
theorem truthful_course {l : Launch} {h : Host} (started : start l h = .ok d) (rs : List Round)
    (reason : StopReason) (uptime : Nat) :
    let c := d.announce.course rs
    let final := c.daemon.finish reason uptime
    Truthful c.services final ∧
      ∃ before after, final.log = before ++ final.status.lines uptime ++ after := by
  intro c final
  obtain ⟨empty, unattached⟩ := start_fresh started
  obtain ⟨status, attached, logged⟩ := finish_status reason uptime c.daemon
  have tallied : Tallied c.services d.announce c.daemon := course_tallied rs d.announce
  have zero : d.announce.status = .empty := empty
  have none : d.announce.session.attached = 0 := unattached
  obtain ⟨requests, rejected, frames, clears, failures, sums⟩ := tallied
  rw [zero] at requests rejected frames clears failures
  rw [none] at frames
  simp only [Status.empty, Nat.zero_add, Nat.add_zero] at requests rejected frames clears failures
  refine ⟨⟨?_, ?_, ?_, ?_, ?_, sums⟩, ?_⟩
  · rw [status, requests]
  · rw [status, requests, rejected]
  · rw [status, attached, frames]
  · rw [status, clears]
  · rw [status, failures]
  · rw [status]
    exact logged

/-- The monitor gets its size. Two clients ask for a picture, and there is memory for the second
only. Then somebody asks for all pictures to be taken away. -/
def calling : List Round :=
  let calm : Round := .calm ⟨none, none, some 1, "", .ok []⟩
  let asks (bytes : List UInt8) (descriptors : List Descriptor) : Host → Host :=
    Host.arrive 0 { Wire.Stream.open_ with queue := [⟨bytes, descriptors⟩], writerOpen := false }
  let draws := asks (Wire.Header.mk ⟨1, 1⟩ 0).encode [⟨#[1, 2, 3, 4]⟩]
  [{ calm with late := [.configure 0 1 ⟨1, 1⟩] },
    { calm with others := draws, scarcity := fun _ => some (.create .noMemory) },
    { calm with others := draws },
    { calm with others := asks (List.replicate 16 0) [] }]

/-- One frame fails, one is attached and one is taken away. -/
theorem truthful_course_calling :
    ∃ d, start opening (.ofTree (.bare [])) = .ok d ∧
      Truthful (d.announce.course calling).services
        ((d.announce.course calling).daemon.finish .displayHangup 5) ∧
      ((d.announce.course calling).services.map Service.barred) = [1, 0, 0] ∧
      (d.announce.course calling).daemon.session.attached = 1 ∧
      ((d.announce.course calling).services.map Service.cleared) = [0, 0, 1] := by
  have served : (start opening (.ofTree (.bare []))).toOption.map
      (fun d =>
        let c := d.announce.course calling
        (c.services.map Service.barred, c.daemon.session.attached,
          c.services.map Service.cleared)) = some ([1, 0, 0], 1, [0, 0, 1]) := by
    decide +kernel
  cases started : start opening (.ofTree (.bare [])) with
  | error e =>
    rw [started] at served
    cases served
  | ok d =>
    rw [started] at served
    obtain ⟨barred, rest⟩ := Prod.mk.inj (Option.some.inj served)
    obtain ⟨attached, cleared⟩ := Prod.mk.inj rest
    exact ⟨d, rfl, (truthful_course started calling .displayHangup 5).1, barred, attached, cleared⟩

end Daemon
end Backdrop
