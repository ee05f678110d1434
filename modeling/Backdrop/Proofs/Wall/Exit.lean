import Backdrop.Proofs.Delivery
import Backdrop.Proofs.Wall.Attempt

/-!
# Backdrop.Proofs.Wall.Exit

A picture that came in with a request can always be scaled.

* `Exit` has every way in which drawing on one monitor ends. `Stage.drawing` looks the monitor up
  again after the picture was scaled, so that the monitor or its surface may be gone by then;
  `drawOn_eq` says that this is drawing on a monitor.
* `Legible pixels extent` is what scaling asks of a picture. Checking the header and mapping the
  file make sure of it.
* `smooth_run`: whatever request comes in after a run, scaling does not fail, no arithmetic on the
  way crashes, and neither the monitor nor its surface is gone after it. What is left is that there
  is no memory.
-/

namespace Backdrop
namespace Wall

/-- How drawing on a monitor ends. -/
inductive Exit where
  /-- There is no such monitor. -/
  | absent
  /-- The monitor may not be drawn on. -/
  | unready
  | refused (cause : DisplayError)
  | unscaled (cause : Cover.Stop)
  /-- The monitor is gone after the picture was scaled. -/
  | vanished
  /-- The monitor has no surface after the picture was scaled. -/
  | bare
  | drawn
  deriving Repr, DecidableEq, Inhabited

namespace Exit

def verdict : Exit → Verdict
  | .refused _ | .unscaled _ => .failed
  | .drawn => .drawn
  | .absent | .unready | .vanished | .bare => .skipped

def error? : Exit → Option DrawError
  | .refused cause => some (.display cause)
  | .unscaled cause => some (.scale cause)
  | _ => none

end Exit

namespace Stage

/-- Shows a finished frame on the monitor that has this key by now. -/
def present (id : MonitorId) (frame : FrameId) (size : Extent) (pixels : Array UInt8)
    (s : Stage) : Exit × Stage :=
  match s.monitor? id with
  | none => (.vanished, s.call (.free frame))
  | some m =>
    match m.surface with
    | none => (.bare, s.call (.free frame))
    | some surface => (.drawn, s.attachFrame id m surface frame size pixels)

/-- Draws on a monitor, up to the exit that is taken. -/
def drawing (d : Display) (id : MonitorId) (pixels : Array UInt8) (extent : Extent)
    (filter : Filter) (s : Stage) : Exit × Stage :=
  match s.monitor? id with
  | none => (.absent, s)
  | some m =>
    if m.phase.isDrawable then
      let frame := s.wall.nextFrame
      let s : Stage := { s with wall := s.wall.claimFrame }
      match d.allocate frame m.frameSize with
      | .error e => (.refused e, s.call (.allocateFailed frame m.frameSize))
      | .ok memory =>
        let s := s.call (.allocate frame m.frameSize)
        match Cover.cover memory m.frameSize pixels extent filter with
        | .error e => (.unscaled e, s.call (.free frame))
        | .ok (filled, _) => s.present id frame m.frameSize filled
    else (.unready, s.note (Log.debug s!"Skipping {m.describe id}: not configured yet"))

/-- Notes a failure, with the name that the monitor has by now. -/
def noteExit (id : MonitorId) (e : Exit) (s : Stage) : Stage :=
  match e.error? with
  | none => s
  | some cause =>
    let name := ((s.monitor? id).map (·.describe id)).getD ""
    s.note (Log.warn s!"Failed to draw on {name}: {cause.message}")

end Stage

/-- How an attempt to draw ends. -/
def Attempt.exit (d : Display) (pixels : Array UInt8) (extent : Extent) (filter : Filter)
    (a : Attempt) : Exit :=
  (a.before.drawing d a.id pixels extent filter).1

/-- How the picture of a request ends on each monitor that the request means. -/
def Stage.exits (d : Display) (request : Wire.Request) (filter : Filter) (s : Stage) : List Exit :=
  match Content.ofAction request.action with
  | .ok (.image pixels extent) =>
    (s.tries d request.target (.image pixels extent) filter).map (·.exit d pixels extent filter)
  | _ => []

/-- How drawing must end on a monitor, if this frame is the next one. -/
def Monitor.exit (d : Display) (f : FrameId) (m : Monitor) : Exit :=
  if m.phase.isDrawable then
    match d.allocate f m.frameSize with
    | .error e => .refused e
    | .ok _ => .drawn
  else .unready

/-- Memory that is given is as long as it was asked for. -/
def Display.Exact (d : Display) : Prop :=
  ∀ f (size : Extent) memory, d.allocate f size = .ok memory → memory.size = size.byteCount

/-- A request meets no trouble but a lack of memory. -/
structure Smooth (d : Display) (request : Wire.Request) (filter : Filter) (s : Stage) : Prop where
  never : ∀ e ∈ s.exits d request filter,
    (∀ cause, e ≠ .unscaled cause) ∧ e ≠ .vanished ∧ e ≠ .bare
  exits : ∀ pixels extent, Content.ofAction request.action = .ok (.image pixels extent) →
    s.exits d request filter =
      (s.wall.due request.target (.image pixels extent)).map fun e => e.2.2.exit d e.1
  /-- These are the exits that are taken. -/
  taken : ∀ pixels extent, Content.ofAction request.action = .ok (.image pixels extent) →
    ∀ a ∈ s.tries d request.target (.image pixels extent) filter,
      let (e, s') := a.before.drawing d a.id pixels extent filter
      (a.verdict, a.after) = (e.verdict, s'.noteExit a.id e)
  uncrashed : ∀ content, Content.ofAction request.action = .ok content →
    s.crash? d request.target content filter = none
  failed : ∀ content, Content.ofAction request.action = .ok content →
    ∃ r s', s.handle d request filter = (.ok r, s') ∧
      r.failed = (s.wall.due request.target content).countP fun e =>
        content.claims e.2.2 && !(d.allocate e.1 e.2.2.frameSize).isOk
  rejected : ∀ e, Content.ofAction request.action = .error e →
    s.handle d request filter = (.error e, s)

/-! ## Exits -/

/-- The look-up after scaling finds what the first one found. -/
theorem drawOn_eq (d : Display) (id : MonitorId) (pixels : Array UInt8) (extent : Extent)
    (filter : Filter) (s : Stage) :
    s.drawOn d id pixels extent filter =
      let (e, s') := s.drawing d id pixels extent filter
      (e.verdict, s'.noteExit id e) := by
  cases found : s.monitor? id with
  | none =>
    simp only [Stage.drawOn, Stage.drawing, found, Exit.verdict, Stage.noteExit, Exit.error?]
  | some m =>
    have looked : s.wall.monitors.find? id = some m := found
    cases ready : m.phase.isDrawable with
    | false =>
      simp only [Stage.drawOn, Stage.drawing, found, ready, Bool.false_eq_true, if_false,
        Exit.verdict, Stage.noteExit, Exit.error?]
    | true =>
      simp only [Stage.drawOn, Stage.drawing, found, ready, if_true, Stage.drawFrame]
      cases given : d.allocate s.wall.nextFrame m.frameSize with
      | error e =>
        simp [Exit.verdict, Stage.noteExit, Exit.error?, Stage.monitor?, Stage.call, looked,
          claimFrame]
      | ok memory =>
        simp only [Stage.fillFrame]
        cases covered : Cover.cover memory m.frameSize pixels extent filter with
        | error e =>
          simp [Exit.verdict, Stage.noteExit, Exit.error?, Stage.monitor?, Stage.call, looked,
            claimFrame]
        | ok filled =>
          cases held : m.surface <;>
            simp [Stage.present, Exit.verdict, Stage.noteExit, Exit.error?, Stage.monitor?,
              Stage.call, looked, held, claimFrame]

/-! ## Pictures that can be scaled -/

/-- What scaling asks of a picture. -/
structure Legible (pixels : Array UInt8) (extent : Extent) : Prop where
  full : extent.isEmpty = false
  long : extent.byteCount ≤ pixels.size

theorem Legible.covers {pixels memory : Array UInt8} {extent size : Extent}
    (legible : Legible pixels extent) (filter : Filter) (full : size.isEmpty = false)
    (fits : memory.size = size.byteCount) :
    ∃ filled factor, Cover.cover memory size pixels extent filter = .ok (filled, factor) := by
  obtain ⟨filled, covered, _⟩ :=
    Cover.cover_shows filter legible.full full legible.long fits
  exact ⟨filled, _, covered⟩

/-- The header of a request for a picture has a size that is one. -/
theorem some_extent_of_assemble {h : Wire.Header} {name : List UInt8}
    {descriptor : Option Descriptor} {request : Wire.Request} {extent : Extent}
    {region : Descriptor} (assembled : Wire.Request.assemble h name descriptor = .ok request)
    (draws : request.action = .draw extent region) : extent.isEmpty = false := by
  unfold Wire.Request.assemble at assembled
  split at assembled
  · cases assembled
  rename_i checked
  split at assembled
  · cases assembled
  split at assembled
  · cases assembled
  rename_i action acted
  cases assembled
  obtain rfl : action = .draw extent region := draws
  have even : h.extent.isLopsided = false := by
    cases lopsided : h.extent.isLopsided with
    | false => rfl
    | true =>
      rw [Wire.Header.check, lopsided, if_pos rfl] at checked
      cases checked
  unfold Wire.Request.actionOf at acted
  split at acted
  · cases acted
  rename_i some
  split at acted <;> cases acted
  rw [Extent.isEmpty_eq_false_iff]
  have both := Extent.isLopsided_eq_false_iff.mp even
  simp only [Wire.Header.isClear, Bool.and_eq_true, beq_iff_eq, not_and] at some
  exact ⟨fun zero => some zero (both.mp zero), fun zero => some (both.mpr zero) zero⟩

/-- A file that was mapped has the whole picture. -/
theorem legible_of_mapped {action : Wire.Action} {pixels : Array UInt8} {extent : Extent}
    (full : ∀ e region, action = .draw e region → e.isEmpty = false)
    (mapped : Content.ofAction action = .ok (.image pixels extent)) : Legible pixels extent := by
  cases action with
  | clear => cases mapped
  | draw e region =>
    simp only [Content.ofAction, Source.map] at mapped
    cases required : Source.required region.content.size e with
    | error cause =>
      simp only [required] at mapped
      cases mapped
    | ok n =>
      simp only [required] at mapped
      cases mapped
      obtain ⟨rfl, _, _, held⟩ := Source.required_eq_ok_iff.mp required
      refine ⟨full _ region rfl, ?_⟩
      rw [Array.size_extract]
      omega

/-! ## The exit that is taken -/

section Taken

variable {d : Display} {pixels : Array UInt8} {extent : Extent} {content : Content}
  {filter : Filter} {s : Stage} {id : MonitorId} {m : Monitor}

/-- Drawing on a sound monitor ends as the answer to the request for memory says. -/
theorem drawing_exit (exact : d.Exact) (legible : Legible pixels extent) (filter : Filter)
    (found : s.wall.monitor? id = some m) (fit : m.Fit)
    (fitting : m.phase = .drawable → m.Fitting) :
    (s.drawing d id pixels extent filter).1 = m.exit d s.wall.nextFrame := by
  have looked : s.monitor? id = some m := found
  cases ready : m.phase.isDrawable with
  | false => simp only [Stage.drawing, looked, ready, Monitor.exit, Bool.false_eq_true, if_false]
  | true =>
    have drawable : m.phase = .drawable := by simpa [Phase.isDrawable] using ready
    simp only [Stage.drawing, looked, ready, Monitor.exit, if_true]
    cases given : d.allocate s.wall.nextFrame m.frameSize with
    | error e => rfl
    | ok memory =>
      obtain ⟨filled, factor, covered⟩ := legible.covers filter
        (fit.some_frame drawable (fitting drawable)) (exact _ _ _ given)
      obtain ⟨surface, held⟩ := fit.surface_of_drawable drawable
      have still : s.wall.monitors.find? id = some m := found
      simp [covered, Stage.present, Stage.monitor?, Stage.call, claimFrame, still, held]

/-- The monitors that are meant come one after another, each with the frame that is due. -/
theorem attempts_numbered (d : Display) (content : Content) (filter : Filter)
    {ms : List (MonitorId × Monitor)} (nodup : (ms.map (·.1)).Nodup) {s : Stage}
    (listed : ∀ e ∈ ms, s.wall.monitor? e.1 = some e.2) :
    (s.attempts d content filter (ms.map (·.1))).map
        (fun a => (a.before.wall.nextFrame, a.before.wall.monitor? a.id)) =
      (numbered content s.wall.nextFrame ms).map fun e => (e.1, some e.2.2) := by
  -- By induction on the monitors, each of which is as before when its turn comes.
  induction ms generalizing s with
  | nil => rfl
  | cons e ms ih =>
    obtain ⟨once, nodup⟩ := List.nodup_cons.mp nodup
    have here := listed e List.mem_cons_self
    have still := listed_applyOn d content filter once listed
    have rest := ih nodup still
    rw [nextFrame_applyOn d content filter here] at rest
    simp only [List.map_cons, Stage.attempts, numbered, here]
    rw [rest]

theorem tries_due (d : Display) (target : Option String) (content : Content) (filter : Filter)
    (s : Stage) :
    (s.tries d target content filter).map
        (fun a => (a.before.wall.nextFrame, a.before.wall.monitor? a.id)) =
      (s.wall.due target content).map fun e => (e.1, some e.2.2) :=
  attempts_numbered d content filter (nodup_targets s.wall target) fun _ he =>
    Table.find?_eq_some_iff.mpr (List.mem_filter.mp he).1

/-- The exits of a request are those that the answers to its requests for memory lead to. -/
theorem tries_exits {target : Option String} (exact : d.Exact) (legible : Legible pixels extent)
    (filter : Filter) (sound : Sound s.wall)
    (fitting : ∀ id m, s.wall.monitor? id = some m → m.phase = .drawable → m.Fitting) :
    (s.tries d target (.image pixels extent) filter).map (·.exit d pixels extent filter) =
      (s.wall.due target (.image pixels extent)).map fun e => e.2.2.exit d e.1 := by
  let told : FrameId × Option Monitor → Exit := fun e => (e.2.map (·.exit d e.1)).getD .absent
  calc (s.tries d target (.image pixels extent) filter).map (·.exit d pixels extent filter)
      = (s.tries d target (.image pixels extent) filter).map
          (fun a => told (a.before.wall.nextFrame, a.before.wall.monitor? a.id)) := by
        refine List.map_congr_left fun a ha => ?_
        obtain ⟨m, found, here, _⟩ := (tried d target (.image pixels extent) filter s).judged a ha
        rw [Attempt.exit,
          drawing_exit exact legible filter here (sound.fit found) (fitting _ _ found), here]
        rfl
    _ = ((s.wall.due target (.image pixels extent)).map fun e => (e.1, some e.2.2)).map told := by
        rw [← tries_due d target (.image pixels extent) filter s, List.map_map]
        rfl
    _ = _ := by
        rw [List.map_map]
        rfl

theorem crashOn_clear (d : Display) (filter : Filter) (id : MonitorId) (s : Stage) :
    s.crashOn d .clear filter id = none := rfl

/-- On a sound monitor every number fits into its word. -/
theorem crashOn_image (exact : d.Exact) (legible : Legible pixels extent) (filter : Filter)
    (found : s.wall.monitor? id = some m) (fit : m.Fit)
    (fitting : m.phase = .drawable → m.Fitting) :
    s.crashOn d (.image pixels extent) filter id = none := by
  have looked : s.monitor? id = some m := found
  cases ready : m.phase.isDrawable with
  | false => simp only [Stage.crashOn, looked, ready, Bool.false_eq_true, if_false]
  | true =>
    have drawable : m.phase = .drawable := by simpa [Phase.isDrawable] using ready
    have sized := (fitting drawable).scaled? (fit.size_full drawable).1 fit.scale_pos
    simp only [Stage.crashOn, looked, ready, if_true, sized, Stage.drawFrame]
    cases given : d.allocate s.wall.nextFrame m.frameSize with
    | error e => rfl
    | ok memory =>
      obtain ⟨filled, factor, covered⟩ := legible.covers filter
        (fit.some_frame drawable (fitting drawable)) (exact _ _ _ given)
      obtain ⟨surface, held⟩ := fit.surface_of_drawable drawable
      simp only [Stage.fillFrame, covered, held]

theorem crashAll_eq_none {ids : List MonitorId}
    (safe : ∀ a ∈ s.attempts d content filter ids,
      a.before.crashOn d content filter a.id = none) :
    s.crashAll d content filter ids = none := by
  induction ids generalizing s with
  | nil => rfl
  | cons id ids ih =>
    have now : s.crashOn d content filter id = none := safe _ List.mem_cons_self
    have later : (s.applyOn d content filter id).2.crashAll d content filter ids = none :=
      ih fun a ha => safe a (List.mem_cons_of_mem _ ha)
    rw [Stage.crashAll, now, later, Option.or_none]

end Taken

/-! ## Requests -/

theorem Monitor.exit_smooth (d : Display) (f : FrameId) (m : Monitor) :
    (∀ cause, m.exit d f ≠ .unscaled cause) ∧ m.exit d f ≠ .vanished ∧ m.exit d f ≠ .bare := by
  unfold Monitor.exit
  split
  · split <;> simp
  · simp

/-- Drawing fails for want of memory only. -/
theorem Monitor.exit_failed (d : Display) (f : FrameId) (m : Monitor) :
    (m.exit d f).verdict = .failed ↔
      (m.phase.isDrawable && !(d.allocate f m.frameSize).isOk) = true := by
  unfold Monitor.exit
  cases m.phase.isDrawable with
  | false => simp [Exit.verdict]
  | true => cases d.allocate f m.frameSize <;> simp [Exit.verdict, Except.isOk, Except.toBool]

/-- Every attempt takes the exit that drawing on its monitor takes. -/
theorem attempt_drawing {d : Display} {target : Option String} {pixels : Array UInt8}
    {extent : Extent} {filter : Filter} {s : Stage} {a : Attempt}
    (ha : a ∈ s.tries d target (.image pixels extent) filter) :
    let (e, s') := a.before.drawing d a.id pixels extent filter
    (a.verdict, a.after) = (e.verdict, s'.noteExit a.id e) := by
  obtain ⟨past, rest, split⟩ := List.append_of_mem ha
  have step : a.before.drawOn d a.id pixels extent filter = (a.verdict, a.after) :=
    (divided split).step
  rw [← step, drawOn_eq]

/-- Nothing fails but what has no memory. -/
theorem failed_of_exits {d : Display} {target : Option String} {pixels : Array UInt8}
    {extent : Extent} {filter : Filter} {s : Stage}
    (exits : (s.tries d target (.image pixels extent) filter).map (·.exit d pixels extent filter) =
      (s.wall.due target (.image pixels extent)).map fun e => e.2.2.exit d e.1) :
    (s.apply d target (.image pixels extent) filter).1.failed =
      (s.wall.due target (.image pixels extent)).countP fun e =>
        e.2.2.phase.isDrawable && !(d.allocate e.1 e.2.2.frameSize).isOk := by
  have verdicts : (s.tries d target (.image pixels extent) filter).map (·.verdict) =
      ((s.wall.due target (.image pixels extent)).map fun e => e.2.2.exit d e.1).map
        Exit.verdict := by
    rw [← exits, List.map_map]
    exact List.map_congr_left fun a ha => congrArg Prod.fst (attempt_drawing ha)
  rw [(tried d target (.image pixels extent) filter s).served, verdicts]
  simp only [Report.ofVerdicts, List.count_eq_countP, List.countP_map]
  refine List.countP_congr fun e _ => ?_
  simp only [Function.comp_apply, beq_iff_eq]
  exact e.2.2.exit_failed d e.1

theorem smooth_of_sound {d : Display} (exact : d.Exact) {request : Wire.Request}
    (full : ∀ e region, request.action = .draw e region → e.isEmpty = false) (filter : Filter)
    {s : Stage} (sound : Sound s.wall)
    (fitting : ∀ id m, s.wall.monitor? id = some m → m.phase = .drawable → m.Fitting) :
    Smooth d request filter s := by
  have exits : ∀ pixels extent, Content.ofAction request.action = .ok (.image pixels extent) →
      (s.tries d request.target (.image pixels extent) filter).map (·.exit d pixels extent filter) =
        (s.wall.due request.target (.image pixels extent)).map fun e => e.2.2.exit d e.1 :=
    fun pixels extent mapped =>
      tries_exits exact (legible_of_mapped full mapped) filter sound fitting
  refine ⟨fun e he => ?never, fun pixels extent mapped => ?exits,
    fun pixels extent mapped a ha => attempt_drawing ha, fun content mapped => ?uncrashed,
    fun content mapped => ?failed, fun e unmapped => ?rejected⟩
  case never =>
    unfold Stage.exits at he
    split at he
    · rename_i pixels extent mapped
      rw [exits pixels extent mapped] at he
      obtain ⟨due, _, rfl⟩ := List.mem_map.mp he
      exact due.2.2.exit_smooth d due.1
    · cases he
  case exits =>
    unfold Stage.exits
    simp only [mapped]
    exact exits pixels extent mapped
  case uncrashed =>
    refine crashAll_eq_none fun a ha => ?_
    cases content with
    | clear => exact crashOn_clear d filter a.id a.before
    | image pixels extent =>
      obtain ⟨m, found, here, _⟩ :=
        (tried d request.target (.image pixels extent) filter s).judged a ha
      exact crashOn_image exact (legible_of_mapped full mapped) filter here (sound.fit found)
        (fitting _ _ found)
  case failed =>
    refine ⟨(s.apply d request.target content filter).1,
      (s.apply d request.target content filter).2, ?_, ?_⟩
    · simp only [Stage.handle, mapped]
    · cases content with
      | image pixels extent => exact failed_of_exits (exits pixels extent mapped)
      | clear =>
        have nothing : ∀ e ∈ s.wall.due request.target .clear, ¬ ((Content.clear.claims e.2.2 &&
            !(d.allocate e.1 e.2.2.frameSize).isOk) = true) := fun e _ => by simp [Content.claims]
        rw [List.countP_eq_zero.mpr nothing, (apply_verdicts d request.target .clear filter s).1]
        refine List.count_eq_zero.mpr fun failed => ?_
        obtain ⟨e, _, verdict⟩ := List.mem_map.mp failed
        simp only [Monitor.verdict] at verdict
        split at verdict <;> cases verdict
  case rejected => simp only [Stage.handle, unmapped]

/-- Whatever request comes in, scaling does not fail, and nothing is gone after it. -/
theorem smooth_run {ops : List (Display × Operation)} (orderly : Stage.empty.Orderly [] ops)
    {d : Display} (exact : d.Exact)
    (fitting : ∀ id m, (Stage.empty.run ops).wall.monitor? id = some m → m.phase = .drawable →
      m.Fitting)
    {h : Wire.Header} {name : List UInt8} {descriptor : Option Descriptor} {request : Wire.Request}
    (assembled : Wire.Request.assemble h name descriptor = .ok request) (filter : Filter) :
    Smooth d request filter (Stage.empty.run ops) :=
  smooth_of_sound exact (fun _ _ draws => some_extent_of_assemble assembled draws) filter
    (sound_run orderly) fitting

/-- Gives whatever is asked for, but no memory for the first frame. -/
def reluctant : Display :=
  { lavish with
    allocate := fun f size => if f = 0 then .error .surfaceNotReady else lavish.allocate f size }

theorem exact_reluctant : reluctant.Exact := by
  intro f size memory given
  simp only [reluctant, lavish] at given
  split at given
  · cases given
  · cases given
    exact Array.size_replicate

/-- Of two monitors the first one gets no memory, and the other one is drawn on. -/
theorem smooth_run_paired :
    Stage.empty.Orderly [] pairing ∧
      Wire.Request.assemble ⟨⟨1, 1⟩, 0⟩ [] (some ⟨#[1, 2, 3, 4]⟩) =
        .ok ⟨none, .draw ⟨1, 1⟩ ⟨#[1, 2, 3, 4]⟩⟩ ∧
      Smooth reluctant ⟨none, .draw ⟨1, 1⟩ ⟨#[1, 2, 3, 4]⟩⟩ .nearest paired ∧
      paired.exits reluctant ⟨none, .draw ⟨1, 1⟩ ⟨#[1, 2, 3, 4]⟩⟩ .nearest =
        [.refused .surfaceNotReady, .drawn] := by
  have small : ∀ e ∈ paired.wall.monitors.entries,
      e.2.size.width.toNat * e.2.scale.toNat < UInt32.size ∧
        e.2.size.height.toNat * e.2.scale.toNat < UInt32.size := by decide
  have fitting : ∀ id m, paired.wall.monitor? id = some m → m.phase = .drawable → m.Fitting := by
    intro id m found _
    obtain ⟨width, height⟩ := small _ (Table.find?_eq_some_iff.mp found)
    exact ⟨width, height⟩
  have assembled : Wire.Request.assemble ⟨⟨1, 1⟩, 0⟩ [] (some ⟨#[1, 2, 3, 4]⟩) =
      .ok ⟨none, .draw ⟨1, 1⟩ ⟨#[1, 2, 3, 4]⟩⟩ := by rfl
  exact ⟨by decide, assembled,
    smooth_run (by decide) exact_reluctant fitting assembled .nearest, by decide⟩

-- No file holds a picture of this size, so only a caller without one can ask for it.
example : paired.crash? lavish none (.image #[] ⟨2147483648, 2147483648⟩) .nearest =
    some .overflow := by decide

end Wall
end Backdrop
