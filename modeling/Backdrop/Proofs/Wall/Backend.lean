import Backdrop.Proofs.Wall.Mirror

/-!
# Backdrop.Proofs.Wall.Backend

Display servers that remember.

* A `Display` is how the display server answers during one operation. A `Backend` is a display
  server whose answers may depend on every call that was made before.
* `Between P s s'`: every call made between two stages has the property `P`, which may look at the
  calls before it.
* `Backend.Gives B d op s`: in the operation `op` on the stage `s` the display `d` gives the answers
  of `B`, each after the calls made by then.
-/

namespace Backdrop
namespace Wall

def Between (P : List Call → Call → Prop) (s s' : Stage) : Prop :=
  ∀ past c rest, s'.calls = s.calls ++ past ++ c :: rest → P (s.calls ++ past) c

namespace Between

variable {P : List Call → Call → Prop} {s s' s'' : Stage} {cs : List Call}

theorem first (between : Between P s s') {c : Call} (calls : s'.calls = s.calls ++ c :: cs) :
    P s.calls c := by
  have := between [] c cs (by rw [calls, List.append_nil])
  rwa [List.append_nil] at this

theorem left (between : Between P s s'') (calls : s''.calls = s'.calls ++ cs) : Between P s s' := by
  intro past c rest split
  exact between past c (rest ++ cs) (by rw [calls, split]; simp)

theorem right (between : Between P s s'') (calls : s'.calls = s.calls ++ cs) :
    Between P s' s'' := by
  intro past c rest split
  rw [calls, List.append_assoc]
  exact between (cs ++ past) c rest (by rw [split, calls]; simp)

/-- What holds of every call of an operation holds between its two ends. -/
theorem ofTurn {Q : Call → Prop} {d : Display} {op : Operation}
    (all : ∀ c, .call c ∈ s.turn d op → Q c) : Between (fun _ => Q) s (s.perform d op).2 := by
  intro past c rest split
  rw [List.append_assoc] at split
  refine all c ?_
  rw [turn_eq split]
  simp

end Between

namespace Stage

/-! ## Calls of the parts of an operation -/

theorem calls_ensureSurface (d : Display) (id : MonitorId) (s : Stage) :
    ∃ cs, (s.ensureSurface d id).calls = s.calls ++ cs := by
  obtain ⟨cs, h, _⟩ := ensureSurface_leads d id s
  exact ⟨cs, h⟩

theorem calls_foldl_ensureSurface (d : Display) (ids : List MonitorId) (s : Stage) :
    ∃ cs, (ids.foldl (fun s id => s.ensureSurface d id) s).calls = s.calls ++ cs := by
  obtain ⟨cs, h, _⟩ := foldl_ensureSurface_leads d ids s
  exact ⟨cs, h⟩

theorem calls_applyOn (d : Display) (content : Content) (filter : Filter) (id : MonitorId)
    (s : Stage) : ∃ cs, (s.applyOn d content filter id).2.calls = s.calls ++ cs := by
  cases content with
  | clear =>
    obtain ⟨cs, h, _⟩ := clearOn_leads id s
    exact ⟨cs, h⟩
  | image pixels extent =>
    obtain ⟨cs, h, _⟩ := drawOn_leads d id pixels extent filter s
    exact ⟨cs, h⟩

theorem calls_applyAll (d : Display) (content : Content) (filter : Filter) (ids : List MonitorId)
    (r : Report) (s : Stage) :
    ∃ cs, (applyAll d content filter ids r s).2.calls = s.calls ++ cs := by
  obtain ⟨cs, h, _⟩ := applyAll_leads d content filter ids r s
  exact ⟨cs, h⟩

theorem calls_retireOption (o : Option FrameId) (s : Stage) :
    ∃ cs, (s.retireOption o).calls = s.calls ++ cs := by
  obtain ⟨cs, h, _⟩ := retireOption_leads o none s
  exact ⟨cs, h⟩

theorem calls_attachFrame (id : MonitorId) (m : Monitor) (surface : SurfaceId) (frame : FrameId)
    (size : Extent) (pixels : Array UInt8) (s : Stage) :
    ∃ cs, (s.attachFrame id m surface frame size pixels).calls =
      s.calls ++ .attach surface frame m.scale size pixels :: cs := by
  obtain ⟨cs, h⟩ : ∃ cs, (s.attachFrame id m surface frame size pixels).calls = _ ++ cs :=
    calls_retireOption m.frame _
  exact ⟨cs, by rw [h]; simp [call, putMonitor, note, putFrame]⟩

theorem calls_fillFrame (id : MonitorId) (m : Monitor) (frame : FrameId) (size : Extent)
    (memory pixels : Array UInt8) (extent : Extent) (filter : Filter) (s : Stage) :
    ∃ cs, (s.fillFrame id m frame size memory pixels extent filter).2.calls = s.calls ++ cs := by
  unfold fillFrame
  split
  · exact ⟨[.free frame], rfl⟩
  · split
    · exact ⟨[.free frame], rfl⟩
    · obtain ⟨cs, h⟩ := calls_attachFrame id m _ frame size _ s
      exact ⟨_, h⟩

/-- Memory that was given is the first that is heard of a frame. -/
theorem calls_drawFrame {d : Display} {m : Monitor} {s : Stage} {memory : Array UInt8}
    (id : MonitorId) (pixels : Array UInt8) (extent : Extent) (filter : Filter)
    (allocated : d.allocate s.wall.nextFrame m.frameSize = .ok memory) :
    ∃ cs, (s.drawFrame d id m pixels extent filter).2.calls =
      s.calls ++ .allocate s.wall.nextFrame m.frameSize :: cs := by
  simp only [drawFrame, allocated]
  obtain ⟨cs, calls⟩ := calls_fillFrame id m s.wall.nextFrame m.frameSize memory pixels extent
    filter (({ s with wall := { s.wall with nextFrame := s.wall.nextFrame + 1 } } : Stage).call
      (.allocate s.wall.nextFrame m.frameSize))
  exact ⟨cs, by rw [calls]; simp [call]⟩

/-! ## What serving one monitor comes to -/

/-- Drawing on a monitor that may be drawn on is drawing its frame, but for the log. -/
theorem drawOn_ready {id : MonitorId} {m : Monitor} {s : Stage} (d : Display)
    (pixels : Array UInt8) (extent : Extent) (filter : Filter) (found : s.monitor? id = some m)
    (ready : m.phase.isDrawable = true) :
    (s.drawOn d id pixels extent filter).2.wall =
        (s.drawFrame d id m pixels extent filter).2.wall ∧
      (s.drawOn d id pixels extent filter).2.calls =
        (s.drawFrame d id m pixels extent filter).2.calls := by
  simp only [drawOn, found, ready, if_true]
  split
  · rename_i drew
    rw [drew]
    exact ⟨rfl, rfl⟩
  · rename_i failed
    rw [failed]
    exact ⟨rfl, rfl⟩

theorem drawOn_cases (d : Display) (id : MonitorId) (pixels : Array UInt8) (extent : Extent)
    (filter : Filter) (s : Stage) :
    ((s.drawOn d id pixels extent filter).2.wall = s.wall ∧
        (s.drawOn d id pixels extent filter).2.calls = s.calls) ∨
      ∃ m, s.monitor? id = some m ∧
        (s.drawOn d id pixels extent filter).2.wall =
          (s.drawFrame d id m pixels extent filter).2.wall ∧
        (s.drawOn d id pixels extent filter).2.calls =
          (s.drawFrame d id m pixels extent filter).2.calls := by
  cases found : s.monitor? id with
  | none => exact .inl (by simp [drawOn, found])
  | some m =>
    cases ready : m.phase.isDrawable with
    | true => exact .inr ⟨m, rfl, drawOn_ready d pixels extent filter found ready⟩
    | false => exact .inl (by simp [drawOn, found, ready, note])

/-- Clearing takes a frame off a monitor, or does nothing but for the log. -/
theorem clearOn_cases (id : MonitorId) (s : Stage) :
    ((s.clearOn id).2.wall = s.wall ∧ (s.clearOn id).2.calls = s.calls) ∨
      ∃ m surface frame, s.monitor? id = some m ∧ m.surface = some surface ∧
        m.frame = some frame ∧ (s.clearOn id).2 = s.clearFrame id m surface frame := by
  unfold clearOn
  split
  · exact .inl ⟨rfl, rfl⟩
  · rename_i m found
    split
    · exact .inl ⟨rfl, rfl⟩
    · rename_i surface held
      split
      · exact .inl ⟨rfl, rfl⟩
      · rename_i frame shown
        exact .inr ⟨m, surface, frame, found, held, shown, rfl⟩

/-! ## Calls of taking everything down -/

theorem calls_foldl_free (fs : List FrameId) (s : Stage) :
    (fs.foldl (fun s f => s.call (.free f)) s).calls = s.calls ++ fs.map .free := by
  induction fs generalizing s with
  | nil => simp
  | cons f fs ih =>
    rw [List.foldl_cons, ih]
    simp [call]

/-- Taking a monitor down does not look at the wall. -/
theorem calls_foldl_tearDownMonitor (ms : List Monitor) {s s' : Stage} (same : s'.calls = s.calls) :
    (ms.foldl tearDownMonitor s').calls = (ms.foldl tearDownMonitor s).calls := by
  induction ms generalizing s s' with
  | nil => exact same
  | cons m ms ih =>
    refine ih ?_
    cases held : m.surface <;>
      simp [tearDownMonitor, destroySurface, call, held, same]

theorem calls_shutdown (s : Stage) :
    s.shutdown.calls =
      (s.wall.monitors.values.foldl tearDownMonitor s).calls ++
        s.wall.frames.keys.map .free := by
  rw [shutdown, calls_foldl_free]
  exact congrArg (· ++ _) (calls_foldl_tearDownMonitor _ rfl)

end Stage

/-- What is between the ends of drawing on a monitor is within the drawing of its frame. -/
theorem Between.drawFrame {P : List Call → Call → Prop} {d : Display} {s : Stage} {id : MonitorId}
    {m : Monitor} {pixels : Array UInt8} {extent : Extent} {filter : Filter}
    (between : Between P s (s.drawOn d id pixels extent filter).2)
    (found : s.monitor? id = some m) (ready : m.phase.isDrawable = true) :
    Between P s (s.drawFrame d id m pixels extent filter).2 := by
  intro past c rest split
  rw [← (Stage.drawOn_ready d pixels extent filter found ready).2] at split
  exact between past c rest split

/-! ## Answers -/

/-- A display server whose answers may depend on all the calls that it got before. -/
abbrev Backend := List Call → Display

/-- Two displays give the same answer to what is asked by a call. -/
def Display.Agrees (d d' : Display) : Call → Prop
  | .createSurface id _ _ => d.surfaceRefusal id = d'.surfaceRefusal id
  | .createSurfaceFailed id _ => d.surfaceRefusal id = d'.surfaceRefusal id
  | .allocate frame size => d.allocate frame size = d'.allocate frame size
  | .allocateFailed frame size => d.allocate frame size = d'.allocate frame size
  | _ => True

namespace Backend

variable {B : Backend} {d : Display} {s s' : Stage} {id : MonitorId} {m : Monitor}

/-- Between the two stages the display answers as the display server does. -/
def Answers (B : Backend) (d : Display) (s s' : Stage) : Prop :=
  Between (fun past c => d.Agrees (B past) c) s s'

/-- How the display server answers in one operation. Whether surfaces can be created is asked at its
beginning. -/
structure Gives (B : Backend) (d : Display) (op : Operation) (s : Stage) : Prop where
  ready : d.ready = (B s.calls).ready
  answers : B.Answers d s (s.perform d op).2

/-- Without a memory the answers are always the same. -/
theorem gives_const (d : Display) (op : Operation) (s : Stage) :
    Gives (fun _ => d) d op s := by
  refine ⟨rfl, fun past c rest _ => ?_⟩
  cases c <;> simp [Display.Agrees]

theorem Answers.refusal (answers : B.Answers d s (s.ensureSurface d id)) (ready : d.ready id = true)
    (found : s.monitor? id = some m) (bare : m.phase = .uncreated) :
    d.surfaceRefusal id = (B s.calls).surfaceRefusal id := by
  cases refusal : d.surfaceRefusal id with
  | none =>
    have made : s.ensureSurface d id = s.createSurface id m := by
      simp only [Stage.ensureSurface, ready, if_true, found, bare, refusal]
    rw [made] at answers
    have agrees : d.Agrees (B s.calls) (.createSurface id m.handle s.wall.nextSurface) :=
      answers.first rfl
    rw [← refusal]
    exact agrees
  | some e =>
    have made : s.ensureSurface d id = s.surfaceRefused id m e := by
      simp only [Stage.ensureSurface, ready, if_true, found, bare, refusal]
    rw [made] at answers
    have agrees : d.Agrees (B s.calls) (.createSurfaceFailed id m.handle) := answers.first rfl
    rw [← refusal]
    exact agrees

theorem Answers.allocation {pixels : Array UInt8} {extent : Extent} {filter : Filter}
    (answers : B.Answers d s (s.drawFrame d id m pixels extent filter).2) :
    d.allocate s.wall.nextFrame m.frameSize =
      (B s.calls).allocate s.wall.nextFrame m.frameSize := by
  cases allocated : d.allocate s.wall.nextFrame m.frameSize with
  | error e =>
    simp only [Stage.drawFrame, allocated] at answers
    have agrees : d.Agrees (B s.calls) (.allocateFailed s.wall.nextFrame m.frameSize) :=
      answers.first rfl
    rw [← allocated]
    exact agrees
  | ok memory =>
    obtain ⟨cs, calls⟩ := Stage.calls_drawFrame id pixels extent filter allocated
    have agrees : d.Agrees (B s.calls) (.allocate s.wall.nextFrame m.frameSize) :=
      answers.first calls
    rw [← allocated]
    exact agrees

end Backend
end Wall
end Backdrop
