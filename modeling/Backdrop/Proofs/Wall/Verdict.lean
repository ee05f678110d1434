import Backdrop.Proofs.Wall.Broadcast
import Backdrop.Proofs.Wall.Repertoire

/-!
# Backdrop.Proofs.Wall.Verdict

What must come of each monitor that a request means, told from the wall before the request.

* `Monitor.verdict` is what must come of one monitor, whatever happens to the others. It says for
  which frame memory is asked, since the answer may be another one for each frame.
* `Wall.due` says which frame that is for each monitor that a request means.
* `Supplied last cs`: among the calls `cs` a frame is attached only right after memory was given for
  it. `last` is the frame that memory was given for right before.
* `apply_verdicts`: a report counts the verdicts, and there are as many attachments among the calls
  as monitors were drawn on.
-/

namespace Backdrop
namespace Wall

/-- There is no memory for this frame on the monitor, or the picture cannot be scaled into it. -/
def Monitor.isBarred (d : Display) (pixels : Array UInt8) (extent : Extent) (filter : Filter)
    (f : FrameId) (m : Monitor) : Bool :=
  match d.allocate f m.frameSize with
  | .error _ => true
  | .ok memory => !(Cover.cover memory m.frameSize pixels extent filter).isOk

def Monitor.verdict (d : Display) (content : Content) (filter : Filter) (f : FrameId)
    (m : Monitor) : Verdict :=
  match content with
  | .clear => if m.surface.isSome then .cleared else .skipped
  | .image pixels extent =>
    if m.phase.isDrawable then
      if m.isBarred d pixels extent filter f then .failed
      else if m.surface.isSome then .drawn
      else .skipped
    else .skipped

/-- The monitors that a request for this target means. -/
def meant (w : Wall) (target : Option String) : List (MonitorId × Monitor) :=
  w.monitors.entries.filter fun e => e.2.matchesTarget target

/-- A frame is asked for when this is put on the monitor. -/
def Content.claims (m : Monitor) : Content → Bool
  | .clear => false
  | .image _ _ => m.phase.isDrawable

/-- Each monitor with the next frame at its turn. -/
def numbered (content : Content) :
    FrameId → List (MonitorId × Monitor) → List (FrameId × MonitorId × Monitor)
  | _, [] => []
  | f, e :: es => (f, e) :: numbered content (if content.claims e.2 then f + 1 else f) es

/-- The monitors that a request means, each with the next frame at its turn. -/
def due (w : Wall) (target : Option String) (content : Content) :
    List (FrameId × MonitorId × Monitor) :=
  numbered content w.nextFrame (w.meant target)

def verdicts (d : Display) (target : Option String) (content : Content) (filter : Filter)
    (w : Wall) : List Verdict :=
  (w.due target content).map fun e => e.2.2.verdict d content filter e.1

theorem map_numbered (content : Content) (f : FrameId) (es : List (MonitorId × Monitor)) :
    (numbered content f es).map (·.2) = es := by
  induction es generalizing f with
  | nil => rfl
  | cons e es ih => exact congrArg (e :: ·) (ih _)

theorem map_due (w : Wall) (target : Option String) (content : Content) :
    (w.due target content).map (·.2) = w.meant target :=
  map_numbered content w.nextFrame _

def Call.isAttach : Call → Bool
  | .attach .. => true
  | _ => false

def Supplied : Option FrameId → List Call → Prop
  | _, [] => True
  | _, .allocate f _ :: cs => Supplied (some f) cs
  | last, .attach _ f _ _ _ :: cs => last = some f ∧ Supplied none cs
  | _, _ :: cs => Supplied none cs

namespace Report

/-- The report of a request that came to these verdicts. -/
def ofVerdicts (vs : List Verdict) : Report :=
  ⟨vs.length, vs.count .drawn, vs.count .cleared, vs.count .skipped, vs.count .failed⟩

theorem foldl_count (vs : List Verdict) (r : Report) :
    vs.foldl count r =
      ⟨r.matched, r.drawn + vs.count .drawn, r.cleared + vs.count .cleared,
        r.skipped + vs.count .skipped, r.failed + vs.count .failed⟩ := by
  induction vs generalizing r with
  | nil => rfl
  | cons v vs ih =>
    rw [List.foldl_cons, ih]
    cases v <;> simp [count, Nat.add_comm, Nat.add_left_comm]

theorem served_ofVerdicts (vs : List Verdict) :
    (ofVerdicts vs).served = (ofVerdicts vs).matched := by
  induction vs with
  | nil => rfl
  | cons v vs ih =>
    simp only [served, ofVerdicts] at ih ⊢
    cases v <;> simp <;> omega

end Report

/-! ## Memory before attachments -/

section Supplied

variable {cs cs' : List Call} {last : Option FrameId}

theorem Supplied.weaken (supplied : Supplied none cs) : Supplied last cs := by
  cases cs with
  | nil => trivial
  | cons c cs =>
    cases c with
    | attach => cases supplied.1
    | _ => exact supplied

theorem Supplied.append (first : Supplied last cs) (second : Supplied none cs') :
    Supplied last (cs ++ cs') := by
  induction cs generalizing last with
  | nil => exact second.weaken
  | cons c cs ih =>
    cases c with
    | attach => exact ⟨first.1, ih first.2⟩
    | _ => exact ih first

theorem supplied_of_unattached (unattached : ∀ c ∈ cs, c.kind ≠ .attach) : Supplied none cs := by
  induction cs with
  | nil => trivial
  | cons c cs ih =>
    have rest := ih fun c' hc' => unattached c' (List.mem_cons_of_mem _ hc')
    cases c with
    | attach => exact absurd rfl (unattached _ List.mem_cons_self)
    | allocate => exact rest.weaken
    | _ => exact rest

theorem countP_unattached (unattached : ∀ c ∈ cs, c.kind ≠ .attach) :
    cs.countP Call.isAttach = 0 := by
  rw [List.countP_eq_zero]
  intro c hc
  cases c with
  | attach => exact absurd rfl (unattached _ hc)
  | _ => simp [Call.isAttach]

end Supplied

/-- Between the stages, so many frames were attached, each right after memory was given for it. -/
def Attaches (n : Nat) (s s' : Stage) : Prop :=
  ∃ cs, s'.calls = s.calls ++ cs ∧ Supplied none cs ∧ cs.countP Call.isAttach = n

namespace Attaches

variable {s s' s'' : Stage} {n k : Nat}

theorem of_made {kinds : List Call.Kind} (made : Made kinds s s') (without : .attach ∉ kinds) :
    Attaches 0 s s' := by
  obtain ⟨cs, calls, all⟩ := made
  have unattached : ∀ c ∈ cs, c.kind ≠ .attach := fun c hc same => without (same ▸ all c hc)
  exact ⟨cs, calls, supplied_of_unattached unattached, countP_unattached unattached⟩

theorem trans (first : Attaches n s s') (second : Attaches k s' s'') : Attaches (n + k) s s'' := by
  obtain ⟨cs, calls, supplied, count⟩ := first
  obtain ⟨cs', calls', supplied', count'⟩ := second
  refine ⟨cs ++ cs', ?_, supplied.append supplied', ?_⟩
  · rw [calls', calls, List.append_assoc]
  · rw [List.countP_append, count, count']

theorem congr (attaches : Attaches n s s') (calls : s''.calls = s'.calls) : Attaches n s s'' := by
  obtain ⟨cs, h, supplied, count⟩ := attaches
  exact ⟨cs, calls.trans h, supplied, count⟩

end Attaches

/-! ## One monitor -/

section One

variable {d : Display} {content : Content} {filter : Filter} {id : MonitorId} {m : Monitor}
  {s : Stage} {f : FrameId}

theorem isBarred_of_error {e : DisplayError} {pixels : Array UInt8} {extent : Extent}
    (refused : d.allocate f m.frameSize = .error e) :
    m.isBarred d pixels extent filter f = true := by
  simp only [Monitor.isBarred, refused]

theorem isBarred_of_ok {memory : Array UInt8} (given : d.allocate f m.frameSize = .ok memory)
    (pixels : Array UInt8) (extent : Extent) (filter : Filter) :
    m.isBarred d pixels extent filter f =
      !(Cover.cover memory m.frameSize pixels extent filter).isOk := by
  simp only [Monitor.isBarred, given]

/-- What is attached goes with memory that was given right before. -/
theorem attachFrame_attaches (surface : SurfaceId) (f : FrameId) (size : Extent)
    (pixels : Array UInt8) (s : Stage) :
    Attaches 1 s ((s.call (.allocate f size)).attachFrame id m surface f size pixels) := by
  obtain ⟨cs, calls, kinds⟩ : Made [.free] _
      ((s.call (.allocate f size)).attachFrame id m surface f size pixels) :=
    Made.retireOption (.refl _) m.frame (by simp)
  have unattached : ∀ c ∈ cs, c.kind ≠ .attach := by
    intro c hc same
    have kind := kinds c hc
    rw [same] at kind
    simp at kind
  refine ⟨.allocate f size :: .attach surface f m.scale size pixels :: cs, ?_,
    ⟨rfl, supplied_of_unattached unattached⟩, ?_⟩
  · rw [calls]
    simp [Stage.call, Stage.putFrame, Stage.note, Stage.putMonitor]
  · rw [List.countP_cons_of_neg (by simp [Call.isAttach]), List.countP_cons_of_pos rfl,
      countP_unattached unattached]

/-- What drawing on a monitor comes to, told from the monitor and the next frame. -/
theorem drawFrame_verdict (d : Display) (id : MonitorId) (m : Monitor) (pixels : Array UInt8)
    (extent : Extent) (filter : Filter) (s : Stage) :
    (m.isBarred d pixels extent filter s.wall.nextFrame = true ∧
      (∃ e, (s.drawFrame d id m pixels extent filter).1 = .error e) ∧
      Attaches 0 s (s.drawFrame d id m pixels extent filter).2) ∨
    (m.isBarred d pixels extent filter s.wall.nextFrame = false ∧ m.surface = none ∧
      (s.drawFrame d id m pixels extent filter).1 = .ok .skipped ∧
      Attaches 0 s (s.drawFrame d id m pixels extent filter).2) ∨
    (m.isBarred d pixels extent filter s.wall.nextFrame = false ∧ m.surface ≠ none ∧
      (s.drawFrame d id m pixels extent filter).1 = .ok .drawn ∧
      Attaches 1 s (s.drawFrame d id m pixels extent filter).2) := by
  have freed : Attaches 0 s (Stage.call (.free s.wall.nextFrame)
      (Stage.call (.allocate s.wall.nextFrame m.frameSize)
        { s with wall := { s.wall with nextFrame := s.wall.nextFrame + 1 } })) := by
    refine ⟨[.allocate s.wall.nextFrame m.frameSize, .free s.wall.nextFrame], ?_, trivial, rfl⟩
    simp [Stage.call]
  cases given : d.allocate s.wall.nextFrame m.frameSize with
  | error e =>
    refine .inl ⟨isBarred_of_error given, ⟨.display e, ?_⟩, ?_⟩
    · simp only [Stage.drawFrame, given]
    · simp only [Stage.drawFrame, given]
      exact ⟨[.allocateFailed _ _], rfl, trivial, rfl⟩
  | ok memory =>
    have barred := isBarred_of_ok given pixels extent filter
    simp only [Stage.drawFrame, given, Stage.fillFrame]
    cases covered : Cover.cover memory m.frameSize pixels extent filter with
    | error e =>
      rw [covered] at barred
      exact .inl ⟨barred, ⟨_, rfl⟩, freed⟩
    | ok filled =>
      rw [covered] at barred
      cases held : m.surface with
      | none => exact .inr (.inl ⟨barred, rfl, rfl, freed⟩)
      | some surface =>
        refine .inr (.inr ⟨barred, Option.some_ne_none surface, rfl, ?_⟩)
        exact attachFrame_attaches surface s.wall.nextFrame m.frameSize filled.1
          { s with wall := { s.wall with nextFrame := s.wall.nextFrame + 1 } }

theorem drawOn_verdict (d : Display) (pixels : Array UInt8) (extent : Extent) (filter : Filter)
    (found : s.monitor? id = some m) :
    (s.drawOn d id pixels extent filter).1 =
        m.verdict d (.image pixels extent) filter s.wall.nextFrame ∧
      Attaches ([m.verdict d (.image pixels extent) filter s.wall.nextFrame].count .drawn) s
        (s.drawOn d id pixels extent filter).2 := by
  cases ready : m.phase.isDrawable with
  | false =>
    have skips : m.verdict d (.image pixels extent) filter s.wall.nextFrame = .skipped := by
      simp [Monitor.verdict, ready]
    rw [skips]
    simp only [Stage.drawOn, found, ready]
    exact ⟨rfl, [], (List.append_nil _).symm, trivial, rfl⟩
  | true =>
    have outcome := drawFrame_verdict d id m pixels extent filter s
    simp only [Stage.drawOn, found, ready, if_true, Monitor.verdict]
    generalize s.drawFrame d id m pixels extent filter = drew at outcome ⊢
    obtain ⟨answer, s'⟩ := drew
    rcases outcome with ⟨barred, ⟨e, failed⟩, attaches⟩ | ⟨barred, bare, skips, attaches⟩ |
      ⟨barred, held, draws, attaches⟩
    · cases failed
      rw [barred]
      exact ⟨rfl, attaches.congr rfl⟩
    · cases skips
      rw [barred, bare]
      exact ⟨rfl, attaches⟩
    · cases draws
      rw [barred, Option.isSome_iff_ne_none.mpr held]
      exact ⟨rfl, attaches⟩

theorem clearOn_verdict (d : Display) (filter : Filter) (f : FrameId)
    (found : s.monitor? id = some m) :
    (s.clearOn id).1 = m.verdict d .clear filter f ∧ Attaches 0 s (s.clearOn id).2 := by
  have made : Made [.detach, .commit, .free] s (s.clearOn id).2 :=
    Made.clearOn (.refl s) id (by simp) (by simp) (by simp)
  refine ⟨?_, .of_made made (by simp)⟩
  simp only [Stage.clearOn, found, Monitor.verdict]
  cases m.surface with
  | none => rfl
  | some surface => cases m.frame <;> rfl

/-- What comes of a monitor is told from the monitor and the next frame. -/
theorem applyOn_verdict (d : Display) (content : Content) (filter : Filter)
    (found : s.monitor? id = some m) :
    (s.applyOn d content filter id).1 = m.verdict d content filter s.wall.nextFrame ∧
      Attaches ([m.verdict d content filter s.wall.nextFrame].count .drawn) s
        (s.applyOn d content filter id).2 := by
  cases content with
  | image pixels extent => exact drawOn_verdict d pixels extent filter found
  | clear =>
    have undrawn : [m.verdict d .clear filter s.wall.nextFrame].count .drawn = 0 := by
      simp only [Monitor.verdict]
      split <;> rfl
    rw [undrawn]
    exact clearOn_verdict d filter s.wall.nextFrame found

/-- Serving one monitor leaves the others as they are. -/
theorem monitor?_applyOn_ne (d : Display) (content : Content) (filter : Filter) (s : Stage)
    {j : MonitorId} (other : id ≠ j) :
    (s.applyOn d content filter id).2.wall.monitor? j = s.wall.monitor? j := by
  cases content with
  | clear =>
    rcases s.clearOn_cases id with ⟨wall, _⟩ | ⟨m, surface, f, _, _, _, cleared⟩
    · rw [Stage.applyOn, wall]
    · obtain ⟨phase, wall⟩ := wall_clearFrame id m surface f s
      rw [Stage.applyOn, cleared, wall, monitor?_retireFrame, monitor?_putMonitor, if_neg other]
  | image pixels extent =>
    rcases s.drawOn_cases d id pixels extent filter with ⟨wall, _⟩ | ⟨m, _, wall, _⟩
    · rw [Stage.applyOn, wall]
    · rw [Stage.applyOn, wall]
      rcases wall_drawFrame d id m pixels extent filter s with claimed | ⟨filled, painted⟩
      · rw [claimed]
        rfl
      · rw [painted, monitor?_paint, if_neg other]

/-- The next frame is another one if, and only if, a frame was asked for. -/
theorem nextFrame_applyOn (d : Display) (content : Content) (filter : Filter)
    (found : s.monitor? id = some m) :
    (s.applyOn d content filter id).2.wall.nextFrame =
      if content.claims m then s.wall.nextFrame + 1 else s.wall.nextFrame := by
  cases content with
  | clear =>
    rcases s.clearOn_cases id with ⟨wall, _⟩ | ⟨m, surface, f, _, _, _, cleared⟩
    · rw [Stage.applyOn, wall]
      rfl
    · obtain ⟨phase, wall⟩ := wall_clearFrame id m surface f s
      rw [Stage.applyOn, cleared, wall, nextFrame_retireFrame]
      rfl
  | image pixels extent =>
    cases ready : m.phase.isDrawable with
    | false =>
      simp only [Stage.applyOn, Stage.drawOn, found, ready, Content.claims]
      rfl
    | true =>
      rw [Stage.applyOn, (Stage.drawOn_ready d pixels extent filter found ready).1,
        Content.claims, if_pos ready]
      rcases wall_drawFrame d id m pixels extent filter s with claimed | ⟨filled, painted⟩
      · rw [claimed]
        rfl
      · rw [painted, nextFrame_paint]

end One

/-! ## All that are meant -/

/-- The monitors whose turn comes later are as before. -/
theorem listed_applyOn (d : Display) (content : Content) (filter : Filter)
    {e : MonitorId × Monitor} {ms : List (MonitorId × Monitor)} (once : e.1 ∉ ms.map (·.1))
    {s : Stage} (listed : ∀ e' ∈ e :: ms, s.wall.monitor? e'.1 = some e'.2) :
    ∀ e' ∈ ms, (s.applyOn d content filter e.1).2.wall.monitor? e'.1 = some e'.2 := by
  intro e' he'
  have other : e.1 ≠ e'.1 := by
    intro same
    exact once (List.mem_map.mpr ⟨e', he', same.symm⟩)
  rw [monitor?_applyOn_ne d content filter s other]
  exact listed e' (List.mem_cons_of_mem _ he')

theorem applyAll_verdicts (d : Display) (content : Content) (filter : Filter)
    {ms : List (MonitorId × Monitor)} (nodup : (ms.map (·.1)).Nodup) (r : Report) {s : Stage}
    (listed : ∀ e ∈ ms, s.wall.monitor? e.1 = some e.2) :
    let vs := (numbered content s.wall.nextFrame ms).map fun e => e.2.2.verdict d content filter e.1
    (Stage.applyAll d content filter (ms.map (·.1)) r s).1 = vs.foldl Report.count r ∧
      Attaches (vs.count .drawn) s (Stage.applyAll d content filter (ms.map (·.1)) r s).2 := by
  induction ms generalizing r s with
  | nil => exact ⟨rfl, [], (List.append_nil _).symm, trivial, rfl⟩
  | cons e ms ih =>
    obtain ⟨once, nodup⟩ := List.nodup_cons.mp nodup
    have here := listed e List.mem_cons_self
    obtain ⟨verdict, first⟩ := applyOn_verdict d content filter here
    have still := listed_applyOn d content filter once listed
    obtain ⟨counted, rest⟩ := ih nodup (r.count (s.applyOn d content filter e.1).1) still
    rw [nextFrame_applyOn d content filter here] at counted rest
    simp only [numbered, List.map_cons, Stage.applyAll, List.foldl_cons]
    refine ⟨?_, ?_⟩
    · rw [counted, verdict]
    · have both := first.trans rest
      rw [← List.count_append, List.singleton_append] at both
      exact both

/-- A report counts what must come of the monitors that are meant. -/
theorem apply_verdicts (d : Display) (target : Option String) (content : Content)
    (filter : Filter) (s : Stage) :
    (s.apply d target content filter).1 =
        .ofVerdicts (s.wall.verdicts d target content filter) ∧
      Attaches ((s.wall.verdicts d target content filter).count .drawn) s
        (s.apply d target content filter).2 := by
  have named : s.wall.targets target = (s.wall.meant target).map (·.1) := rfl
  have nodup := nodup_targets s.wall target
  have listed : ∀ e ∈ s.wall.meant target, s.wall.monitor? e.1 = some e.2 := fun e he =>
    Table.find?_eq_some_iff.mpr (List.mem_filter.mp he).1
  have matched : ((s.wall.meant target).map (·.1)).length =
      (s.wall.verdicts d target content filter).length := by
    rw [verdicts, ← map_due s.wall target content]
    simp only [List.length_map]
  rw [named] at nodup
  obtain ⟨counted, attaches⟩ := applyAll_verdicts d content filter nodup
    { Report.empty with matched := ((s.wall.meant target).map (·.1)).length } listed
  simp only [Stage.apply, named]
  refine ⟨?_, ?_⟩
  · rw [counted, Report.foldl_count, matched]
    simp [Report.ofVerdicts, Report.empty, verdicts, due]
  · refine attaches.congr ?_
    unfold Stage.noteUnmatched
    split <;> rfl

end Wall
end Backdrop
