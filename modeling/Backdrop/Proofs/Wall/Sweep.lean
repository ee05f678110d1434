import Backdrop.Proofs.Wall.Handshake
import Backdrop.Proofs.Wall.Release
import Backdrop.Proofs.Wall.Verdict

/-!
# Backdrop.Proofs.Wall.Sweep

A request to clear takes every picture away that it means, and does nothing else.

* `Monitor.bared` is a monitor after its picture was taken away, and `Wall.baring` what the display
  server is asked for it. `Wall.sweep` puts this together for all monitors that a request means.
* `Swept target s s' r` compares the stages before and after a request to clear, which the report
  `r` answers.
* `swept_run`: this holds of every request to clear after every run, and the same request right
  after it finds nothing to do.
-/

namespace Backdrop
namespace Wall

/-- A monitor whose picture is taken away waits for a size again. -/
def Monitor.bared (m : Monitor) : Monitor :=
  match m.frame with
  | none => m
  | some _ => { m with frame := none, phase := .pendingConfigure }

/-- What the display server is asked when the picture of a monitor is taken away. -/
def baring (w : Wall) (m : Monitor) : List Call :=
  match m.surface, m.frame with
  | some surface, some f => .detach surface m.scale :: .commit surface :: w.spent f Frame.retire
  | _, _ => []

/-- What the display server is asked for all monitors that are meant. -/
def sweep (w : Wall) (target : Option String) : List Call :=
  (w.meant target).flatMap fun e => w.baring e.2

structure Swept (target : Option String) (s s' : Stage) (r : Report) : Prop where
  report : r = ⟨(s.wall.meant target).length, 0,
    (s.wall.meant target).countP fun e => e.2.surface.isSome,
    (s.wall.meant target).countP fun e => e.2.surface.isNone, 0⟩
  monitors : s'.wall.monitors = s.wall.monitors.mapWithKey fun _ m =>
    if m.matchesTarget target then m.bared else m
  bare : ∀ id m, s'.wall.monitor? id = some m → m.matchesTarget target = true → m.frame = none
  /-- The frames that were shown are retired. -/
  slots : ∀ f, s'.wall.frame? f =
    if ∃ e ∈ s.wall.meant target, e.2.frame = some f then (s.wall.frame? f).bind Frame.retire
    else s.wall.frame? f
  keys : s'.wall.nextMonitor = s.wall.nextMonitor ∧ s'.wall.nextFrame = s.wall.nextFrame ∧
    s'.wall.nextSurface = s.wall.nextSurface
  calls : s'.calls = s.calls ++ s.wall.sweep target
  /-- No memory is asked for and no frame is attached. -/
  kinds : ∀ c ∈ s.wall.sweep target, c.kind ∈ [.detach, .commit, .free]
  /-- Whatever shows a picture has a surface. -/
  worn : ∀ id m, s.wall.monitor? id = some m → m.frame.isSome = true → m.surface.isSome = true
  surfaces : ∀ id m surface, s.wall.monitor? id = some m → m.surface = some surface →
    (s.wall.sweep target).filter (fun c => (Event.call c).surface? == some surface) =
      if m.matchesTarget target && m.frame.isSome then [.detach surface m.scale, .commit surface]
      else []

/-! ## One monitor -/

namespace Monitor

variable (m : Monitor)

theorem frame_bared : m.bared.frame = none := by
  unfold bared
  split
  · assumption
  · rfl

theorem surface_bared : m.bared.surface = m.surface := by
  unfold bared
  split <;> rfl

theorem matchesTarget_bared (target : Option String) :
    m.bared.matchesTarget target = m.matchesTarget target := by
  unfold bared
  split <;> rfl

variable {m}

theorem bared_of_bare (bare : m.frame = none) : m.bared = m := by
  unfold bared
  rw [bare]

end Monitor

theorem baring_of_bare {w : Wall} {m : Monitor} (bare : m.frame = none) : w.baring m = [] := by
  unfold baring
  rw [bare]
  cases m.surface <;> rfl

/-- What is asked for a monitor depends on the slot of its frame only. -/
theorem baring_congr {w w' : Wall} {m : Monitor}
    (same : ∀ f, m.frame = some f → w'.frame? f = w.frame? f) : w'.baring m = w.baring m := by
  unfold baring
  cases m.surface with
  | none => rfl
  | some surface =>
    cases shown : m.frame with
    | none => rfl
    | some f => simp only [spent, same f shown]

/-- What clearing one monitor comes to. -/
structure Bares (id : MonitorId) (m : Monitor) (s s' : Stage) : Prop where
  monitors : ∀ j, s'.wall.monitor? j = if id = j then some m.bared else s.wall.monitor? j
  slots : ∀ f, s'.wall.frame? f =
    if m.frame = some f then (s.wall.frame? f).bind Frame.retire else s.wall.frame? f
  keys : s'.wall.nextMonitor = s.wall.nextMonitor ∧ s'.wall.nextFrame = s.wall.nextFrame ∧
    s'.wall.nextSurface = s.wall.nextSurface
  calls : s'.calls = s.calls ++ s.wall.baring m

theorem clearFrame_bares {id : MonitorId} {m : Monitor} {surface : SurfaceId} {f : FrameId}
    (s : Stage) (held : m.surface = some surface) (shown : m.frame = some f)
    (ready : m.phase = .drawable) : Bares id m s (s.clearFrame id m surface f) := by
  obtain ⟨s₁, cleared, wall, calls⟩ : ∃ s₁ : Stage, s.clearFrame id m surface f = s₁.retire f ∧
      s₁.wall = s.wall.putMonitor id m.bared ∧
      s₁.calls = s.calls ++ [.detach surface m.scale, .commit surface] := by
    refine ⟨_, if_pos (by simp [Phase.isDrawable, ready]), ?_, by simp [Stage.call, Stage.note,
      Stage.putMonitor]⟩
    simp only [Monitor.bared, shown]
    rfl
  have settles := settles_retire f s₁
  rw [cleared]
  refine ⟨fun j => ?_, fun k => ?_, ?_, ?_⟩
  · rw [settles.wall, wall]
    exact monitor?_putMonitor _ _ _ _
  · rw [settles.wall, wall, shown]
    simp only [Option.some.injEq]
    exact Table.find?_change _ _ _ _
  · rw [settles.wall, wall]
    exact ⟨rfl, rfl, rfl⟩
  · rw [settles.calls, wall, calls, baring, held, shown, List.append_assoc]
    rfl

theorem clearOn_bares {id : MonitorId} {m : Monitor} {s : Stage}
    (found : s.wall.monitor? id = some m) (fit : m.Fit) : Bares id m s (s.clearOn id).2 := by
  have looked : s.monitor? id = some m := found
  cases shown : m.frame with
  | none =>
    -- Nothing changes but the log.
    obtain ⟨wall, calls⟩ : (s.clearOn id).2.wall = s.wall ∧ (s.clearOn id).2.calls = s.calls := by
      cases held : m.surface <;> simp [Stage.clearOn, looked, held, shown, Stage.note]
    refine ⟨fun j => ?_, fun f => ?_, by simp [wall], ?_⟩
    · rw [wall, Monitor.bared_of_bare shown]
      split
      · rename_i own
        rw [← own, found]
      · rfl
    · simp [wall, shown]
    · rw [calls, baring_of_bare shown, List.append_nil]
  | some f =>
    have ready : m.phase = .drawable := fit.shown_drawable (by simp [shown])
    obtain ⟨surface, held⟩ := fit.surface_of_drawable ready
    simp only [Stage.clearOn, looked, held, shown]
    exact clearFrame_bares s held shown ready

/-! ## All that are meant -/

/-- What clearing some monitors comes to. -/
structure BaresAll (ms : List (MonitorId × Monitor)) (s s' : Stage) : Prop where
  monitors : ∀ j, s'.wall.monitor? j =
    (s.wall.monitor? j).map fun m => if j ∈ ms.map (·.1) then m.bared else m
  slots : ∀ f, s'.wall.frame? f =
    if ∃ e ∈ ms, e.2.frame = some f then (s.wall.frame? f).bind Frame.retire else s.wall.frame? f
  keys : s'.wall.nextMonitor = s.wall.nextMonitor ∧ s'.wall.nextFrame = s.wall.nextFrame ∧
    s'.wall.nextSurface = s.wall.nextSurface
  calls : s'.calls = s.calls ++ ms.flatMap fun e => s.wall.baring e.2

theorem BaresAll.cons {e : MonitorId × Monitor} {ms : List (MonitorId × Monitor)}
    {s s' s'' : Stage} (found : s.wall.monitor? e.1 = some e.2) (once : e.1 ∉ ms.map (·.1))
    (apart : ∀ f, e.2.frame = some f → ∀ e' ∈ ms, e'.2.frame ≠ some f)
    (first : Bares e.1 e.2 s s') (rest : BaresAll ms s' s'') : BaresAll (e :: ms) s s'' := by
  refine ⟨fun j => ?_, fun f => ?_, ?_, ?_⟩
  · rw [rest.monitors, first.monitors]
    by_cases own : e.1 = j
    · subst own
      simp [found, once]
    · have same : j ∈ (e :: ms).map (·.1) ↔ j ∈ ms.map (·.1) := by
        rw [List.map_cons, List.mem_cons]
        exact or_iff_right (Ne.symm own)
      rw [if_neg own]
      simp only [same]
  · rw [rest.slots, first.slots]
    by_cases own : e.2.frame = some f
    · have others : ¬ ∃ e' ∈ ms, e'.2.frame = some f := by
        rintro ⟨e', he', shown⟩
        exact apart f own e' he' shown
      rw [if_neg others, if_pos own, if_pos ⟨e, List.mem_cons_self, own⟩]
    · have same : (∃ e' ∈ e :: ms, e'.2.frame = some f) ↔ ∃ e' ∈ ms, e'.2.frame = some f := by
        rw [List.exists_mem_cons_iff]
        exact or_iff_right own
      rw [if_neg own]
      simp only [same]
  · obtain ⟨monitor, frame, surface⟩ := rest.keys
    obtain ⟨monitor', frame', surface'⟩ := first.keys
    exact ⟨monitor.trans monitor', frame.trans frame', surface.trans surface'⟩
  · have others : ms.flatMap (fun e' => s'.wall.baring e'.2) =
        ms.flatMap fun e' => s.wall.baring e'.2 := by
      refine List.flatMap_congr fun e' he' => baring_congr fun f shown => ?_
      rw [first.slots, if_neg fun own => apart f own e' he' shown]
    rw [rest.calls, first.calls, others, List.flatMap_cons, List.append_assoc]

theorem applyAll_bares (d : Display) (filter : Filter) {ms : List (MonitorId × Monitor)}
    (nodup : (ms.map (·.1)).Nodup) (r : Report) {s : Stage} (sound : SoundAt (.still s.wall))
    (listed : ∀ e ∈ ms, s.wall.monitor? e.1 = some e.2) :
    BaresAll ms s (Stage.applyAll d .clear filter (ms.map (·.1)) r s).2 := by
  -- By induction on the monitors still to be served; the wall stays sound.
  induction ms generalizing r s with
  | nil =>
    refine ⟨fun j => ?_, fun f => ?_, ⟨rfl, rfl, rfl⟩, (List.append_nil _).symm⟩
    · simp [Stage.applyAll]
    · simp [Stage.applyAll]
  | cons e ms ih =>
    obtain ⟨once, nodup⟩ := List.nodup_cons.mp nodup
    have here := listed e List.mem_cons_self
    have first := clearOn_bares here (sound.monitors.fit here)
    have rest := ih nodup (r.count (s.clearOn e.1).1) (sound.leads (Stage.clearOn_leads e.1 s))
      (listed_applyOn d .clear filter once listed)
    refine .cons here once (fun f shown e' he' shown' => ?_) first rest
    have there := listed e' (List.mem_cons_of_mem _ he')
    have same : e.1 = e'.1 := sound.sound.frames_apart here there shown shown'
    exact once (List.mem_map.mpr ⟨e', he', same.symm⟩)

/-! ## What is asked for -/

theorem kind_of_baring {w : Wall} {m : Monitor} {c : Call} (hc : c ∈ w.baring m) :
    c.kind ∈ [Call.Kind.detach, .commit, .free] := by
  unfold baring at hc
  split at hc
  · rcases List.mem_cons.mp hc with rfl | hc
    · simp [Call.kind]
    rcases List.mem_cons.mp hc with rfl | hc
    · simp [Call.kind]
    unfold spent at hc
    split at hc
    · cases List.mem_singleton.mp hc
      simp [Call.kind]
    · cases hc
  · cases hc

/-- What is asked for a monitor on a surface. -/
theorem filter_baring (w : Wall) (m : Monitor) (surface : SurfaceId) :
    (w.baring m).filter (fun c => (Event.call c).surface? == some surface) =
      if m.surface = some surface ∧ m.frame.isSome then
        [.detach surface m.scale, .commit surface]
      else [] := by
  have free : ∀ f, (w.spent f Frame.retire).filter
      (fun c => (Event.call c).surface? == some surface) = [] := by
    intro f
    unfold spent
    split <;> rfl
  unfold baring
  cases held : m.surface with
  | none => simp
  | some k =>
    cases shown : m.frame with
    | none => simp
    | some f =>
      by_cases own : k = surface
      · subst own
        rw [List.filter_cons_of_pos (by simp), List.filter_cons_of_pos (by simp), free,
          if_pos (by simp)]
      · rw [List.filter_cons_of_neg (by simpa using own),
          List.filter_cons_of_neg (by simpa using own), free, if_neg (by simp [own])]

/-- Of a list with keys, the entry with one key. -/
theorem flatMap_one {α : Type} {es : List (MonitorId × Monitor)} (nodup : (es.map (·.1)).Nodup)
    {e : MonitorId × Monitor} (he : e ∈ es) (f : MonitorId × Monitor → List α)
    (others : ∀ e' ∈ es, e'.1 ≠ e.1 → f e' = []) : es.flatMap f = f e := by
  obtain ⟨before, after, rfl⟩ := List.append_of_mem he
  rw [List.map_append, List.map_cons, List.nodup_append] at nodup
  obtain ⟨_, nodup, apart⟩ := nodup
  have once := (List.nodup_cons.mp nodup).1
  have early : before.flatMap f = [] := by
    refine List.flatMap_eq_nil_iff.mpr fun e' he' => others e' (by simp [he']) fun same => ?_
    exact apart _ (List.mem_map_of_mem he') _ List.mem_cons_self same
  have late : after.flatMap f = [] := by
    refine List.flatMap_eq_nil_iff.mpr fun e' he' => others e' (by simp [he']) fun same => ?_
    exact once (same ▸ List.mem_map_of_mem he')
  rw [List.flatMap_append, List.flatMap_cons, early, late, List.nil_append, List.append_nil]

theorem filter_sweep {w : Wall} (sound : Sound w) (target : Option String) {id : MonitorId}
    {m : Monitor} {surface : SurfaceId} (found : w.monitor? id = some m)
    (held : m.surface = some surface) :
    (w.sweep target).filter (fun c => (Event.call c).surface? == some surface) =
      if m.matchesTarget target && m.frame.isSome then [.detach surface m.scale, .commit surface]
      else [] := by
  -- No other monitor has the surface.
  have others : ∀ e ∈ w.meant target, e.1 ≠ id →
      (w.baring e.2).filter (fun c => (Event.call c).surface? == some surface) = [] := by
    intro e he other
    have there : w.monitor? e.1 = some e.2 :=
      Table.find?_eq_some_iff.mpr (List.mem_filter.mp he).1
    rw [filter_baring, if_neg]
    rintro ⟨held', _⟩
    exact other (sound.surfaces_apart there found held' held)
  rw [sweep, List.filter_flatMap]
  cases meant_ : m.matchesTarget target with
  | true =>
    have listed : (id, m) ∈ w.meant target :=
      List.mem_filter.mpr ⟨Table.find?_eq_some_iff.mp found, meant_⟩
    have nodup : ((w.meant target).map (·.1)).Nodup := nodup_targets w target
    rw [flatMap_one nodup listed _ others, filter_baring]
    simp [held]
  | false =>
    rw [List.flatMap_eq_nil_iff.mpr fun e he => others e he ?_]
    · rfl
    · rintro rfl
      obtain ⟨listed, wanted⟩ := List.mem_filter.mp he
      cases found.symm.trans (Table.find?_eq_some_iff.mpr listed)
      rw [meant_] at wanted
      cases wanted

/-! ## Requests -/

theorem apply_clear_report (d : Display) (target : Option String) (filter : Filter) (s : Stage) :
    (s.apply d target .clear filter).1 = ⟨(s.wall.meant target).length, 0,
      (s.wall.meant target).countP fun e => e.2.surface.isSome,
      (s.wall.meant target).countP fun e => e.2.surface.isNone, 0⟩ := by
  have verdicts : s.wall.verdicts d target .clear filter =
      (s.wall.meant target).map fun e =>
        if e.2.surface.isSome then Verdict.cleared else .skipped := by
    rw [Wall.verdicts, ← map_due s.wall target .clear, List.map_map]
    rfl
  rw [(apply_verdicts d target .clear filter s).1, verdicts]
  generalize s.wall.meant target = es
  induction es with
  | nil => rfl
  | cons e es ih =>
    simp only [Report.ofVerdicts, Report.mk.injEq] at ih ⊢
    cases held : e.2.surface <;> simp [held, ih]

theorem swept_of_sound {s : Stage} (sound : SoundAt (.still s.wall)) (d : Display)
    (target : Option String) (filter : Filter) :
    Swept target s (s.apply d target .clear filter).2 (s.apply d target .clear filter).1 := by
  have listed : ∀ e ∈ s.wall.meant target, s.wall.monitor? e.1 = some e.2 := fun e he =>
    Table.find?_eq_some_iff.mpr (List.mem_filter.mp he).1
  have nodup : ((s.wall.meant target).map (·.1)).Nodup := nodup_targets s.wall target
  have all := applyAll_bares d filter nodup
    { Report.empty with matched := (s.wall.targets target).length } sound listed
  have wall : (s.apply d target .clear filter).2.wall = _ := Stage.wall_noteUnmatched _ _ _
  have calls : (s.apply d target .clear filter).2.calls = _ := Stage.calls_noteUnmatched _ _ _
  have monitors : (s.apply d target .clear filter).2.wall.monitors =
      s.wall.monitors.mapWithKey fun _ m => if m.matchesTarget target then m.bared else m := by
    refine Table.ext_find? fun j => ?_
    rw [Table.find?_mapWithKey, wall]
    refine (all.monitors j).trans ?_
    change (s.wall.monitor? j).map _ = (s.wall.monitor? j).map _
    cases found : s.wall.monitor? j with
    | none => rfl
    | some m =>
      have meant_iff : j ∈ (s.wall.meant target).map (·.1) ↔ m.matchesTarget target = true := by
        refine mem_targets.trans ⟨?_, fun wanted => ⟨m, found, wanted⟩⟩
        rintro ⟨m', found', wanted⟩
        cases found.symm.trans found'
        exact wanted
      simp only [Option.map_some, meant_iff]
  refine ⟨apply_clear_report d target filter s, monitors, fun id m' found wanted => ?bare,
    fun f => ?_, ?_, ?_, fun c hc => ?kinds, fun id m found shown => ?worn,
    fun id m surface found held => ?surfaces⟩
  case bare =>
    have looked : (s.apply d target .clear filter).2.wall.monitors.find? id = some m' := found
    rw [monitors, Table.find?_mapWithKey, Option.map_eq_some_iff] at looked
    obtain ⟨m, _, rfl⟩ := looked
    split at wanted
    · rename_i meant_
      rw [if_pos meant_]
      exact m.frame_bared
    · rename_i other
      exact absurd wanted other
  case kinds =>
    obtain ⟨e, _, hc⟩ := List.mem_flatMap.mp hc
    exact kind_of_baring hc
  case worn =>
    have fit := sound.monitors.fit found
    exact fit.surface_iff.mpr (by simp [fit.shown_drawable shown])
  case surfaces => exact filter_sweep sound.sound target found held
  · rw [wall]
    exact all.slots f
  · rw [wall]
    exact all.keys
  · rw [calls]
    exact all.calls

/-! ## The same request again -/

section Again

variable {target : Option String} {s s' s'' : Stage} {r r' : Report}

theorem Swept.meant (swept : Swept target s s' r) :
    s'.wall.meant target = (s.wall.meant target).map fun e => (e.1, e.2.bared) := by
  have wanted : ∀ m : Monitor,
      (if m.matchesTarget target then m.bared else m).matchesTarget target =
        m.matchesTarget target := by
    intro m
    split
    · exact m.matchesTarget_bared target
    · rfl
  rw [Wall.meant, swept.monitors]
  simp only [Table.mapWithKey, List.filter_map, Function.comp_def, wanted]
  refine List.map_congr_left fun e he => ?_
  rw [if_pos (List.mem_filter.mp he).2]

/-- Nothing is left to be taken away. -/
theorem Swept.again (first : Swept target s s' r) (second : Swept target s' s'' r') :
    r' = r ∧ s''.wall = s'.wall ∧ s''.calls = s'.calls := by
  have bare : ∀ e ∈ s'.wall.meant target, e.2.frame = none := by
    intro e he
    obtain ⟨listed, wanted⟩ := List.mem_filter.mp he
    exact first.bare e.1 e.2 (Table.find?_eq_some_iff.mpr listed) wanted
  refine ⟨?report, ?wall, ?calls⟩
  case report =>
    rw [second.report, first.report, first.meant]
    simp only [List.length_map, List.countP_map, Function.comp_def, Monitor.surface_bared]
  case wall =>
    have monitors : s''.wall.monitors = s'.wall.monitors := by
      refine Table.ext_find? fun j => ?_
      rw [second.monitors, Table.find?_mapWithKey]
      cases found : s'.wall.monitors.find? j with
      | none => rfl
      | some m =>
        rw [Option.map_some]
        split
        · rename_i wanted
          rw [Monitor.bared_of_bare (first.bare j m found wanted)]
        · rfl
    have frames : s''.wall.frames = s'.wall.frames := by
      refine Table.ext_find? fun f => (second.slots f).trans (if_neg ?_)
      rintro ⟨e, he, shown⟩
      rw [bare e he] at shown
      cases shown
    obtain ⟨monitor, frame, surface⟩ := second.keys
    calc s''.wall
        = ⟨s''.wall.monitors, s''.wall.frames, s''.wall.nextMonitor, s''.wall.nextFrame,
            s''.wall.nextSurface⟩ := rfl
      _ = s'.wall := by rw [monitors, frames, monitor, frame, surface]
  case calls =>
    have nothing : s'.wall.sweep target = [] :=
      List.flatMap_eq_nil_iff.mpr fun e he => baring_of_bare (bare e he)
    rw [second.calls, nothing, List.append_nil]

end Again

/-- A request to clear takes away all pictures that it means, once. -/
theorem swept_run {ops : List (Display × Operation)} (orderly : Stage.empty.Orderly [] ops)
    (d : Display) (target : Option String) (filter : Filter) :
    let s := Stage.empty.run ops
    let (r, s') := s.apply d target .clear filter
    Swept target s s' r ∧ ∀ d' filter',
      (s'.apply d' target .clear filter').1 = r ∧
        (s'.apply d' target .clear filter').2.wall = s'.wall ∧
        (s'.apply d' target .clear filter').2.calls = s'.calls := by
  have sound := soundAt_run orderly
  have first := swept_of_sound sound d target filter
  have later := sound.leads (Stage.apply_leads d target .clear filter _)
  exact ⟨first, fun d' filter' => first.again (swept_of_sound later d' target filter')⟩

/-- Two monitors, of which the second one shows a picture. -/
def pictured : List (Display × Operation) :=
  pairing ++ [(stingy, .apply none (.image #[1, 2, 3, 4] ⟨1, 1⟩) .nearest)]

theorem swept_run_pictured :
    Stage.empty.Orderly [] pictured ∧
      (Stage.empty.run pictured).wall.sweep none = [.detach 1 1, .commit 1] ∧
      (let s := Stage.empty.run pictured
        let (r, s') := s.apply stingy none .clear .nearest
        Swept none s s' r ∧ ∀ d' filter',
          (s'.apply d' none .clear filter').1 = r ∧
            (s'.apply d' none .clear filter').2.wall = s'.wall ∧
            (s'.apply d' none .clear filter').2.calls = s'.calls) :=
  ⟨by decide, by decide, swept_run (by decide) stingy none .nearest⟩

end Wall
end Backdrop
