import Backdrop.Proofs.Wall.Timeline

/-!
# Backdrop.Proofs.Wall.Repertoire

Which calls an operation can make at all.

* `Operation.repertoire` lists the kinds of calls that an operation may lead to.
* `Made kinds s s'`: between the stages `s` and `s'` only calls of these kinds were made. There is
  one lemma for each part of an operation.
* `perform_made` puts them together. It holds in every stage, also in those that no run reaches.
-/

namespace Backdrop
namespace Wall

inductive Call.Kind where
  | createSurface
  | createSurfaceFailed
  | destroySurface
  | acknowledge
  | commit
  | allocate
  | allocateFailed
  | attach
  | detach
  | free
  | releaseOutput
  deriving Repr, DecidableEq

def Call.kind : Call → Call.Kind
  | .createSurface .. => .createSurface
  | .createSurfaceFailed .. => .createSurfaceFailed
  | .destroySurface _ => .destroySurface
  | .acknowledge .. => .acknowledge
  | .commit _ => .commit
  | .allocate .. => .allocate
  | .allocateFailed .. => .allocateFailed
  | .attach .. => .attach
  | .detach .. => .detach
  | .free _ => .free
  | .releaseOutput _ => .releaseOutput

@[simp] def Operation.repertoire : Operation → List Call.Kind
  | .reserve | .setMode .. | .setScale .. | .setLabel .. => []
  | .insert .. | .createMissing | .done _ => [.createSurface, .createSurfaceFailed]
  | .configure .. => [.acknowledge, .commit]
  | .closed _ => [.destroySurface, .free]
  | .released _ => [.free]
  | .apply _ .clear _ => [.detach, .commit, .free]
  | .apply _ (.image ..) _ => [.allocate, .allocateFailed, .attach, .free]
  | .removeGlobal _ | .shutdown => [.destroySurface, .free, .releaseOutput]

def Made (kinds : List Call.Kind) (s s' : Stage) : Prop :=
  ∃ cs, s'.calls = s.calls ++ cs ∧ ∀ c ∈ cs, c.kind ∈ kinds

namespace Made

variable {kinds : List Call.Kind} {s s' s'' : Stage}

theorem refl (s : Stage) : Made kinds s s := by
  refine ⟨[], ?_, ?_⟩
  · rw [List.append_nil]
  · intro c hc
    cases hc

/-- Only the calls of a stage count. -/
theorem congr (made : Made kinds s s') (calls : s''.calls = s'.calls) : Made kinds s s'' := by
  obtain ⟨cs, h, all⟩ := made
  exact ⟨cs, calls.trans h, all⟩

theorem call (made : Made kinds s s') (c : Call) (hc : c.kind ∈ kinds) :
    Made kinds s (s'.call c) := by
  obtain ⟨cs, h, all⟩ := made
  refine ⟨cs ++ [c], ?_, ?_⟩
  · simp [Stage.call, h]
  · intro c' hc'
    rcases List.mem_append.mp hc' with old | new
    · exact all c' old
    · cases List.mem_singleton.mp new
      exact hc

/-! ## Parts of operations -/

theorem ensureSurface (made : Made kinds s s') (d : Display) (id : MonitorId)
    (create : .createSurface ∈ kinds) (refuse : .createSurfaceFailed ∈ kinds) :
    Made kinds s (s'.ensureSurface d id) := by
  unfold Stage.ensureSurface
  split
  · split
    · exact made
    · rename_i m _
      split
      · split
        · have created := made.call (.createSurface id m.handle s'.wall.nextSurface) create
          exact created.congr rfl
        · have refused := made.call (.createSurfaceFailed id m.handle) refuse
          exact refused.congr rfl
      · exact made
  · exact made.congr rfl

theorem foldl_ensureSurface (made : Made kinds s s') (d : Display) (ids : List MonitorId)
    (create : .createSurface ∈ kinds) (refuse : .createSurfaceFailed ∈ kinds) :
    Made kinds s (ids.foldl (fun s id => s.ensureSurface d id) s') := by
  induction ids generalizing s' with
  | nil => exact made
  | cons id ids ih => exact ih (made.ensureSurface d id create refuse)

theorem destroySurface (made : Made kinds s s') (o : Option SurfaceId)
    (destroy : .destroySurface ∈ kinds) : Made kinds s (s'.destroySurface o) := by
  cases o with
  | none => exact made
  | some surface => exact made.call (.destroySurface surface) destroy

theorem retire (made : Made kinds s s') (f : FrameId) (free : .free ∈ kinds) :
    Made kinds s (s'.retire f) := by
  unfold Stage.retire
  split
  · exact made
  · split
    · exact made.congr rfl
    · exact Made.call (made.congr rfl) (.free f) free

theorem retireOption (made : Made kinds s s') (o : Option FrameId) (free : .free ∈ kinds) :
    Made kinds s (s'.retireOption o) := by
  cases o with
  | none => exact made
  | some f => exact made.retire f free

theorem configure (made : Made kinds s s') (id : MonitorId) (serial : UInt32) (size : Extent)
    (acknowledge : .acknowledge ∈ kinds) (commit : .commit ∈ kinds) :
    Made kinds s (s'.configure id serial size).2 := by
  unfold Stage.configure
  split
  · exact made
  · rename_i m _
    split
    · exact made
    · rename_i surface _
      have acknowledged : Made kinds s (s'.call (.acknowledge surface serial)) :=
        made.call (.acknowledge surface serial) acknowledge
      show Made kinds s (Stage.configureBy id m surface (m.phase.onConfigure m.size size) _)
      cases m.phase.onConfigure m.size size with
      | recommit => exact Made.call (acknowledged.congr rfl) (.commit surface) commit
      | resize size => exact acknowledged.congr rfl
      | ignore => exact acknowledged.congr rfl

theorem closed (made : Made kinds s s') (id : MonitorId) (destroy : .destroySurface ∈ kinds)
    (free : .free ∈ kinds) : Made kinds s (s'.closed id) := by
  unfold Stage.closed
  split
  · exact made
  · rename_i m _
    have noted : Made kinds s (s'.note
        (Log.info s!"Layer surface for {m.describe id} closed by compositor")) := made.congr rfl
    refine Made.retireOption ?_ m.frame free
    exact (noted.destroySurface m.surface destroy).congr rfl

theorem released (made : Made kinds s s') (f : FrameId) (free : .free ∈ kinds) :
    Made kinds s (s'.released f) := by
  unfold Stage.released
  split
  · exact made
  · split
    · exact Made.call (made.congr rfl) (.free f) free
    · exact made.congr rfl

theorem removeGlobal (made : Made kinds s s') (globalName : UInt32)
    (destroy : .destroySurface ∈ kinds) (free : .free ∈ kinds) (release : .releaseOutput ∈ kinds) :
    Made kinds s (s'.removeGlobal globalName).2 := by
  unfold Stage.removeGlobal
  split
  · exact made
  · split
    · exact made
    · rename_i id _ _ m _
      have dropped : Made kinds s
          ((s'.dropMonitor id).note (Log.info s!"Output {m.describe id} removed")) := made.congr rfl
      have freed := (dropped.destroySurface m.surface destroy).retireOption m.frame free
      exact freed.call (.releaseOutput m.handle) release

theorem clearOn (made : Made kinds s s') (id : MonitorId) (detach : .detach ∈ kinds)
    (commit : .commit ∈ kinds) (free : .free ∈ kinds) : Made kinds s (s'.clearOn id).2 := by
  unfold Stage.clearOn
  split
  · exact made
  · split
    · exact made
    · rename_i m _ _ surface _
      split
      · exact made.congr rfl
      · rename_i frame _
        unfold Stage.clearFrame
        split
        · have detached := made.call (.detach surface m.scale) detach
          have committed := detached.call (.commit surface) commit
          refine Made.retire ?_ frame free
          exact committed.congr rfl
        · refine Made.retire ?_ frame free
          exact made.congr rfl

theorem drawFrame (made : Made kinds s s') (d : Display) (id : MonitorId) (m : Monitor)
    (pixels : Array UInt8) (extent : Extent) (filter : Filter) (allocate : .allocate ∈ kinds)
    (refuse : .allocateFailed ∈ kinds) (attach : .attach ∈ kinds) (free : .free ∈ kinds) :
    Made kinds s (s'.drawFrame d id m pixels extent filter).2 := by
  simp only [Stage.drawFrame]
  split
  · exact Made.call (made.congr rfl) (.allocateFailed ..) refuse
  · have allocated : Made kinds s (Stage.call (.allocate s'.wall.nextFrame m.frameSize)
        { s' with wall := { s'.wall with nextFrame := s'.wall.nextFrame + 1 } }) :=
      Made.call (made.congr rfl) (.allocate ..) allocate
    simp only [Stage.fillFrame]
    split
    · exact allocated.call (.free _) free
    · split
      · exact allocated.call (.free _) free
      · rename_i filled _ _ _ surface _
        have attached := allocated.call
          (.attach surface s'.wall.nextFrame m.scale m.frameSize filled) attach
        refine Made.retireOption ?_ m.frame free
        exact attached.congr rfl

theorem drawOn (made : Made kinds s s') (d : Display) (id : MonitorId) (pixels : Array UInt8)
    (extent : Extent) (filter : Filter) (allocate : .allocate ∈ kinds)
    (refuse : .allocateFailed ∈ kinds) (attach : .attach ∈ kinds) (free : .free ∈ kinds) :
    Made kinds s (s'.drawOn d id pixels extent filter).2 := by
  unfold Stage.drawOn
  split
  · exact made
  · rename_i m _
    split
    · have drawn := made.drawFrame d id m pixels extent filter allocate refuse attach free
      split
      · rename_i drew
        rw [drew] at drawn
        exact drawn
      · rename_i failed
        rw [failed] at drawn
        exact drawn.congr rfl
    · exact made.congr rfl

theorem applyAll (made : Made kinds s s') (d : Display) (content : Content) (filter : Filter)
    (ids : List MonitorId) (r : Report)
    (one : ∀ {s'} id, Made kinds s s' → Made kinds s (s'.applyOn d content filter id).2) :
    Made kinds s (Stage.applyAll d content filter ids r s').2 := by
  induction ids generalizing r s' with
  | nil => exact made
  | cons id ids ih => exact ih (one id made) _

theorem apply (made : Made kinds s s') (d : Display) (target : Option String) (content : Content)
    (filter : Filter)
    (one : ∀ {s'} id, Made kinds s s' → Made kinds s (s'.applyOn d content filter id).2) :
    Made kinds s (s'.apply d target content filter).2 := by
  have all := applyAll made d content filter (s'.wall.targets target)
    { Report.empty with matched := (s'.wall.targets target).length } one
  simp only [Stage.apply, Stage.noteUnmatched]
  split
  · exact all.congr rfl
  · exact all

theorem shutdown (made : Made kinds s s') (destroy : .destroySurface ∈ kinds)
    (free : .free ∈ kinds) (release : .releaseOutput ∈ kinds) : Made kinds s s'.shutdown := by
  have monitors : ∀ (ms : List Monitor) {s'}, Made kinds s s' →
      Made kinds s (ms.foldl Stage.tearDownMonitor s') := by
    intro ms
    induction ms with
    | nil => exact id
    | cons m ms ih =>
      intro s' made
      exact ih ((made.destroySurface m.surface destroy).call (.releaseOutput m.handle) release)
  have frames : ∀ (fs : List FrameId) {s'}, Made kinds s s' →
      Made kinds s (fs.foldl (fun s f => s.call (.free f)) s') := by
    intro fs
    induction fs with
    | nil => exact id
    | cons f fs ih =>
      intro s' made
      exact ih (made.call (.free f) free)
  exact frames _ (monitors _ (made.congr rfl))

end Made

/-! ## Whole operations -/

theorem perform_made (d : Display) (op : Operation) (s : Stage) :
    Made op.repertoire s (s.perform d op).2 := by
  have made : Made op.repertoire s s := .refl s
  cases op with
  | reserve => exact made.congr rfl
  | insert id globalName handle =>
    refine Made.ensureSurface ?_ d id (by simp) (by simp)
    exact made.congr rfl
  | createMissing => exact made.foldl_ensureSurface d _ (by simp) (by simp)
  | setMode id mode => exact made.congr rfl
  | setScale id scale => exact made.congr rfl
  | setLabel id label => exact made.congr rfl
  | done id =>
    simp only [Stage.perform, Stage.done]
    split
    · exact made.ensureSurface d id (by simp) (by simp)
    · refine Made.ensureSurface ?_ d id (by simp) (by simp)
      exact made.congr rfl
  | configure id serial size => exact made.configure id serial size (by simp) (by simp)
  | closed id => exact made.closed id (by simp) (by simp)
  | released f => exact made.released f (by simp)
  | removeGlobal globalName =>
    exact made.removeGlobal globalName (by simp) (by simp) (by simp)
  | apply target content filter =>
    refine made.apply d target content filter ?_
    intro s' id made
    cases content with
    | clear => exact made.clearOn id (by simp) (by simp) (by simp)
    | image pixels extent =>
      exact made.drawOn d id pixels extent filter (by simp) (by simp) (by simp) (by simp)
  | shutdown => exact made.shutdown (by simp) (by simp) (by simp)

/-- An operation makes the calls of its repertoire. -/
theorem kind_of_turn {d : Display} {op : Operation} {s : Stage} {c : Call}
    (hc : .call c ∈ s.turn d op) : c.kind ∈ op.repertoire := by
  obtain ⟨cs, calls, all⟩ := perform_made d op s
  rw [turn_eq calls] at hc
  simp only [List.mem_cons, reduceCtorEq, false_or, List.mem_map, Event.call.injEq,
    exists_eq_right] at hc
  exact all c hc

end Wall
end Backdrop
