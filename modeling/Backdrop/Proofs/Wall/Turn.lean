import Backdrop.Proofs.Wall.Move

/-!
# Backdrop.Proofs.Wall.Turn

Every operation is a sequence of moves.

* `Stage.turn` is what one operation adds to the timeline: that it begins, and the calls it makes.
* `Leads s s' M M'`: the calls made between the stages `s` and `s'` are those of moves from `M`
  to `M'`. There is one lemma for each part of an operation.
* `perform_moves` puts them together, under the condition that a monitor is inserted under a key
  that is given out and not in use.
-/

namespace Backdrop
namespace Wall

/-- The events of one operation. -/
def Stage.turn (d : Display) (op : Operation) (s : Stage) : List Event :=
  .operation op :: ((s.perform d op).2.calls.drop s.calls.length).map .call

/-- A monitor is inserted only under a key that is given out and not in use. -/
def Operation.Welcome (op : Operation) (w : Wall) : Prop :=
  match op with
  | .insert id _ _ => w.monitor? id = none ∧ id < w.nextMonitor
  | _ => True

def Leads (s s' : Stage) (M M' : Moment) : Prop :=
  ∃ cs, s'.calls = s.calls ++ cs ∧ Moves M (cs.map .call) M'

namespace Leads

theorem same {s s' : Stage} {M : Moment} (h : s'.calls = s.calls) : Leads s s' M M :=
  ⟨[], by rw [h, List.append_nil], .refl M⟩

theorem ofMove {s s' : Stage} {M M' : Moment} {es : List Event} (cs : List Call)
    (move : Move M es M') (calls : s'.calls = s.calls ++ cs) (events : es = cs.map .call) :
    Leads s s' M M' := by
  subst events
  exact ⟨cs, calls, .single move⟩

theorem trans {s s' s'' : Stage} {M M' M'' : Moment} (h : Leads s s' M M')
    (h' : Leads s' s'' M' M'') : Leads s s'' M M'' := by
  obtain ⟨cs, hc, hm⟩ := h
  obtain ⟨cs', hc', hm'⟩ := h'
  refine ⟨cs ++ cs', ?_, ?_⟩
  · rw [hc', hc, List.append_assoc]
  · rw [List.map_append]
    exact hm.trans hm'

end Leads

namespace Stage

/-! ## Surfaces -/

theorem ensureSurface_leads (d : Display) (id : MonitorId) (s : Stage) :
    Leads s (s.ensureSurface d id) (.still s.wall) (.still (s.ensureSurface d id).wall) := by
  unfold ensureSurface
  split
  · split
    · exact .same rfl
    · rename_i m hm
      split
      · rename_i hp
        split
        · exact .ofMove [.createSurface id m.handle s.wall.nextSurface] (.create hm hp) rfl rfl
        · exact .ofMove [.createSurfaceFailed id m.handle] (.refuse hm) rfl rfl
      · exact .same rfl
  · exact .same rfl

theorem foldl_ensureSurface_leads (d : Display) (ids : List MonitorId) (s : Stage) :
    Leads s (ids.foldl (fun s id => s.ensureSurface d id) s) (.still s.wall)
      (.still (ids.foldl (fun s id => s.ensureSurface d id) s).wall) := by
  induction ids generalizing s with
  | nil => exact .same rfl
  | cons id ids ih => exact (ensureSurface_leads d id s).trans (ih _)

theorem done_leads (d : Display) (id : MonitorId) (s : Stage) :
    Leads s (s.done d id) (.still s.wall) (.still (s.done d id).wall) := by
  unfold done
  split
  · exact ensureSurface_leads d id s
  · exact Leads.trans (.same rfl) (ensureSurface_leads d id _)

@[simp] theorem wall_destroySurface (o : Option SurfaceId) (s : Stage) :
    (s.destroySurface o).wall = s.wall := by
  cases o <;> rfl

theorem destroySurface_leads {s s' : Stage} {o : Option SurfaceId} {M M' : Moment}
    (calls : s'.calls = s.calls) (move : Move M (destruction o) M') :
    Leads s (s'.destroySurface o) M M' := by
  cases o with
  | none => exact .ofMove [] move (by rw [List.append_nil]; exact calls) rfl
  | some surface =>
    exact .ofMove [.destroySurface surface] move (by simp [destroySurface, call, calls]) rfl

/-! ## Frames -/

theorem retireOption_leads (o : Option FrameId) (departing : Option Nat) (s : Stage) :
    Leads s (s.retireOption o) ⟨s.wall, o, departing, false⟩
      ⟨(s.retireOption o).wall, none, departing, false⟩ := by
  cases o with
  | none => exact .same rfl
  | some f =>
    simp only [retireOption, retire]
    split
    · rename_i hf
      exact .ofMove [] (.retireGone departing hf) (List.append_nil _).symm rfl
    · rename_i slot hf
      split
      · rename_i hb
        exact .ofMove [] (.retireBusy departing hf hb) (List.append_nil _).symm rfl
      · rename_i hb
        exact .ofMove [.free f] (.retireIdle departing hf (by simpa using hb)) rfl rfl

theorem retire_leads (f : FrameId) (s : Stage) :
    Leads s (s.retire f) ⟨s.wall, some f, none, false⟩ (.still (s.retire f).wall) :=
  retireOption_leads (some f) none s

theorem closed_leads (id : MonitorId) (s : Stage) :
    Leads s (s.closed id) (.still s.wall) (.still (s.closed id).wall) := by
  unfold closed
  split
  · exact .same rfl
  · rename_i m hm
    let s1 := s.note (Log.info s!"Layer surface for {m.describe id} closed by compositor")
    let bare : Monitor := { m with surface := none, phase := .uncreated, frame := none }
    let s2 := (s1.destroySurface m.surface).putMonitor id bare
    have hw : s2.wall = s.wall.putMonitor id bare := by
      have : (s1.destroySurface m.surface).wall = s.wall := wall_destroySurface _ _
      simp only [s2, putMonitor, Wall.putMonitor, this]
    have gone : Leads s s2 (.still s.wall) ⟨s2.wall, m.frame, none, false⟩ := by
      have destroyed : Leads s (s1.destroySurface m.surface) (.still s.wall)
          ⟨s.wall.putMonitor id bare, m.frame, none, false⟩ :=
        destroySurface_leads rfl (.close hm)
      rw [hw]
      exact destroyed.trans (.same rfl)
    exact gone.trans (retireOption_leads m.frame none s2)

theorem removeMonitor_leads {id : MonitorId} {m : Monitor} {s : Stage}
    (hm : s.wall.monitor? id = some m) :
    Leads s (s.removeMonitor id m) (.still s.wall) (.still (s.removeMonitor id m).wall) := by
  let s1 := ((s.dropMonitor id).note
    (Log.info s!"Output {m.describe id} removed")).destroySurface m.surface
  have hw : s1.wall = s.wall.dropMonitor id := wall_destroySurface _ _
  have gone : Leads s s1 (.still s.wall) ⟨s1.wall, m.frame, some m.handle, false⟩ := by
    rw [hw]
    exact destroySurface_leads rfl (.depart hm)
  have retired := retireOption_leads m.frame (some m.handle) s1
  exact (gone.trans retired).trans
    (.ofMove [.releaseOutput m.handle] (.releaseOutput _ m.handle false) rfl rfl)

theorem removeGlobal_leads (globalName : UInt32) (s : Stage) :
    Leads s (s.removeGlobal globalName).2 (.still s.wall)
      (.still (s.removeGlobal globalName).2.wall) := by
  unfold removeGlobal
  split
  · exact .same rfl
  · split
    · exact .same rfl
    · rename_i m hm
      exact removeMonitor_leads hm

/-! ## Content -/

theorem clearFrame_leads {id : MonitorId} {m : Monitor} {surface : SurfaceId} {f : FrameId}
    {s : Stage} (hm : s.wall.monitor? id = some m) (held : m.surface = some surface)
    (shown : m.frame = some f) :
    Leads s (s.clearFrame id m surface f) (.still s.wall)
      (.still (s.clearFrame id m surface f).wall) := by
  unfold clearFrame
  split
  · rename_i hd
    have ready : m.phase = .drawable := by simpa [Phase.isDrawable] using hd
    refine Leads.trans ?_ (retire_leads f _)
    exact .ofMove [.detach surface m.scale, .commit surface] (.clear hm held shown ready)
      (by simp [call, putMonitor, note]) rfl
  · rename_i hd
    have unready : m.phase ≠ .drawable := by simpa [Phase.isDrawable] using hd
    refine Leads.trans ?_ (retire_leads f _)
    exact .ofMove [] (.uncover hm shown unready) (List.append_nil _).symm rfl

theorem clearOn_leads (id : MonitorId) (s : Stage) :
    Leads s (s.clearOn id).2 (.still s.wall) (.still (s.clearOn id).2.wall) := by
  unfold clearOn
  split
  · exact .same rfl
  · rename_i m hm
    split
    · exact .same rfl
    · rename_i surface held
      split
      · exact .same rfl
      · rename_i f shown
        exact clearFrame_leads hm held shown

theorem drawFrame_leads {d : Display} {id : MonitorId} {m : Monitor} {s : Stage}
    (pixels : Array UInt8) (extent : Extent) (filter : Filter)
    (hm : s.wall.monitor? id = some m) (ready : m.phase = .drawable) :
    Leads s (s.drawFrame d id m pixels extent filter).2 (.still s.wall)
      (.still (s.drawFrame d id m pixels extent filter).2.wall) := by
  simp only [drawFrame]
  split
  · exact .ofMove [.allocateFailed s.wall.nextFrame m.frameSize] (.allocateFailed hm ready) rfl rfl
  · simp only [fillFrame]
    split
    · exact .ofMove [.allocate s.wall.nextFrame m.frameSize, .free s.wall.nextFrame]
        (.spoil hm ready) (by simp [call]) rfl
    · rename_i filled _ _
      split
      · exact .ofMove [.allocate s.wall.nextFrame m.frameSize, .free s.wall.nextFrame]
          (.spoil hm ready) (by simp [call]) rfl
      · rename_i surface held
        refine Leads.trans ?_ (retireOption_leads m.frame none _)
        exact .ofMove [.allocate s.wall.nextFrame m.frameSize,
          .attach surface s.wall.nextFrame m.scale m.frameSize filled]
          (.draw filled hm held ready) (by simp [call, putMonitor, putFrame, note]) rfl

theorem drawOn_leads (d : Display) (id : MonitorId) (pixels : Array UInt8) (extent : Extent)
    (filter : Filter) (s : Stage) :
    Leads s (s.drawOn d id pixels extent filter).2 (.still s.wall)
      (.still (s.drawOn d id pixels extent filter).2.wall) := by
  unfold drawOn
  split
  · exact .same rfl
  · rename_i m hm
    split
    · rename_i hd
      have ready : m.phase = .drawable := by simpa [Phase.isDrawable] using hd
      have drawn := drawFrame_leads (d := d) pixels extent filter hm ready
      split
      · rename_i v s' hs
        rw [hs] at drawn
        exact drawn
      · rename_i e s' hs
        rw [hs] at drawn
        exact drawn.trans (.same rfl)
    · exact .same rfl

theorem applyAll_leads (d : Display) (content : Content) (filter : Filter)
    (ids : List MonitorId) (r : Report) (s : Stage) :
    Leads s (applyAll d content filter ids r s).2 (.still s.wall)
      (.still (applyAll d content filter ids r s).2.wall) := by
  induction ids generalizing r s with
  | nil => exact .same rfl
  | cons id ids ih =>
    have one : Leads s (s.applyOn d content filter id).2 (.still s.wall)
        (.still (s.applyOn d content filter id).2.wall) := by
      cases content with
      | clear => exact clearOn_leads id s
      | image pixels extent => exact drawOn_leads d id pixels extent filter s
    exact one.trans (ih _ _)

@[simp] theorem calls_noteUnmatched (target : Option String) (matched : Nat) (s : Stage) :
    (s.noteUnmatched target matched).calls = s.calls := by
  unfold noteUnmatched
  split <;> rfl

@[simp] theorem wall_noteUnmatched (target : Option String) (matched : Nat) (s : Stage) :
    (s.noteUnmatched target matched).wall = s.wall := by
  unfold noteUnmatched
  split <;> rfl

theorem apply_leads (d : Display) (target : Option String) (content : Content) (filter : Filter)
    (s : Stage) :
    Leads s (s.apply d target content filter).2 (.still s.wall)
      (.still (s.apply d target content filter).2.wall) := by
  have all := applyAll_leads d content filter (s.wall.targets target)
    { Report.empty with matched := (s.wall.targets target).length } s
  simp only [apply, noteUnmatched]
  split
  · exact all.trans (.same rfl)
  · exact all

/-! ## The end -/

theorem tearDownMonitor_leads {id : MonitorId} {m : Monitor} {w : Wall} (s : Stage)
    (hm : w.monitor? id = some m) :
    Leads s (s.tearDownMonitor m) ⟨w, none, none, true⟩ ⟨w.dropMonitor id, none, none, true⟩ :=
  (destroySurface_leads rfl (.leave hm)).trans
    (.ofMove [.releaseOutput m.handle] (.releaseOutput _ m.handle true) rfl rfl)

/-- The monitors go one after another, although the table forgets them at once. -/
theorem foldl_tearDownMonitor_leads {entries : List (MonitorId × Monitor)} {w : Wall} (s : Stage)
    (h : w.monitors.entries = entries) :
    Leads s ((entries.map (·.2)).foldl tearDownMonitor s) ⟨w, none, none, true⟩
      ⟨{ w with monitors := .empty }, none, none, true⟩ := by
  induction entries generalizing w s with
  | nil =>
    have : w = { w with monitors := .empty } := by
      rw [← Table.eq_empty_of_entries h]
    rw [← this]
    exact .same rfl
  | cons e rest ih =>
    obtain ⟨id, m⟩ := e
    have hm : w.monitor? id = some m := Table.find?_eq_some_iff.mpr (by simp [h])
    exact (tearDownMonitor_leads s hm).trans (ih _ (Table.entries_erase_head h))

theorem foldl_free_leads {entries : List (FrameId × Frame)} {w : Wall} (s : Stage)
    (bare : ∀ id, w.monitor? id = none) (h : w.frames.entries = entries) :
    Leads s ((entries.map (·.1)).foldl (fun s f => s.call (.free f)) s) ⟨w, none, none, true⟩
      ⟨{ w with frames := .empty }, none, none, true⟩ := by
  induction entries generalizing w s with
  | nil =>
    have : w = { w with frames := .empty } := by
      rw [← Table.eq_empty_of_entries h]
    rw [← this]
    exact .same rfl
  | cons e rest ih =>
    obtain ⟨f, slot⟩ := e
    have hf : w.frame? f = some slot := Table.find?_eq_some_iff.mpr (by simp [h])
    have first : Leads s (s.call (.free f)) ⟨w, none, none, true⟩
        ⟨w.dropFrame f, none, none, true⟩ :=
      .ofMove [.free f] (.discard bare hf) rfl rfl
    exact first.trans (ih _ bare (Table.entries_erase_head h))

theorem wall_foldl_tearDownMonitor (ms : List Monitor) (s : Stage) :
    (ms.foldl tearDownMonitor s).wall = s.wall := by
  induction ms generalizing s with
  | nil => rfl
  | cons m ms ih =>
    rw [List.foldl_cons, ih]
    exact wall_destroySurface m.surface s

theorem wall_foldl_free (fs : List FrameId) (s : Stage) :
    (fs.foldl (fun s f => s.call (.free f)) s).wall = s.wall := by
  induction fs generalizing s with
  | nil => rfl
  | cons f fs ih => exact ih _

theorem wall_shutdown (s : Stage) :
    s.shutdown.wall = { s.wall with monitors := .empty, frames := .empty } := by
  simp only [shutdown, wall_foldl_free, wall_foldl_tearDownMonitor]

theorem shutdown_leads (s : Stage) :
    Leads s s.shutdown ⟨s.wall, none, none, true⟩ (.still s.shutdown.wall) := by
  rw [wall_shutdown]
  let s1 : Stage := { s with wall := { s.wall with monitors := .empty, frames := .empty } }
  have first : Leads s s1 ⟨s.wall, none, none, true⟩ ⟨s.wall, none, none, true⟩ := .same rfl
  have monitors := foldl_tearDownMonitor_leads s1 (w := s.wall) rfl
  have bare : ∀ id, ({ s.wall with monitors := .empty } : Wall).monitor? id = none := fun _ => rfl
  have frames := foldl_free_leads (s.wall.monitors.values.foldl tearDownMonitor s1) bare rfl
  refine ((first.trans monitors).trans frames).trans ?_
  exact .ofMove [] (.finish (fun _ => rfl) (fun _ => rfl)) (List.append_nil _).symm rfl

end Stage

/-! ## Whole operations -/

theorem turn_eq {d : Display} {op : Operation} {s : Stage} {cs : List Call}
    (h : (s.perform d op).2.calls = s.calls ++ cs) :
    s.turn d op = .operation op :: cs.map .call := by
  simp only [Stage.turn, h, List.drop_left]

theorem turn_moves {d : Display} {op : Operation} {s : Stage} {M : Moment}
    (first : Move (.still s.wall) [.operation op] M)
    (rest : Leads s (s.perform d op).2 M (.still (s.perform d op).2.wall)) :
    Moves (.still s.wall) (s.turn d op) (.still (s.perform d op).2.wall) := by
  obtain ⟨cs, hc, hm⟩ := rest
  rw [turn_eq hc]
  exact .cons first hm

/-- The operation that makes these calls is one move. -/
theorem turn_move {d : Display} {op : Operation} {s : Stage} (cs : List Call)
    (h : (s.perform d op).2.calls = s.calls ++ cs)
    (move : Move (.still s.wall) (.operation op :: cs.map .call)
      (.still (s.perform d op).2.wall)) :
    Moves (.still s.wall) (s.turn d op) (.still (s.perform d op).2.wall) := by
  rw [turn_eq h]
  exact .single move

theorem configure_of_none {id : MonitorId} {s : Stage} (serial : UInt32) (size : Extent)
    (h : ∀ m, s.wall.monitor? id = some m → m.surface = none) :
    s.configure id serial size = (none, s) := by
  unfold Stage.configure
  split
  · rfl
  · rename_i m hm
    rw [h m hm]

theorem configure_of_some {id : MonitorId} {m : Monitor} {surface : SurfaceId} {s : Stage}
    (serial : UInt32) (size : Extent) (hm : s.wall.monitor? id = some m)
    (held : m.surface = some surface) :
    s.configure id serial size = (some (m.phase.onConfigure m.size size),
      (s.call (.acknowledge surface serial)).configureBy id m surface
        (m.phase.onConfigure m.size size)) := by
  have : s.monitor? id = some m := hm
  simp only [Stage.configure, this, held]

theorem configure_moves (d : Display) (id : MonitorId) (serial : UInt32) (size : Extent)
    (s : Stage) :
    Moves (.still s.wall) (s.turn d (.configure id serial size))
      (.still (s.perform d (.configure id serial size)).2.wall) := by
  by_cases h : ∃ m surface, s.wall.monitor? id = some m ∧ m.surface = some surface
  · obtain ⟨m, surface, hm, held⟩ := h
    have performed : (s.perform d (.configure id serial size)).2 =
        (s.call (.acknowledge surface serial)).configureBy id m surface
          (m.phase.onConfigure m.size size) := by
      simp only [Stage.perform, configure_of_some serial size hm held]
    unfold Phase.onConfigure at performed
    split at performed
    · rename_i empty
      refine turn_move [.acknowledge surface serial] (by rw [performed]; rfl) ?_
      rw [performed]
      exact .ignore serial hm held empty
    · rename_i full
      have full : size.isEmpty = false := by simpa using full
      split at performed
      · rename_i same
        refine turn_move [.acknowledge surface serial, .commit surface]
          (by rw [performed]; simp [Stage.configureBy, Stage.call, Stage.note]) ?_
        rw [performed]
        exact .recommit serial hm held full same.1
      · refine turn_move [.acknowledge surface serial] (by rw [performed]; rfl) ?_
        rw [performed]
        exact .resize serial hm held full
  · have performed : (s.perform d (.configure id serial size)).2 = s := by
      have unheld : ∀ m, s.wall.monitor? id = some m → m.surface = none := by
        intro m hm
        cases hs : m.surface with
        | none => rfl
        | some surface => exact absurd ⟨m, surface, hm, hs⟩ h
      simp only [Stage.perform, configure_of_none serial size unheld]
    refine turn_move [] (by rw [performed, List.append_nil]) ?_
    rw [performed]
    exact .heard s.wall _

theorem released_moves (d : Display) (f : FrameId) (s : Stage) :
    Moves (.still s.wall) (s.turn d (.released f)) (.still (s.perform d (.released f)).2.wall) := by
  have performed : (s.perform d (.released f)).2 = s.released f := rfl
  unfold Stage.released at performed
  split at performed
  · refine turn_move [] (by rw [performed, List.append_nil]) ?_
    rw [performed]
    exact .heard s.wall _
  · rename_i slot hf
    split at performed
    · rename_i retired
      refine turn_move [.free f] (by rw [performed]; rfl) ?_
      rw [performed]
      exact .collect hf retired
    · rename_i kept
      refine turn_move [] (by rw [performed, List.append_nil]; rfl) ?_
      rw [performed]
      exact .rest hf (by simpa using kept)

theorem perform_moves {d : Display} {op : Operation} {s : Stage} (welcome : op.Welcome s.wall) :
    Moves (.still s.wall) (s.turn d op) (.still (s.perform d op).2.wall) := by
  have heard := Move.heard s.wall op
  cases op with
  | reserve => exact turn_moves (.reserve s.wall) (.same rfl)
  | insert id globalName handle =>
    exact turn_moves (.announce globalName handle welcome.1 welcome.2)
      (Leads.trans (.same rfl) (Stage.ensureSurface_leads d id _))
  | createMissing => exact turn_moves heard (Stage.foldl_ensureSurface_leads d _ s)
  | setMode id mode => exact turn_moves (.adjust rfl) (.same rfl)
  | setScale id scale => exact turn_moves (.adjust rfl) (.same rfl)
  | setLabel id label => exact turn_moves (.adjust rfl) (.same rfl)
  | done id => exact turn_moves heard (Stage.done_leads d id s)
  | configure id serial size => exact configure_moves d id serial size s
  | closed id => exact turn_moves heard (Stage.closed_leads id s)
  | released f => exact released_moves d f s
  | removeGlobal globalName => exact turn_moves heard (Stage.removeGlobal_leads globalName s)
  | apply target content filter =>
    exact turn_moves heard (Stage.apply_leads d target content filter s)
  | shutdown => exact turn_moves (.strike s.wall) (Stage.shutdown_leads s)

end Wall
end Backdrop
