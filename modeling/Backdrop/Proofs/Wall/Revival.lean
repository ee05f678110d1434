import Backdrop.Proofs.Wall.Asking
import Backdrop.Proofs.Wall.Exit

/-!
# Backdrop.Proofs.Wall.Revival

No monitor is lost for good.

* `Wakes` is what the end of a batch of properties does for a monitor, and `Draws` what drawing on a
  monitor comes to.
* `Parked f slot M`: the frame is retired and waits for its release. Nothing but its release and the
  end of everything takes it away.
* `Revived` compares the stages before a monitor is woken, after that and after a request for a
  picture.
* `revived_run`: after every run, whatever went wrong in it, a monitor shows a picture again once it
  was woken, given a size and drawn on.
-/

namespace Backdrop
namespace Wall

/-- The end of a batch of properties, and a request for a size. -/
def Stage.woken (s : Stage) (d d' : Display) (id : MonitorId) (serial : UInt32) (size : Extent) :
    Stage :=
  s.run [(d, .done id), (d', .configure id serial size)]

/-- The surface that a monitor has or is given next. -/
def surfaceOr (w : Wall) (m : Monitor) : SurfaceId := m.surface.getD w.nextSurface

structure Revived (id : MonitorId) (m : Monitor) (size : Extent) (d : Display)
    (target : Option String) (pixels : Array UInt8) (extent : Extent) (filter : Filter)
    (s s' s'' : Stage) (r : Report) (f : FrameId) (slot : Frame) : Prop where
  monitor : s''.wall.monitor? id = some { m with
    surface := some (s.wall.surfaceOr m), phase := .drawable, size := size, frame := some f }
  fresh : s.wall.nextFrame ≤ f
  shown : s''.wall.frame? f = some slot
  owned : slot.owner = id ∧ slot.busy = true ∧ slot.retired = false ∧
    slot.size.width.toNat = size.width.toNat * m.scale.toNat ∧
    slot.size.height.toNat = size.height.toNat * m.scale.toNat
  calls : ∃ past rest, s''.calls = s'.calls ++ past ++ .allocate f slot.size ::
    .attach (s.wall.surfaceOr m) f m.scale slot.size slot.pixels :: rest
  counted : r = .ofVerdicts
      ((s'.tries d target (.image pixels extent) filter).map (·.verdict)) ∧
    ∃ a ∈ s'.tries d target (.image pixels extent) filter, a.id = id ∧ a.verdict = .drawn
  /-- Of the earlier frames, those that were released are freed by the request. -/
  freed : ∀ f₀ slot₀, s.wall.frame? f₀ = some slot₀ → slot₀.owner = id → slot₀.busy = false →
    s''.wall.frame? f₀ = none ∧ ∃ cs, s''.calls = s'.calls ++ cs ∧ .free f₀ ∈ cs
  /-- The others stay until they are released, or until everything is taken down. -/
  kept : ∀ f₀ slot₀, s.wall.frame? f₀ = some slot₀ → slot₀.owner = id → slot₀.busy = true →
    ∀ later : List (Display × Operation),
      (∀ p ∈ later, p.2 ≠ .released f₀ ∧ p.2 ≠ .shutdown) →
        (s''.run later).wall.frame? f₀ = some { slot₀ with retired := true } ∧
        ∀ d' op, op = .released f₀ ∨ op = .shutdown →
          .call (.free f₀) ∈ (s''.run later).turn d' op ∧
            ((s''.run later).perform d' op).2.wall.frame? f₀ = none

/-! ## Waking a monitor -/

structure Wakes (id : MonitorId) (m : Monitor) (s s' : Stage) : Prop where
  monitor : ∃ phase, s'.wall.monitor? id =
    some { m with surface := some (s.wall.surfaceOr m), phase := phase }
  frames : s'.wall.frames = s.wall.frames
  nextFrame : s'.wall.nextFrame = s.wall.nextFrame
  calls : s'.calls = s.calls ++
    if m.surface = none then [.createSurface id m.handle s.wall.nextSurface] else []

/-- A surface is created if, and only if, the monitor has none. -/
theorem done_wakes {d : Display} {id : MonitorId} {m : Monitor} {s : Stage}
    (found : s.wall.monitor? id = some m) (fit : m.Fit) (ready : d.ready id = true)
    (willing : d.surfaceRefusal id = none) : Wakes id m s (s.done d id) := by
  have looked : s.monitor? id = some m := found
  have still : ∀ l, (s.note l).monitor? id = some m := fun _ => looked
  cases held : m.surface with
  | none =>
    have bare : m.phase = .uncreated := by
      by_contra created
      have := fit.surface_iff.mpr created
      rw [held] at this
      cases this
    simp only [Stage.done, looked, Stage.ensureSurface, ready, still, bare, willing, if_true]
    refine ⟨⟨.pendingConfigure, ?_⟩, rfl, rfl, ?_⟩
    · have created := monitor?_putMonitor_self s.wall.claimSurface id
        { m with surface := some s.wall.nextSurface, phase := .pendingConfigure }
      simp only [surfaceOr, held, Option.getD_none]
      exact created
    · rw [if_pos held]
      rfl
  | some surface =>
    have created : m.phase ≠ .uncreated := fit.surface_iff.mp (by simp [held])
    simp only [Stage.done, looked, Stage.ensureSurface, ready, still, created, if_true, if_false]
    refine ⟨⟨m.phase, ?_⟩, rfl, rfl, by simp [held, Stage.note]⟩
    have same : { m with surface := some (s.wall.surfaceOr m), phase := m.phase } = m := by
      simp only [surfaceOr, held, Option.getD_some]
      rw [← held]
    rw [same]
    exact found

/-! ## Drawing on a monitor -/

theorem frame?_retireFrame_self (w : Wall) (f : FrameId) :
    (w.retireFrame (some f)).frame? f = (w.frame? f).bind Frame.retire := by
  cases found : w.frame? f with
  | none => simp [retireFrame, found]
  | some slot =>
    cases busy : slot.busy with
    | true => simp [retireFrame, found, busy, Frame.retire, frame?_putFrame]
    | false => simp [retireFrame, found, busy, Frame.retire, frame?_dropFrame]

/-- What becomes of the earlier frames when a monitor is painted. -/
theorem frame?_paint_old {w : Wall} {id : MonitorId} {m : Monitor} {f : FrameId}
    (pixels : Array UInt8) (old : f ≠ w.nextFrame) :
    (w.paint id m pixels).frame? f =
      if m.frame = some f then (w.frame? f).bind Frame.retire else w.frame? f := by
  split
  · rename_i shown
    rw [paint, shown, frame?_retireFrame_self, frame?_putFrame, if_neg old.symm]
    rfl
  · rename_i other
    exact frame?_paint_other id pixels old other

/-- What drawing on a monitor comes to, if it is drawn on. -/
structure Draws (id : MonitorId) (m : Monitor) (surface : SurfaceId) (pixels : Array UInt8)
    (s s' : Stage) : Prop where
  held : m.surface = some surface
  wall : s'.wall = s.wall.paint id m pixels
  calls : ∃ rest, s'.calls = s.calls ++ .allocate s.wall.nextFrame m.frameSize ::
    .attach surface s.wall.nextFrame m.scale m.frameSize pixels :: rest

theorem drawOn_draws {d : Display} {id : MonitorId} {m : Monitor} {pixels : Array UInt8}
    {extent : Extent} {s : Stage} (found : s.wall.monitor? id = some m) (fit : m.Fit)
    (ready : m.phase = .drawable) (fitting : m.Fitting) (generous : d.Generous)
    (legible : Legible pixels extent) (filter : Filter) :
    (s.drawOn d id pixels extent filter).1 = .drawn ∧
      ∃ surface filled, Draws id m surface filled s (s.drawOn d id pixels extent filter).2 := by
  obtain ⟨surface, held⟩ := fit.surface_of_drawable ready
  obtain ⟨memory, given, fits⟩ := generous s.wall.nextFrame m.frameSize
  obtain ⟨filled, factor, covered⟩ :=
    legible.covers filter (fit.some_frame ready fitting) fits
  have looked : s.monitor? id = some m := found
  have drawable : m.phase.isDrawable = true := by simp [Phase.isDrawable, ready]
  simp only [Stage.drawOn, looked, drawable, if_true, Stage.drawFrame, given, Stage.fillFrame,
    covered, held]
  refine ⟨trivial, surface, filled, held, wall_attachFrame rfl id m surface filled, ?_⟩
  obtain ⟨rest, calls⟩ := Stage.calls_attachFrame id m surface s.wall.nextFrame m.frameSize filled
    (Stage.call (.allocate s.wall.nextFrame m.frameSize) { s with wall := s.wall.claimFrame })
  refine ⟨rest, calls.trans ?_⟩
  simp [Stage.call]

/-! ## Frames that wait for their release -/

theorem Move.nextFrame_le {M M' : Moment} {es : List Event} (move : Move M es M') :
    M.wall.nextFrame ≤ M'.wall.nextFrame := by
  cases move with
  | allocateFailed | spoil | draw => exact Nat.le_succ _
  | _ => exact Nat.le_refl _

/-- A slot stays as it is, unless it is retired, freed because it is idle, released, or taken down
with everything. -/
theorem Move.slot_cases {M M' : Moment} {es : List Event} (move : Move M es M') {f : FrameId}
    (below : f < M.wall.nextFrame) :
    M'.wall.frame? f = M.wall.frame? f ∨ ∃ slot, M.wall.frame? f = some slot ∧
      (M'.wall.frame? f = some { slot with retired := true } ∨ slot.busy = false ∨
        .operation (.released f) ∈ es ∨ M.ending = true) := by
  cases move with
  | @draw w _ _ _ _ _ _ _ =>
    have old : w.nextFrame ≠ f := Nat.ne_of_gt below
    exact .inl (by rw [frame?_putFrame, if_neg old]; rfl)
  | @retireBusy w k slot _ found _ =>
    by_cases own : k = f
    · subst own
      exact .inr ⟨slot, found, .inl (by rw [frame?_putFrame, if_pos rfl])⟩
    · exact .inl (by rw [frame?_putFrame, if_neg own])
  | @retireIdle w k slot _ found idle =>
    by_cases own : k = f
    · subst own
      exact .inr ⟨slot, found, .inr (.inl idle)⟩
    · exact .inl (by rw [frame?_dropFrame, if_neg own])
  | @rest w k slot found _ =>
    by_cases own : k = f
    · subst own
      exact .inr ⟨slot, found, .inr (.inr (.inl List.mem_cons_self))⟩
    · exact .inl (by simp only [Moment.wall_still, frame?_putFrame, if_neg own])
  | @collect w k slot found _ =>
    by_cases own : k = f
    · subst own
      exact .inr ⟨slot, found, .inr (.inr (.inl List.mem_cons_self))⟩
    · exact .inl (by simp only [Moment.wall_still, frame?_dropFrame, if_neg own])
  | @discard w k slot _ found =>
    by_cases own : k = f
    · subst own
      exact .inr ⟨slot, found, .inr (.inr (.inr rfl))⟩
    · exact .inl (by rw [frame?_dropFrame, if_neg own])
  | _ => exact .inl rfl

theorem Move.ending {M M' : Moment} {es : List Event} (move : Move M es M')
    (ends : M'.ending = true) : M.ending = true ∨ .operation .shutdown ∈ es := by
  cases move with
  | strike => exact .inr List.mem_cons_self
  | releaseOutput | leave | discard => exact .inl ends
  | _ => cases ends

/-- No slot goes without being freed. -/
theorem Move.freed {M M' : Moment} {es : List Event} (move : Move M es M') {f : FrameId}
    {slot : Frame} (found : M.wall.frame? f = some slot) (gone : M'.wall.frame? f = none) :
    .call (.free f) ∈ es := by
  have dropped : ∀ {w : Wall} {k}, w.frame? f = some slot → (w.dropFrame k).frame? f = none →
      k = f := by
    intro w k found gone
    by_contra other
    rw [frame?_dropFrame, if_neg other, found] at gone
    cases gone
  have put : ∀ {w : Wall} {k slot'}, w.frame? f = some slot →
      (w.putFrame k slot').frame? f ≠ none := by
    intro w k slot' found gone
    rw [frame?_putFrame] at gone
    split at gone
    · cases gone
    · cases found.symm.trans gone
  cases move with
  | draw _ _ _ _ => exact absurd gone (put found)
  | retireBusy _ _ _ => exact absurd gone (put found)
  | rest _ _ => exact absurd gone (put found)
  | retireIdle _ _ _ => simp [dropped found gone]
  | collect _ _ => simp [dropped found gone]
  | discard _ _ => simp [dropped found gone]
  | _ => cases found.symm.trans gone

theorem Moves.freed {M M' : Moment} {es : List Event} (moves : Moves M es M') {f : FrameId}
    {slot : Frame} (found : M.wall.frame? f = some slot) (gone : M'.wall.frame? f = none) :
    .call (.free f) ∈ es := by
  induction moves generalizing slot with
  | refl => cases found.symm.trans gone
  | @cons M₀ M₁ M₂ es es' first _ ih =>
    cases here : M₁.wall.frame? f with
    | none => exact List.mem_append_left _ (first.freed found here)
    | some slot' => exact List.mem_append_right _ (ih here gone)

structure Parked (f : FrameId) (slot : Frame) (M : Moment) : Prop where
  found : M.wall.frame? f = some slot
  below : f < M.wall.nextFrame
  going : M.ending = false

section Parked

variable {f : FrameId} {slot : Frame}

theorem Parked.move {M M' : Moment} {es : List Event} (parked : Parked f slot M)
    (retired : slot.retired = true) (busy : slot.busy = true) (move : Move M es M')
    (unreleased : .operation (.released f) ∉ es) (going : .operation .shutdown ∉ es) :
    Parked f slot M' := by
  have going' : M'.ending = false := by
    refine Bool.eq_false_iff.mpr fun ends => ?_
    rcases move.ending ends with ending | struck
    · rw [parked.going] at ending
      cases ending
    · exact going struck
  refine ⟨?_, Nat.lt_of_lt_of_le parked.below move.nextFrame_le, going'⟩
  rcases move.slot_cases parked.below with
    same | ⟨slot', found', retires | idle | released | ending⟩
  · exact same.trans parked.found
  · cases parked.found.symm.trans found'
    rw [retires, ← retired]
  · cases parked.found.symm.trans found'
    rw [busy] at idle
    cases idle
  · exact absurd released unreleased
  · rw [parked.going] at ending
    cases ending

theorem Parked.perform {s : Stage} (parked : Parked f slot (.still s.wall))
    (retired : slot.retired = true) (busy : slot.busy = true) (d : Display) {op : Operation}
    (unreleased : op ≠ .released f) (going : op ≠ .shutdown) :
    Parked f slot (.still (s.perform d op).2.wall) := by
  have entered : Parked f slot (.still (op.entering s.wall)) := by
    cases op <;> exact ⟨parked.found, parked.below, rfl⟩
  have kept := (perform_moves_entering d op s).preserve
    (P := fun h M => .operation (.released f) ∉ h → .operation .shutdown ∉ h → Parked f slot M)
    (fun {h M M' es} was move unreleased going =>
      (was (fun early => unreleased (List.mem_append_left _ early))
        (fun early => going (List.mem_append_left _ early))).move retired busy move
          (fun late => unreleased (List.mem_append_right _ late))
          (fun late => going (List.mem_append_right _ late)))
    (h := []) (fun _ _ => entered)
  exact kept (fun began => unreleased (mem_turn_operation began).symm)
    (fun began => going (mem_turn_operation began).symm)

theorem Parked.run {s : Stage} (parked : Parked f slot (.still s.wall))
    (retired : slot.retired = true) (busy : slot.busy = true)
    {later : List (Display × Operation)}
    (others : ∀ p ∈ later, p.2 ≠ .released f ∧ p.2 ≠ .shutdown) :
    Parked f slot (.still (s.run later).wall) := by
  induction later generalizing s with
  | nil => exact parked
  | cons p later ih =>
    obtain ⟨unreleased, going⟩ := others p List.mem_cons_self
    exact ih (parked.perform retired busy p.1 unreleased going)
      fun q hq => others q (List.mem_cons_of_mem _ hq)

/-- A retired frame is freed by its release, and by the end of everything. -/
theorem freed_of_retired {s : Stage} (found : s.wall.frame? f = some slot)
    (retired : slot.retired = true) (d : Display) {op : Operation}
    (ends : op = .released f ∨ op = .shutdown) :
    .call (.free f) ∈ s.turn d op ∧ (s.perform d op).2.wall.frame? f = none := by
  have gone : (s.perform d op).2.wall.frame? f = none := by
    rcases ends with rfl | rfl
    · change (s.released f).wall.frame? f = none
      rw [(settles_released f s).wall]
      refine (Table.find?_change _ _ _ _).trans ?_
      rw [if_pos rfl]
      change (s.wall.frame? f).bind Frame.release = none
      simp [found, Frame.release, retired]
    · simp [Stage.perform, Stage.wall_shutdown, frame?]
  have welcome : op.Welcome s.wall := by
    rcases ends with rfl | rfl <;> trivial
  exact ⟨(perform_moves welcome).freed found gone, gone⟩

end Parked

/-! ## Requests -/

theorem Leads.nextFrame_le {s s' : Stage} {M M' : Moment} (leads : Leads s s' M M') :
    M.wall.nextFrame ≤ M'.wall.nextFrame := by
  obtain ⟨_, _, moves⟩ := leads
  exact moves.preserve (P := fun _ M₁ => M.wall.nextFrame ≤ M₁.wall.nextFrame)
    (fun le move => Nat.le_trans le move.nextFrame_le) (h := []) (Nat.le_refl _)

/-- A frame that is gone does not come back. -/
theorem Leads.gone {s s' : Stage} {M M' : Moment} (leads : Leads s s' M M') {f : FrameId}
    (gone : M.wall.frame? f = none) (below : f < M.wall.nextFrame) : M'.wall.frame? f = none := by
  obtain ⟨_, _, moves⟩ := leads
  have kept := moves.preserve
    (P := fun _ M₁ => M₁.wall.frame? f = none ∧ f < M₁.wall.nextFrame)
    (fun {h M₁ M₂ es} was move => by
      refine ⟨?_, Nat.lt_of_lt_of_le was.2 move.nextFrame_le⟩
      rcases move.slot_cases was.2 with same | ⟨slot, found, _⟩
      · exact same.trans was.1
      · cases was.1.symm.trans found)
    (h := []) ⟨gone, below⟩
  exact kept.1

/-- What belongs to a monitor stays as it is while others are served. -/
theorem Within.slot_kept {s s' : Stage} {id : MonitorId}
    (within : Within (sparing s.wall id) s s') {f : FrameId} {slot : Frame}
    (found : s.wall.frame? f = some slot) (mine : slot.owner = id) :
    s'.wall.frame? f = some slot :=
  (within.slots fun other => other slot found mine).trans found

/-- An attempt at which a monitor is drawn on, in a request from `s` to `s'`. -/
structure Amid (id : MonitorId) (m : Monitor) (surface : SurfaceId) (filled : Array UInt8)
    (s s' : Stage) (a : Attempt) : Prop where
  named : a.id = id
  verdict : a.verdict = .drawn
  draws : Draws id m surface filled a.before a.after
  before : Within (sparing s.wall id) s a.before
  after : Within (sparing a.after.wall id) a.after s'
  before_leads : Leads s a.before (.still s.wall) (.still a.before.wall)
  leads : Leads a.before a.after (.still a.before.wall) (.still a.after.wall)
  after_leads : Leads a.after s' (.still a.after.wall) (.still s'.wall)

section Request

variable {d : Display} {target : Option String} {pixels : Array UInt8} {extent : Extent}
  {s : Stage} {id : MonitorId} {m : Monitor}

theorem apply_draws (sound : SoundAt (.still s.wall)) (found : s.wall.monitor? id = some m)
    (ready : m.phase = .drawable) (fitting : m.Fitting) (meant : m.matchesTarget target = true)
    (generous : d.Generous) (legible : Legible pixels extent) (filter : Filter) :
    ∃ a ∈ s.tries d target (.image pixels extent) filter, ∃ surface filled,
      Amid id m surface filled s (s.apply d target (.image pixels extent) filter).2 a := by
  have tried := tried d target (.image pixels extent) filter s
  have wanted : id ∈ (s.tries d target (.image pixels extent) filter).map (·.id) := by
    rw [tried.named]
    exact mem_targets.mpr ⟨m, found, meant⟩
  obtain ⟨a, ha, rfl⟩ := List.mem_map.mp wanted
  obtain ⟨past, rest, split⟩ := List.append_of_mem ha
  have divided := divided split
  obtain ⟨early, late⟩ := divided.once (nodup_targets s.wall target)
  obtain ⟨before_leads, leads, after_leads⟩ := attempt_leads ha
  obtain ⟨m', found', still, _⟩ := tried.judged a ha
  cases found.symm.trans found'
  have drew : a.before.drawOn d a.id pixels extent filter = (a.verdict, a.after) := divided.step
  obtain ⟨verdict, surface, filled, draws⟩ := drawOn_draws still
    (sound.monitors.fit found) ready fitting generous legible filter
  rw [drew] at verdict draws
  have served := tried.served
  have wall : (s.apply d target (.image pixels extent) filter).2.wall =
      (s.finish (s.tries d target (.image pixels extent) filter)).wall := by
    rw [served, Stage.wall_noteUnmatched]
  have calls : (s.apply d target (.image pixels extent) filter).2.calls =
      (s.finish (s.tries d target (.image pixels extent) filter)).calls := by
    rw [served, Stage.calls_noteUnmatched]
  refine ⟨a, ha, surface, filled, rfl, verdict, draws, ?before, ?after, before_leads, leads, ?rest⟩
  case before =>
    rw [divided.before_eq, divided.past_eq]
    exact within_finish (within_sparing sound a.id) fun id hid same => early (same ▸ hid)
  case after =>
    have sound_after := (sound.leads before_leads).leads leads
    refine Within.congr ?_ wall calls
    rw [Stage.tries, divided.finish_eq, divided.rest_eq]
    exact within_finish (within_sparing sound_after a.id) fun id hid same => late (same ▸ hid)
  case rest =>
    rw [wall]
    obtain ⟨cs, calls', moves⟩ := after_leads
    exact ⟨cs, calls.trans calls', moves⟩

variable {s' : Stage} {a : Attempt} {surface : SurfaceId} {filled : Array UInt8}
  {f : FrameId} {slot : Frame}

/-- What becomes of a frame of a monitor when another one takes its place. -/
theorem Amid.settled (amid : Amid id m surface filled s s' a) (sound : Sound s.wall)
    (found : s.wall.monitor? id = some m) (hslot : s.wall.frame? f = some slot)
    (mine : slot.owner = id) :
    a.after.wall.frame? f = if slot.busy then some { slot with retired := true } else none := by
  have old : f ≠ a.before.wall.nextFrame :=
    Nat.ne_of_lt (Nat.lt_of_lt_of_le (sound.frame_below hslot) amid.before_leads.nextFrame_le)
  rw [amid.draws.wall, frame?_paint_old filled old, amid.before.slot_kept hslot mine]
  rcases sound.slot_used hslot with ⟨m', found', shown, _⟩ | ⟨retired, busy⟩
  · rw [mine] at found'
    cases found.symm.trans found'
    rw [if_pos shown]
    rfl
  · have same : { slot with retired := true } = slot := by
      rw [← retired]
    rw [if_pos busy, same]
    split
    · rw [Option.bind_some, Frame.retire, if_pos busy, same]
    · rfl

/-- The monitor ends with the frame that was next at its turn. -/
theorem Amid.painted (amid : Amid id m surface filled s s' a) (sound : Sound s.wall)
    (found : s.wall.monitor? id = some m) :
    s'.wall.monitor? id = some { m with frame := some a.before.wall.nextFrame } ∧
      s'.wall.frame? a.before.wall.nextFrame = some ⟨id, m.frameSize, filled, true, false⟩ := by
  -- The monitor cannot have shown this frame before.
  have fresh : m.frame ≠ some a.before.wall.nextFrame := by
    intro shown
    obtain ⟨slot, hslot, _⟩ := sound.frame_owned found shown
    have below := sound.frame_below hslot
    exact Nat.lt_irrefl _ (Nat.lt_of_lt_of_le below amid.before_leads.nextFrame_le)
  have monitor := monitor?_paint a.before.wall id id m filled
  have slot := frame?_paint_new id filled fresh
  rw [← amid.draws.wall] at monitor slot
  rw [if_pos rfl] at monitor
  exact ⟨(amid.after.others fun other => other rfl).trans monitor, amid.after.slot_kept slot rfl⟩

theorem Amid.calls (amid : Amid id m surface filled s s' a) :
    ∃ past rest, s'.calls = s.calls ++ past ++ .allocate a.before.wall.nextFrame m.frameSize ::
      .attach surface a.before.wall.nextFrame m.scale m.frameSize filled :: rest := by
  obtain ⟨past, calls_past, _⟩ := amid.before_leads
  obtain ⟨rest, calls⟩ := amid.draws.calls
  obtain ⟨rest', calls_rest, _⟩ := amid.after_leads
  refine ⟨past, rest ++ rest', ?_⟩
  rw [calls_rest, calls, calls_past]
  simp

/-- A frame that was released is gone for good. -/
theorem Amid.gone (amid : Amid id m surface filled s s' a) (sound : Sound s.wall)
    (found : s.wall.monitor? id = some m) (hslot : s.wall.frame? f = some slot)
    (mine : slot.owner = id) (idle : slot.busy = false) :
    s'.wall.frame? f = none := by
  have settled := amid.settled sound found hslot mine
  rw [if_neg (by simp [idle])] at settled
  have below : f < a.after.wall.nextFrame := Nat.lt_of_lt_of_le (sound.frame_below hslot)
    (Nat.le_trans amid.before_leads.nextFrame_le amid.leads.nextFrame_le)
  exact amid.after_leads.gone settled below

/-- A frame that was not released is retired, and waits. -/
theorem Amid.parked (amid : Amid id m surface filled s s' a) (sound : Sound s.wall)
    (after : Sound s'.wall) (found : s.wall.monitor? id = some m)
    (hslot : s.wall.frame? f = some slot) (mine : slot.owner = id) (busy : slot.busy = true) :
    Parked f { slot with retired := true } (.still s'.wall) := by
  have settled := amid.settled sound found hslot mine
  rw [if_pos busy] at settled
  have waits := amid.after.slot_kept settled mine
  exact ⟨waits, after.frame_below waits, rfl⟩

end Request

/-! ## Runs -/

section Runs

variable {s s' : Stage} {id : MonitorId} {m : Monitor} {size : Extent}

/-- A monitor that was woken and given a size. -/
structure Awake (id : MonitorId) (m : Monitor) (size : Extent) (s s' : Stage) : Prop where
  monitor : s'.wall.monitor? id = some { m with
    surface := some (s.wall.surfaceOr m), phase := .drawable, size := size }
  frames : s'.wall.frames = s.wall.frames
  nextFrame : s'.wall.nextFrame = s.wall.nextFrame

theorem Wakes.configure {t : Stage} (wakes : Wakes id m s t) (serial : UInt32)
    (full : size.isEmpty = false) : Awake id m size s (t.configure id serial size).2 := by
  obtain ⟨⟨phase, found⟩, frames, nextFrame, _⟩ := wakes
  have wall := configure_wall serial size found rfl
  rw [full, if_neg (by simp)] at wall
  refine ⟨?_, ?_, ?_⟩
  · rw [wall, monitor?_putMonitor_self]
    rfl
  · rw [wall]
    exact frames
  · rw [wall]
    exact nextFrame

theorem Awake.frame? (awake : Awake id m size s s') (f : FrameId) :
    s'.wall.frame? f = s.wall.frame? f := by
  rw [Wall.frame?, awake.frames]
  rfl

theorem Awake.revived {d : Display} {target : Option String} {pixels : Array UInt8}
    {extent : Extent} (awake : Awake id m size s s') (sound : SoundAt (.still s'.wall))
    (width : size.width.toNat * m.scale.toNat < UInt32.size)
    (height : size.height.toNat * m.scale.toNat < UInt32.size)
    (meant : m.matchesTarget target = true) (generous : d.Generous)
    (legible : Legible pixels extent) (filter : Filter) :
    ∃ f slot, Revived id m size d target pixels extent filter s s'
      (s'.apply d target (.image pixels extent) filter).2
      (s'.apply d target (.image pixels extent) filter).1 f slot := by
  have fitting : Monitor.Fitting { m with
      surface := some (s.wall.surfaceOr m), phase := .drawable, size := size } := ⟨width, height⟩
  obtain ⟨a, ha, surface, filled, amid⟩ :=
    apply_draws sound awake.monitor rfl fitting meant generous legible filter
  have held := amid.draws.held
  cases held
  have leads := Stage.apply_leads d target (.image pixels extent) filter s'
  have after := sound.leads leads
  obtain ⟨monitor, slot⟩ := amid.painted sound.sound awake.monitor
  obtain ⟨wide, high⟩ := (sound.monitors.fit awake.monitor).frameSize rfl fitting
  refine ⟨a.before.wall.nextFrame, _, monitor, ?fresh, slot, ⟨rfl, rfl, rfl, wide, high⟩,
    amid.calls, ⟨?counted, a, ha, amid.named, amid.verdict⟩,
    fun f₀ slot₀ found mine idle => ?freed, fun f₀ slot₀ found mine busy later others => ?kept⟩
  case fresh =>
    rw [← awake.nextFrame]
    exact amid.before_leads.nextFrame_le
  case counted => rw [(tried d target (.image pixels extent) filter s').served]
  case freed =>
    have here := (awake.frame? f₀).trans found
    have gone := amid.gone sound.sound awake.monitor here mine idle
    obtain ⟨cs, calls, moves⟩ := leads
    obtain ⟨c, hc, same⟩ := List.mem_map.mp (moves.freed here gone)
    cases same
    exact ⟨gone, cs, calls, hc⟩
  case kept =>
    have here := (awake.frame? f₀).trans found
    have parked := amid.parked sound.sound after.sound awake.monitor here mine busy
    have still := (parked.run rfl busy others).found
    exact ⟨still, fun d' op ends => freed_of_retired still rfl d' ends⟩

end Runs

/-- Whatever happened before, a monitor that is woken, given a size and drawn on shows a picture. -/
theorem revived_run {ops : List (Display × Operation)} (orderly : Stage.empty.Orderly [] ops)
    {id : MonitorId} {m : Monitor} (found : (Stage.empty.run ops).wall.monitor? id = some m)
    {d₁ d₃ : Display} (ready : d₁.ready id = true) (willing : d₁.surfaceRefusal id = none)
    (generous : d₃.Generous) (d₂ : Display) (serial : UInt32) {size : Extent}
    (full : size.isEmpty = false) (width : size.width.toNat * m.scale.toNat < UInt32.size)
    (height : size.height.toNat * m.scale.toNat < UInt32.size) {target : Option String}
    (meant : m.matchesTarget target = true) {pixels : Array UInt8} {extent : Extent}
    (legible : Legible pixels extent) (filter : Filter) :
    let s := Stage.empty.run ops
    let s' := s.woken d₁ d₂ id serial size
    let (r, s'') := s'.apply d₃ target (.image pixels extent) filter
    s.turn d₁ (.done id) = .operation (.done id) ::
        (if m.surface = none then [.call (.createSurface id m.handle s.wall.nextSurface)] else []) ∧
      ∃ f slot, Revived id m size d₃ target pixels extent filter s s' s'' r f slot := by
  have sound := soundAt_run orderly
  have wakes := done_wakes found (sound.monitors.fit found) ready willing
  have awake := wakes.configure serial full
  have later : SoundAt (.still (Stage.woken (Stage.empty.run ops) d₁ d₂ id serial size).wall) := by
    have done := sound.leads (Stage.done_leads d₁ id (Stage.empty.run ops))
    have moves := configure_moves d₂ id serial size ((Stage.empty.run ops).done d₁ id)
    exact moves.preserve (P := fun _ M => SoundAt M) (fun sound move => sound.move move)
      (h := []) done
  refine ⟨?_, awake.revived later width height meant generous legible filter⟩
  have calls : ((Stage.empty.run ops).perform d₁ (.done id)).2.calls = _ := wakes.calls
  rw [turn_eq calls]
  split <;> rfl

/-- A monitor that shows a picture is closed. Its frame is not released yet. -/
def forsaken : List (Display × Operation) := pictured ++ [(stingy, .closed 1)]

theorem revived_run_forsaken :
    Stage.empty.Orderly [] forsaken ∧
      ∃ m, (Stage.empty.run forsaken).wall.monitor? 1 = some m ∧ m.surface = none ∧
        ((Stage.empty.run forsaken).wall.frame? 1).map (fun slot => (slot.owner, slot.busy)) =
          some (1, true) ∧
        (let s := Stage.empty.run forsaken
          let s' := s.woken lavish stingy 1 9 ⟨2, 1⟩
          let (r, s'') := s'.apply lavish (some "DP-2") (.image #[1, 2, 3, 4] ⟨1, 1⟩) .nearest
          s.turn lavish (.done 1) = [.operation (.done 1), .call (.createSurface 1 4 2)] ∧
            ∃ f slot, Revived 1 m ⟨2, 1⟩ lavish (some "DP-2") #[1, 2, 3, 4] ⟨1, 1⟩ .nearest
              s s' s'' r f slot) := by
  have orderly : Stage.empty.Orderly [] forsaken := by decide
  have found : (Stage.empty.run forsaken).wall.monitor? 1 =
      some ⟨8, 4, some "DP-2", ⟨0, 0⟩, 1, none, .uncreated, ⟨1, 1⟩, none⟩ := by decide
  have legible : Legible #[1, 2, 3, 4] ⟨1, 1⟩ := ⟨by decide, by decide⟩
  exact ⟨orderly, _, found, rfl, by decide,
    revived_run orderly found rfl rfl generous_lavish stingy 9 (by decide) (by decide) (by decide)
      (by decide) legible .nearest⟩

end Wall
end Backdrop
