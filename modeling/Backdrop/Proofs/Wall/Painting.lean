import Backdrop.Proofs.Wall.Sound

/-!
# Backdrop.Proofs.Wall.Painting

What a picture that is put on some monitors does to each of them, and to the others.

* `Wall.paint` gives one monitor a new frame and retires the old one; `drawOn_painted` says that
  this is what drawing on a drawable monitor comes to, if there is memory for the frame.
* `Painted w w' ids shows`: the drawable monitors among `ids` have new frames, with pixels as
  `shows` says, and nothing else is different.
* `applyAll_painted` is about any number of monitors, one after another.
-/

namespace Backdrop
namespace Wall

theorem SoundAt.leads {s s' : Stage} {M M' : Moment} (sound : SoundAt M) (leads : Leads s s' M M') :
    SoundAt M' := by
  obtain ⟨_, _, moves⟩ := leads
  exact moves.preserve (P := fun _ M => SoundAt M) (fun sound move => sound.move move) (h := [])
    sound

/-! ## Targets and sizes -/

theorem mem_targets {w : Wall} {target : Option String} {id : MonitorId} :
    id ∈ w.targets target ↔ ∃ m, w.monitor? id = some m ∧ m.matchesTarget target = true := by
  constructor
  · intro h
    obtain ⟨⟨j, m⟩, he, rfl⟩ := List.mem_map.mp h
    obtain ⟨listed, wanted⟩ := List.mem_filter.mp he
    exact ⟨m, Table.find?_eq_some_iff.mpr listed, wanted⟩
  · rintro ⟨m, found, wanted⟩
    have listed : (id, m) ∈ w.monitors.entries := Table.find?_eq_some_iff.mp found
    exact List.mem_map.mpr ⟨(id, m), List.mem_filter.mpr ⟨listed, wanted⟩, rfl⟩

theorem nodup_targets (w : Wall) (target : Option String) : (w.targets target).Nodup := by
  refine List.Pairwise.map _ (fun a b h => ?_) (w.monitors.ascending.filter _)
  exact Nat.ne_of_lt h

/-- The size times the scale can be written down. -/
structure Monitor.Fitting (m : Monitor) : Prop where
  width : m.size.width.toNat * m.scale.toNat < UInt32.size
  height : m.size.height.toNat * m.scale.toNat < UInt32.size

section Fitting

variable {m : Monitor} (fitting : m.Fitting) (full : m.size.width ≠ 0) (scaled : 1 ≤ m.scale)
include fitting full scaled

theorem Monitor.Fitting.factor : m.factor.toNat = m.scale.toNat := by
  have pos : 0 < m.size.width.toNat :=
    Nat.pos_of_ne_zero fun h => full (UInt32.toNat_inj.mp h)
  have small : m.scale.toNat < UInt32.size :=
    Nat.lt_of_le_of_lt (Nat.le_mul_of_pos_left _ pos) fitting.width
  rw [Monitor.factor, Int.max_eq_left scaled]
  exact Nat.mod_eq_of_lt small

theorem Monitor.Fitting.frameSize :
    m.frameSize.width.toNat = m.size.width.toNat * m.scale.toNat ∧
      m.frameSize.height.toNat = m.size.height.toNat * m.scale.toNat := by
  simp only [Monitor.frameSize, Extent.scaled, UInt32.toNat_mul, fitting.factor full scaled]
  exact ⟨Nat.mod_eq_of_lt fitting.width, Nat.mod_eq_of_lt fitting.height⟩

/-- Checked arithmetic has the size of the frame, too. -/
theorem Monitor.Fitting.scaled? : m.size.scaled? m.factor = some m.frameSize := by
  rw [Extent.scaled?, fitting.factor full scaled, if_pos ⟨fitting.width, fitting.height⟩]
  rfl

end Fitting

/-- A frame for a drawable monitor has its size times its scale. -/
theorem Monitor.Fit.frameSize {m : Monitor} (fit : m.Fit) (ready : m.phase = .drawable)
    (fitting : m.Fitting) :
    m.frameSize.width.toNat = m.size.width.toNat * m.scale.toNat ∧
      m.frameSize.height.toNat = m.size.height.toNat * m.scale.toNat :=
  fitting.frameSize (fit.size_full ready).1 fit.scale_pos

/-! ## One monitor -/

def retireFrame (o : Option FrameId) (w : Wall) : Wall :=
  match o with
  | none => w
  | some f =>
    match w.frame? f with
    | none => w
    | some slot => if slot.busy then w.putFrame f { slot with retired := true } else w.dropFrame f

theorem wall_retireOption (o : Option FrameId) (s : Stage) :
    (s.retireOption o).wall = s.wall.retireFrame o := by
  cases o with
  | none => rfl
  | some f =>
    have looked : s.frame? f = s.wall.frame? f := rfl
    simp only [Stage.retireOption, Stage.retire, retireFrame, looked]
    cases s.wall.frame? f with
    | none => rfl
    | some slot =>
      cases busy : slot.busy with
      | true => simp only [busy, if_true]; rfl
      | false => simp only [busy, Bool.false_eq_true, if_false]; rfl

/-- A frame with these pixels replaces what the monitor showed. -/
def paint (w : Wall) (id : MonitorId) (m : Monitor) (pixels : Array UInt8) : Wall :=
  ((w.claimFrame.putMonitor id { m with frame := some w.nextFrame }).putFrame w.nextFrame
    ⟨id, m.frameSize, pixels, true, false⟩).retireFrame m.frame

theorem wall_attachFrame {s : Stage} {w : Wall} (claimed : s.wall = w.claimFrame) (id : MonitorId)
    (m : Monitor) (surface : SurfaceId) (pixels : Array UInt8) :
    (s.attachFrame id m surface w.nextFrame m.frameSize pixels).wall = w.paint id m pixels := by
  rw [Stage.attachFrame, wall_retireOption, paint, ← claimed]
  rfl

/-- Drawing asks for the next frame, and shows it or gives it back. -/
theorem wall_drawFrame (d : Display) (id : MonitorId) (m : Monitor) (pixels : Array UInt8)
    (extent : Extent) (filter : Filter) (s : Stage) :
    (s.drawFrame d id m pixels extent filter).2.wall = s.wall.claimFrame ∨
      ∃ filled, (s.drawFrame d id m pixels extent filter).2.wall = s.wall.paint id m filled := by
  simp only [Stage.drawFrame]
  split
  · exact .inl rfl
  · simp only [Stage.fillFrame]
    split
    · exact .inl rfl
    · split
      · exact .inl rfl
      · exact .inr ⟨_, wall_attachFrame (w := s.wall) rfl _ _ _ _⟩

section Views

variable (w : Wall) (o : Option FrameId) (id j : MonitorId) (m : Monitor) (f k : FrameId)
  (pixels : Array UInt8)

theorem monitor?_retireFrame : (w.retireFrame o).monitor? j = w.monitor? j := by
  unfold retireFrame
  split
  · rfl
  · split
    · rfl
    · split <;> rfl

theorem nextFrame_retireFrame : (w.retireFrame o).nextFrame = w.nextFrame := by
  unfold retireFrame
  split
  · rfl
  · split
    · rfl
    · split <;> rfl

variable {o k} in
/-- Only the frame that is retired can be freed. -/
theorem frame?_retireFrame (other : o ≠ some k) : (w.retireFrame o).frame? k = w.frame? k := by
  unfold retireFrame
  split
  · rfl
  · rename_i f
    have hne : f ≠ k := fun e => other (congrArg some e)
    split
    · rfl
    · split
      · rw [frame?_putFrame, if_neg hne]
      · rw [frame?_dropFrame, if_neg hne]

theorem monitor?_paint :
    (w.paint id m pixels).monitor? j =
      if id = j then some { m with frame := some w.nextFrame } else w.monitor? j := by
  rw [paint, monitor?_retireFrame]
  exact monitor?_putMonitor _ _ _ _

theorem nextFrame_paint : (w.paint id m pixels).nextFrame = w.nextFrame + 1 :=
  nextFrame_retireFrame _ _

variable {w m k}

theorem frame?_paint_new (fresh : m.frame ≠ some w.nextFrame) :
    (w.paint id m pixels).frame? w.nextFrame = some ⟨id, m.frameSize, pixels, true, false⟩ := by
  rw [paint, frame?_retireFrame _ fresh, frame?_putFrame, if_pos rfl]

theorem frame?_paint_other (old : k ≠ w.nextFrame) (other : m.frame ≠ some k) :
    (w.paint id m pixels).frame? k = w.frame? k := by
  rw [paint, frame?_retireFrame _ other, frame?_putFrame, if_neg old.symm]
  rfl

end Views

/-- The monitor may be drawn on. -/
def drawable (w : Wall) (id : MonitorId) : Bool := (w.monitor? id).any (·.phase.isDrawable)

theorem drawable_of_monitor? {w : Wall} {id : MonitorId} {m : Monitor}
    (found : w.monitor? id = some m) : w.drawable id = m.phase.isDrawable := by
  simp [drawable, found]

theorem drawable_iff {w : Wall} {id : MonitorId} :
    w.drawable id = true ↔ ∃ m, w.monitor? id = some m ∧ m.phase = .drawable := by
  unfold drawable
  cases w.monitor? id <;> simp [Phase.isDrawable]

/-- Painting a monitor leaves it drawable. -/
theorem drawable_paint {w : Wall} {id : MonitorId} {m : Monitor} (found : w.monitor? id = some m)
    (pixels : Array UInt8) (j : MonitorId) : (w.paint id m pixels).drawable j = w.drawable j := by
  unfold drawable
  rw [monitor?_paint]
  split
  · rename_i e
    subst e
    rw [found]
    rfl
  · rfl

/-- There is memory for every drawable monitor, and the picture can be put there so that it is as
`shows` says. -/
def Paintable (d : Display) (pixels : Array UInt8) (extent : Extent) (filter : Filter)
    (shows : Extent → Array UInt8 → Prop) (w : Wall) : Prop :=
  ∀ id m, w.monitor? id = some m → m.phase = .drawable → ∀ f, ∃ memory filled factor,
    d.allocate f m.frameSize = .ok memory ∧
      Cover.cover memory m.frameSize pixels extent filter = .ok (filled, factor) ∧
      shows m.frameSize filled

section Draw

variable {d : Display} {pixels : Array UInt8} {extent : Extent} {filter : Filter}
  {shows : Extent → Array UInt8 → Prop} {s : Stage} {id : MonitorId} {m : Monitor}

theorem drawOn_painted (paintable : Paintable d pixels extent filter shows s.wall)
    (found : s.wall.monitor? id = some m) (fit : m.Fit) (ready : m.phase = .drawable) :
    ∃ filled, shows m.frameSize filled ∧ (s.drawOn d id pixels extent filter).1 = .drawn ∧
      (s.drawOn d id pixels extent filter).2.wall = s.wall.paint id m filled := by
  obtain ⟨memory, filled, factor, allocated, covered, shown⟩ :=
    paintable id m found ready s.wall.nextFrame
  obtain ⟨surface, held⟩ := fit.surface_of_drawable ready
  have looked : s.monitor? id = some m := found
  have isReady : m.phase.isDrawable = true := by simp [Phase.isDrawable, ready]
  refine ⟨filled, shown, ?_⟩
  simp only [Stage.drawOn, looked, isReady, if_true, Stage.drawFrame, allocated, Stage.fillFrame,
    covered, held, true_and]
  exact wall_attachFrame rfl id m surface filled

variable (d pixels extent filter) in
theorem drawOn_skipped (unready : s.wall.drawable id = false) :
    (s.drawOn d id pixels extent filter).1 = .skipped ∧
      (s.drawOn d id pixels extent filter).2.wall = s.wall := by
  unfold Stage.drawOn
  split
  · exact ⟨rfl, rfl⟩
  · rename_i m found
    rw [drawable_of_monitor? found] at unready
    simp only [unready]
    exact ⟨rfl, rfl⟩

/-- What a picture needs in a wall, it needs after one monitor was painted. -/
theorem Paintable.paint {w : Wall} (paintable : Paintable d pixels extent filter shows w)
    (found : w.monitor? id = some m) (filled : Array UInt8) :
    Paintable d pixels extent filter shows (w.paint id m filled) := by
  intro j m' hm' ready
  rw [monitor?_paint] at hm'
  split at hm'
  · cases hm'
    exact paintable id m found ready
  · exact paintable j m' hm' ready

end Draw

/-! ## Many monitors -/

structure Painted (shows : Extent → Array UInt8 → Prop) (w w' : Wall) (ids : List MonitorId) :
    Prop where
  drawn : ∀ id ∈ ids, ∀ m, w.monitor? id = some m → m.phase = .drawable → ∃ f slot,
    w'.monitor? id = some { m with frame := some f } ∧ w.nextFrame ≤ f ∧
      w'.frame? f = some slot ∧ slot.owner = id ∧ slot.size = m.frameSize ∧
      shows m.frameSize slot.pixels
  kept : ∀ id, ¬ (id ∈ ids ∧ w.drawable id = true) → w'.monitor? id = w.monitor? id
  slots : ∀ id f, ¬ (id ∈ ids ∧ w.drawable id = true) → w.shown? id = some f →
    w'.frame? f = w.frame? f

namespace Painted

variable {shows : Extent → Array UInt8 → Prop} {w w' : Wall} {id : MonitorId}
  {ids : List MonitorId}

theorem nil : Painted shows w w [] :=
  ⟨fun _ h => (nomatch h), fun _ _ => rfl, fun _ _ _ _ => rfl⟩

/-- A monitor that is not drawable is passed over. -/
theorem skip (unready : w.drawable id = false) (rest : Painted shows w w' ids) :
    Painted shows w w' (id :: ids) := by
  have notHere : ∀ {j}, ¬ (j ∈ id :: ids ∧ w.drawable j = true) →
      ¬ (j ∈ ids ∧ w.drawable j = true) :=
    fun h h' => h ⟨List.mem_cons_of_mem _ h'.1, h'.2⟩
  refine ⟨fun j hj m hm ready => ?_, fun j hj => rest.kept j (notHere hj),
    fun j f hj hf => rest.slots j f (notHere hj) hf⟩
  rcases List.mem_cons.mp hj with rfl | hj
  · rw [drawable_of_monitor? hm, ready] at unready
    cases unready
  · exact rest.drawn j hj m hm ready

/-- A drawable monitor is painted, and then others are, but not this one again. -/
theorem cons {m : Monitor} {filled : Array UInt8} (sound : SoundAt (.still w))
    (found : w.monitor? id = some m) (ready : m.phase = .drawable)
    (shown : shows m.frameSize filled) (once : id ∉ ids)
    (rest : Painted shows (w.paint id m filled) w' ids) : Painted shows w w' (id :: ids) := by
  have isReady : w.drawable id = true := by
    simp [drawable_of_monitor? found, Phase.isDrawable, ready]
  have below : ∀ {j f}, w.shown? j = some f → f ≠ w.nextFrame := by
    intro j f hf
    obtain ⟨slot, hslot, _⟩ := sound.frames.owned hf
    exact Nat.ne_of_lt (sound.frames.below hslot)
  have fresh : m.frame ≠ some w.nextFrame := by
    intro hf
    exact below (shown?_eq_some_iff.mpr ⟨m, found, hf⟩) rfl
  have unpainted : ¬ (id ∈ ids ∧ (w.paint id m filled).drawable id = true) := fun h => once h.1
  -- A monitor that stays as it is is another one, now and later.
  have later : ∀ {j}, ¬ (j ∈ id :: ids ∧ w.drawable j = true) →
      id ≠ j ∧ ¬ (j ∈ ids ∧ (w.paint id m filled).drawable j = true) := by
    intro j hj
    rw [drawable_paint found]
    refine ⟨?_, fun h => hj ⟨List.mem_cons_of_mem _ h.1, h.2⟩⟩
    rintro rfl
    exact hj ⟨List.mem_cons_self, isReady⟩
  refine ⟨fun j hj m' hm' ready' => ?_, fun j hj => ?_, fun j f hj hf => ?_⟩
  · rcases List.mem_cons.mp hj with rfl | hj
    · obtain rfl : m = m' := Option.some.inj (found.symm.trans hm')
      have painted :
          (w.paint j m filled).monitor? j = some { m with frame := some w.nextFrame } := by
        rw [monitor?_paint, if_pos rfl]
      have stays := rest.slots j w.nextFrame unpainted
        (shown?_eq_some_iff.mpr ⟨_, painted, rfl⟩)
      refine ⟨w.nextFrame, ⟨j, m.frameSize, filled, true, false⟩, ?_, Nat.le_refl _, ?_, rfl, rfl,
        shown⟩
      · rw [rest.kept j unpainted, painted]
      · rw [stays, frame?_paint_new _ _ fresh]
    · have hne : id ≠ j := fun e => once (e ▸ hj)
      have same : (w.paint id m filled).monitor? j = some m' := by
        rw [monitor?_paint, if_neg hne, hm']
      obtain ⟨f, slot, hmon, le, others⟩ := rest.drawn j hj m' same ready'
      rw [nextFrame_paint] at le
      exact ⟨f, slot, hmon, Nat.le_of_succ_le le, others⟩
  · obtain ⟨hne, hj⟩ := later hj
    rw [rest.kept j hj, monitor?_paint, if_neg hne]
  · obtain ⟨hne, hj⟩ := later hj
    have same : (w.paint id m filled).shown? j = some f := by
      rw [← hf]
      simp only [shown?, monitor?_paint, if_neg hne]
    have other : m.frame ≠ some f := by
      intro h
      exact hne (sound.frames.apart (shown?_eq_some_iff.mpr ⟨m, found, h⟩) hf)
    rw [rest.slots j f hj same, frame?_paint_other _ _ (below hf) other]

end Painted

theorem applyAll_painted {d : Display} {pixels : Array UInt8} {extent : Extent} {filter : Filter}
    {shows : Extent → Array UInt8 → Prop} {ids : List MonitorId} (nodup : ids.Nodup) (r : Report)
    {s : Stage} (sound : SoundAt (.still s.wall))
    (paintable : Paintable d pixels extent filter shows s.wall) :
    (Stage.applyAll d (.image pixels extent) filter ids r s).1 =
        { r with
          drawn := r.drawn + ids.countP s.wall.drawable
          skipped := r.skipped + ids.countP fun id => !s.wall.drawable id } ∧
      Painted shows s.wall (Stage.applyAll d (.image pixels extent) filter ids r s).2.wall ids := by
  -- By induction on the monitors still to be served.
  induction ids generalizing r s with
  | nil => exact ⟨rfl, .nil⟩
  | cons id ids ih =>
    obtain ⟨once, nodup⟩ := List.nodup_cons.mp nodup
    have sound' := sound.leads (Stage.drawOn_leads d id pixels extent filter s)
    simp only [Stage.applyAll, Stage.applyOn]
    cases isReady : s.wall.drawable id with
    | false =>
      obtain ⟨verdict, same⟩ := drawOn_skipped d pixels extent filter isReady
      obtain ⟨report, painted⟩ := ih nodup (r.count .skipped) sound' (by rw [same]; exact paintable)
      rw [same] at report painted
      rw [verdict]
      refine ⟨?_, .skip isReady painted⟩
      rw [report, List.countP_cons_of_neg (by simp [isReady]),
        List.countP_cons_of_pos (by simp [isReady])]
      simp only [Report.count, Report.mk.injEq, and_true, true_and]
      omega
    | true =>
      obtain ⟨m, found, ready⟩ := drawable_iff.mp isReady
      obtain ⟨filled, shown, verdict, painted⟩ :=
        drawOn_painted paintable found (sound.monitors.fit found) ready
      have kept : s.wall.drawable = (s.wall.paint id m filled).drawable :=
        (funext (drawable_paint found filled)).symm
      obtain ⟨report, rest⟩ := ih nodup (r.count .drawn) sound'
        (by rw [painted]; exact paintable.paint found filled)
      rw [painted] at report rest
      rw [verdict]
      refine ⟨?_, .cons sound found ready shown once rest⟩
      rw [report, ← kept, List.countP_cons_of_pos isReady,
        List.countP_cons_of_neg (by simp [isReady])]
      simp only [Report.count, Report.mk.injEq, and_true, true_and]
      omega

end Wall
end Backdrop
